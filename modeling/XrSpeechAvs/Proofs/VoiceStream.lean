import Mathlib.Data.Finset.Basic
import XrSpeechAvs.AvsSdt
import XrSpeechAvs.Lib.Run

/-!
# `XrSpeechAvs.Proofs.VoiceStream`: the callbacks of a session and the flag

A stream begin calls `Voice_Start` and a stream end calls `Voice_Stop`. No other callback
reaches the smart screen, and neither of the two looks at the uuid. So `m_isStarted` is the
kind of the last stream callback (`flagAfter`).

A reader may expect the flag to say whether any stream is open. `openAfter` keeps the set
of the open streams, by uuid. The two differ when sessions overlap, and when a session ends
without the end of its stream.

* `callback_flag`: one callback on a valid handle.
* `callbacks_flag`: the flag after any run of callbacks, and the exact runs in which it
  says whether a stream is open.
* `overlapping_streams_differ`: the two kinds of run in which it does not.
-/

set_option autoImplicit false

namespace XrSpeechAvs.Proofs

open XrSpeechAvs.Impl
open XrSpeechAvs.Lib

/-- `m_isStarted` of the smart screen behind the global, if there is one. -/
def voiceFlag (s : Process) : Option Bool :=
  (s.avsSmartScreen.bind s.screens).map SmartScreen.isStarted

/-- The handle names a live object of this library. -/
def ValidHandle (s : Process) (p : Ptr) : Prop :=
  ∃ obj, s.sdtObjs p = some obj ∧ obj.identifier = AVS_SDT_IDENTIFIER

/-- The flag after a callback: the last stream callback decides. -/
def flagAfter (flag : Bool) : RouterCallback → Bool
  | .streamBegin .. => true
  | .streamEnd .. => false
  | _ => flag

/-- The open streams after a callback. The end of a session closes its stream. -/
def openAfter (opened : Finset Uuid) : RouterCallback → Finset Uuid
  | .streamBegin uuid .. => insert uuid opened
  | .streamEnd uuid .. => opened.erase uuid
  | .sessionEnd uuid .. => opened.erase uuid
  | _ => opened

/-- The callbacks after which the flag still says whether a stream is open. A stream may
end when no other stream is open. A session may end when its stream has ended, or while
another one is open. -/
def EndsAlone (opened : Finset Uuid) : RouterCallback → Prop
  | .streamEnd uuid .. => opened.erase uuid = ∅
  | .sessionEnd uuid .. => uuid ∈ opened → (opened.erase uuid).Nonempty
  | _ => True

instance (opened : Finset Uuid) : (cb : RouterCallback) → Decidable (EndsAlone opened cb)
  | .streamEnd uuid .. => inferInstanceAs (Decidable (opened.erase uuid = ∅))
  | .sessionEnd uuid .. =>
    inferInstanceAs (Decidable (uuid ∈ opened → (opened.erase uuid).Nonempty))
  | .sessionBegin .. | .streamBegin .. | .streamKwd .. | .connected .. | .disconnected .. =>
    inferInstanceAs (Decidable True)

/-! ### The flag of the process -/

/-- A smart screen behind the global, from the value of its flag. -/
theorem voiceFlag_eq_some {s : Process} {flag : Bool} (h : voiceFlag s = some flag) :
    ∃ p screen, s.avsSmartScreen = some p ∧ s.screens p = some screen ∧
      screen.isStarted = flag := by
  unfold voiceFlag at h
  obtain ⟨screen, hscreen, hflag⟩ := Option.map_eq_some_iff.mp h
  obtain ⟨p, hp, hlive⟩ := Option.bind_eq_some_iff.mp hscreen
  exact ⟨p, screen, hp, hlive, hflag⟩

/-- A call on the smart screen that sets the flag to `flag` keeps the objects. -/
theorem withSmartScreen_flag {s : Process} {old flag : Bool}
    {f : SmartScreen → Sdk → SmartScreen × Sdk} (h : voiceFlag s = some old)
    (hf : ∀ screen sdk, (f screen sdk).1.isStarted = flag) :
    ∃ t, s.withSmartScreen f = .ok t ∧ t.sdtObjs = s.sdtObjs ∧
      voiceFlag t = some flag := by
  obtain ⟨p, screen, hp, hlive, -⟩ := voiceFlag_eq_some h
  refine ⟨_, Process.withSmartScreen_of_live f hp hlive, rfl, ?_⟩
  simp only [voiceFlag, hp, Option.bind_some, Function.update_self, Option.map_some, hf]

/-- A callback on a valid handle succeeds. The handle stays valid, and the flag follows
`flagAfter`. -/
theorem callback_flag {s : Process} {p : Ptr} {flag : Bool} (hp : ValidHandle s p)
    (h : voiceFlag s = some flag) (cb : RouterCallback) :
    ∃ t, s.runCallback (some p) cb = .ok t ∧ ValidHandle t p ∧
      voiceFlag t = some (flagAfter flag cb) := by
  obtain ⟨obj, hobj, hid⟩ := hp
  rw [Process.runCallback_eq, Process.routerCallback_of_live hobj hid]
  -- The handler of the application runs first. It leaves the smart screen alone.
  generalize hm : s.callHandler p obj (cb.handler obj.handlers) cb.event = m
  have hflag : voiceFlag m = some flag := by
    rw [← hm, voiceFlag, Process.callHandler_screens, Process.callHandler_avsSmartScreen]
    exact h
  have hlive : m.sdtObjs p = some obj := by
    rw [← hm, Process.callHandler_sdtObjs]
    exact hobj
  cases cb with
  | streamBegin uuid src timestamp =>
    obtain ⟨t, ht, hobjs, hstarted⟩ :=
      withSmartScreen_flag (f := SmartScreen.start) hflag SmartScreen.start_isStarted
    exact ⟨t, ht, ⟨obj, by rw [hobjs, hlive], hid⟩, hstarted⟩
  | streamEnd uuid stats timestamp =>
    obtain ⟨t, ht, hobjs, hstopped⟩ :=
      withSmartScreen_flag (f := SmartScreen.stop) hflag SmartScreen.stop_isStarted
    exact ⟨t, ht, ⟨obj, by rw [hobjs, hlive], hid⟩, hstopped⟩
  | sessionBegin uuid src dstIndex detectorResult configOut timestamp =>
    exact ⟨m, rfl, ⟨obj, hlive, hid⟩, hflag⟩
  | sessionEnd uuid stats timestamp => exact ⟨m, rfl, ⟨obj, hlive, hid⟩, hflag⟩
  | streamKwd uuid timestamp => exact ⟨m, rfl, ⟨obj, hlive, hid⟩, hflag⟩
  | connected uuid timestamp => exact ⟨m, rfl, ⟨obj, hlive, hid⟩, hflag⟩
  | disconnected uuid retry timestamp => exact ⟨m, rfl, ⟨obj, hlive, hid⟩, hflag⟩

/-- The callbacks of the router, all on the handle `p`. -/
def onHandle (p : Ptr) (s : Process) (cb : RouterCallback) : Except Fault Process :=
  s.runCallback (some p) cb

/-- A run of callbacks on a valid handle succeeds, and the flag follows `flagAfter`. -/
theorem run_callbacks_flag {s : Process} {p : Ptr} {flag : Bool} (hp : ValidHandle s p)
    (h : voiceFlag s = some flag) (cbs : List RouterCallback) :
    ∃ t, tryRun (onHandle p) s cbs = .ok t ∧ voiceFlag t = some (run flagAfter flag cbs) := by
  induction cbs generalizing s flag with
  | nil => exact ⟨s, rfl, h⟩
  | cons cb cbs ih =>
    obtain ⟨m, hm, hvalid, hflag⟩ := callback_flag hp h cb
    obtain ⟨t, ht, hlast⟩ := ih hvalid hflag
    exact ⟨t, tryRun_cons_ok.mpr ⟨m, hm, ht⟩, hlast⟩

/-! ### The flag and the open streams -/

/-- The flag and the open streams, side by side. -/
def bothAfter (v : Bool × Finset Uuid) (cb : RouterCallback) : Bool × Finset Uuid :=
  (flagAfter v.1 cb, openAfter v.2 cb)

/-- The flag says whether a stream is open. -/
def FlagTracks (v : Bool × Finset Uuid) : Prop := v.1 = true ↔ v.2.Nonempty

/-- A callback keeps the flag right exactly when it is `EndsAlone`. -/
theorem flagTracks_step_iff (v : Bool × Finset Uuid) (cb : RouterCallback)
    (h : FlagTracks v) : FlagTracks (bothAfter v cb) ↔ EndsAlone v.2 cb := by
  obtain ⟨flag, opened⟩ := v
  unfold FlagTracks at h ⊢
  cases cb with
  | streamBegin uuid src timestamp =>
    show (true = true ↔ (insert uuid opened).Nonempty) ↔ True
    simp
  | streamEnd uuid stats timestamp =>
    show (false = true ↔ (opened.erase uuid).Nonempty) ↔ opened.erase uuid = ∅
    rw [← Finset.not_nonempty_iff_eq_empty]
    simp
  | sessionEnd uuid stats timestamp =>
    -- The flag stays, so the question is whether the set becomes empty.
    show (flag = true ↔ (opened.erase uuid).Nonempty)
      ↔ (uuid ∈ opened → (opened.erase uuid).Nonempty)
    by_cases hmem : uuid ∈ opened
    · have hflag : flag = true := h.mpr ⟨uuid, hmem⟩
      simp [hflag, hmem]
    · rw [Finset.erase_eq_of_notMem hmem]
      simp only [hmem, false_implies, iff_true]
      exact h
  | sessionBegin uuid src dstIndex detectorResult configOut timestamp =>
    exact ⟨fun _ => trivial, fun _ => h⟩
  | streamKwd uuid timestamp => exact ⟨fun _ => trivial, fun _ => h⟩
  | connected uuid timestamp => exact ⟨fun _ => trivial, fun _ => h⟩
  | disconnected uuid retry timestamp => exact ⟨fun _ => trivial, fun _ => h⟩

/-- In a run of callbacks, the flag is right in every state exactly when every callback is
`EndsAlone`. -/
theorem flagTracks_run_iff (cbs : List RouterCallback) :
    (∀ pre, pre <+: cbs →
        (run flagAfter false pre = true ↔ (run openAfter ∅ pre).Nonempty))
      ↔ EachStep openAfter EndsAlone ∅ cbs := by
  have hfst : ∀ v cb, (bothAfter v cb).1 = flagAfter v.1 cb := fun _ _ => rfl
  have hsnd : ∀ v cb, (bothAfter v cb).2 = openAfter v.2 cb := fun _ _ => rfl
  -- The flag and the set of open streams are run side by side.
  have hboth : ∀ pre, run bothAfter (false, ∅) pre
      = (run flagAfter false pre, run openAfter ∅ pre) := fun pre =>
    Prod.ext (run_proj Prod.fst hfst _ pre) (run_proj Prod.snd hsnd _ pre)
  have hrun : Throughout bothAfter FlagTracks (false, ∅) cbs
      ↔ EachStep bothAfter (fun v cb => EndsAlone v.2 cb) (false, ∅) cbs :=
    throughout_iff_eachStep (I := fun _ => True) (A := fun _ _ => True)
      (fun _ _ _ _ => trivial) (fun v cb _ h _ => flagTracks_step_iff v cb h) trivial
      (by simp [FlagTracks]) (eachStep_of_forall (fun _ _ => trivial) _ _)
  rw [eachStep_proj Prod.snd hsnd] at hrun
  rw [← hrun]
  unfold Throughout FlagTracks
  simp only [hboth]

/-- From an initialised smart screen that is not started, any run of callbacks on a valid
handle succeeds. The flag at its end is the kind of the last stream callback, whatever its
uuid. The flag says in every state whether a stream is open, exactly when every callback of
the run is `EndsAlone`. -/
theorem callbacks_flag (s : Process) (p : Ptr) (hp : ValidHandle s p)
    (h : voiceFlag s = some false) (cbs : List RouterCallback) :
    (∃ t, tryRun (onHandle p) s cbs = .ok t ∧
      voiceFlag t = some (run flagAfter false cbs)) ∧
    ((∀ pre, pre <+: cbs → ∃ t, tryRun (onHandle p) s pre = .ok t ∧
        (voiceFlag t = some true ↔ (run openAfter ∅ pre).Nonempty))
      ↔ EachStep openAfter EndsAlone ∅ cbs) := by
  refine ⟨run_callbacks_flag hp h cbs, ?_⟩
  rw [← flagTracks_run_iff]
  refine forall_congr' fun pre => imp_congr_right fun _ => ?_
  -- Every prefix succeeds, so its state is the only one to speak about.
  obtain ⟨t, ht, hflag⟩ := run_callbacks_flag hp h pre
  rw [ht]
  constructor
  · rintro ⟨t', ht', hiff⟩
    obtain rfl : t = t' := Except.ok.inj ht'
    rw [hflag, Option.some.injEq] at hiff
    exact hiff
  · intro hiff
    exact ⟨t, rfl, by rw [hflag, Option.some.injEq]; exact hiff⟩

/-- One live object and one smart screen, both new. -/
def voiceProcess : Process :=
  ((Process.init.avsSdtCreate (some 1) { maskPii := false, userData := 5 }).1).avsInitialize 2

/-- The law for one stream that ends before its session. -/
theorem callbacks_flag_nested :
    (∃ t, tryRun (onHandle 1) voiceProcess
        [.streamBegin 1 0 0, .streamEnd 1 0 0, .sessionEnd 1 0 0] = .ok t ∧
      voiceFlag t = some false) ∧
    ∃ t, tryRun (onHandle 1) voiceProcess [.streamBegin 1 0 0] = .ok t ∧
      (voiceFlag t = some true ↔ (run openAfter ∅ [.streamBegin 1 0 0]).Nonempty) := by
  have hlaw := callbacks_flag voiceProcess 1 ⟨_, rfl, rfl⟩ rfl
    [.streamBegin 1 0 0, .streamEnd 1 0 0, .sessionEnd 1 0 0]
  obtain ⟨hlast, htracks⟩ := hlaw
  refine ⟨hlast, htracks.mpr ?_ _ (by simp)⟩
  simp only [eachStep_cons, eachStep_nil, and_true]
  exact ⟨trivial, by decide, by decide⟩

/-- Two streams overlap, and the end of the first one clears the flag while the second one
is open. A session ends without the end of its stream, and the flag stays set while no
stream is open. -/
theorem overlapping_streams_differ :
    (tryRun (onHandle 1) voiceProcess
        [.streamBegin 1 0 0, .streamBegin 2 0 0, .streamEnd 1 0 0]).map voiceFlag
      = .ok (some false) ∧
    run openAfter ∅ [.streamBegin 1 0 0, .streamBegin 2 0 0, .streamEnd 1 0 0] = {2} ∧
    (tryRun (onHandle 1) voiceProcess [.streamBegin 1 0 0, .sessionEnd 1 0 0]).map voiceFlag
      = .ok (some true) ∧
    run openAfter ∅ [.streamBegin 1 0 0, .sessionEnd 1 0 0] = ∅ := by
  refine ⟨rfl, by decide, rfl, by decide⟩

end XrSpeechAvs.Proofs
