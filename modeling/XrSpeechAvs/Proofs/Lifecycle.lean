import XrSpeechAvs.Lib.Run
import XrSpeechAvs.Registry

/-!
# `XrSpeechAvs.Proofs.Lifecycle`: globals and the objects that they name

`AvsSmartScreen` and `avs_obj` are tested against null before use. The test is right as
long as each of them is null or names a live object (`GlobalsLive`). Then no call uses or
releases an object twice, and the calls after a teardown do nothing (`Lifecycle.Lawful`).

`AVS_DeInitialize` and `avs_sdt_destroy` release an object and leave the global as it is.
So the law holds as long as neither releases what a global names (`CallSafe`).

* `serverOk_step_iff` is the step lemma for `avs_obj`, over the registry.
* `screenOk_step_iff` is the step lemma for `AvsSmartScreen`.
* `lifecycle_lawful_iff` is the law over runs, with the exact condition on the calls.
* `deInitialize_dangles` is the shortest run against the law.
-/

set_option autoImplicit false

namespace XrSpeechAvs.Proofs

open XrSpeechAvs.Impl
open XrSpeechAvs.Lib

/-- `AvsSmartScreen` is null or names a live smart screen. -/
def ScreenOk (s : Process) : Prop :=
  ∀ p, s.avsSmartScreen = some p → (s.screens p).isSome

/-- `avs_obj` is null or names a live object. -/
def ServerOk (r : Registry) : Prop :=
  ∀ p, r.avsObj = some p → (r.sdtObjs p).isSome

/-- Each global is null or names a live object. -/
structure GlobalsLive (s : Process) : Prop where
  screen : ScreenOk s
  server : ServerOk s.registry

/-- What the callers promise: a handle is null or live, and a frame fits the buffer. -/
def CallerOk (s : Process) : Call → Prop
  | .avsSdtHandlers object _ => s.HandleOk object
  | .avsSdtUpdateMaskPii object _ => s.HandleOk object
  | .avsSdtDestroy object => s.HandleOk object
  | .callback data _ => s.HandleOk data
  | .avsRecvAudiodata frame => frame.data.length ≤ AUDIO_BUFFER_SIZE
  | _ => True

/-- The calls that release nothing that a global names. -/
def CallSafe (s : Process) : Call → Prop
  | .avsDeInitialize => s.avsSmartScreen = none
  | .avsSdtDestroy (some p) => s.avsSmartScreen = none ∧ s.avsObj ≠ some p
  | _ => True

/-! ### The global `avs_obj` -/

/-- The calls that do not destroy the object that `avs_obj` names. -/
def KeepsServer (r : Registry) : Call → Prop
  | .avsSdtDestroy (some p) => r.avsObj ≠ some p
  | _ => True

/-- To replace the object behind a handle keeps `avs_obj` right. -/
theorem serverOk_modify {r : Registry} (h : ServerOk r) (data : Option Ptr)
    (f : AvsSdtObj → AvsSdtObj) : ServerOk (r.modify data fun obj => some (f obj)) := by
  cases data with
  | none => exact h
  | some q =>
    intro p hp
    rw [Registry.modify_avsObj] at hp
    have hlive : (r.sdtObjs p).isSome := h p hp
    rw [Registry.modify_sdtObjs]
    by_cases hq : p = q
    · obtain ⟨obj, hobj⟩ := Option.isSome_iff_exists.mp hlive
      rw [if_pos hq, ← hq, hobj]
      rfl
    · rw [if_neg hq]
      exact hlive

/-- A call of a handler keeps `avs_obj` right. -/
theorem serverOk_call {r : Registry} (h : ServerOk r) (data : Option Ptr)
    (handler : AvsSdtHandlers → Option Handler) (event : AppEvent) :
    ServerOk (r.call data handler event) := by
  intro p hp
  rw [Registry.call_avsObj] at hp
  rw [Registry.call_sdtObjs]
  exact h p hp

/-- A step of the registry keeps `avs_obj` right exactly when it does not destroy the
object that `avs_obj` names. -/
theorem serverOk_step_iff (r : Registry) (c : Call) (h : ServerOk r) :
    ServerOk (r.step c) ↔ KeepsServer r c := by
  cases c with
  | avsSdtCreate mem params =>
    refine ⟨fun _ => trivial, fun _ p hp => ?_⟩
    cases mem with
    | none => cases hp
    | some q =>
      obtain rfl : q = p := Option.some.inj hp
      show (Function.update r.sdtObjs q (some _) q).isSome
      rw [Function.update_self]
      rfl
  | avsSdtHandlers object handlersIn =>
    exact ⟨fun _ => trivial, fun _ => serverOk_modify h object _⟩
  | avsSdtUpdateMaskPii object enable =>
    exact ⟨fun _ => trivial, fun _ => serverOk_modify h object _⟩
  | avsSdtDestroy object =>
    cases object with
    | none => exact ⟨fun _ => trivial, fun _ => h⟩
    | some q =>
      have hentry : ∀ p, (r.step (.avsSdtDestroy (some q))).sdtObjs p
          = if p = q then (r.sdtObjs q).bind fun _ => none else r.sdtObjs p := fun p =>
        Registry.modify_sdtObjs r q p _
      have hglobal : (r.step (.avsSdtDestroy (some q))).avsObj = r.avsObj :=
        Registry.modify_avsObj ..
      constructor
      · -- The entry of `q` is gone, so the global cannot name it.
        intro hafter hq
        have hlive := hafter q (by rw [hglobal, hq])
        rw [hentry q, if_pos rfl, Option.bind_fun_none] at hlive
        cases hlive
      · intro hne p hp
        rw [hglobal] at hp
        have hpq : p ≠ q := fun he => hne (he ▸ hp)
        rw [hentry p, if_neg hpq]
        exact h p hp
  | callback data cb => exact ⟨fun _ => trivial, fun _ => serverOk_call h data _ _⟩
  | avsServerMsg message length => exact ⟨fun _ => trivial, fun _ => serverOk_call h _ _ _⟩
  | avsRecvAudiodata frame => exact ⟨fun _ => trivial, fun _ => h⟩
  | avsInitialize mem => exact ⟨fun _ => trivial, fun _ => h⟩
  | avsDeInitialize => exact ⟨fun _ => trivial, fun _ => h⟩
  | voiceStart => exact ⟨fun _ => trivial, fun _ => h⟩
  | voiceStop => exact ⟨fun _ => trivial, fun _ => h⟩
  | voiceData dataBuffer length => exact ⟨fun _ => trivial, fun _ => h⟩

/-! ### The global `AvsSmartScreen` -/

/-- The calls that do not delete the smart screen that `AvsSmartScreen` names. -/
def KeepsScreen (s : Process) : Call → Prop
  | .avsDeInitialize => s.avsSmartScreen = none
  | .avsSdtDestroy (some _) => s.avsSmartScreen = none
  | _ => True

/-- A call on the smart screen succeeds when the global is right, and keeps it right. -/
theorem screenOk_withSmartScreen {s : Process} (h : ScreenOk s)
    (f : SmartScreen → Sdk → SmartScreen × Sdk) :
    ∃ t, s.withSmartScreen f = .ok t ∧ ScreenOk t := by
  cases hp : s.avsSmartScreen with
  | none => exact ⟨s, Process.withSmartScreen_of_none f hp, h⟩
  | some p =>
    obtain ⟨screen, hscreen⟩ := Option.isSome_iff_exists.mp (h p hp)
    refine ⟨_, Process.withSmartScreen_of_live f hp hscreen, fun q hq => ?_⟩
    obtain rfl : p = q := Option.some.inj (hp.symm.trans hq)
    show (Function.update s.screens p (some _) p).isSome
    rw [Function.update_self]
    rfl

/-- A handler of the application leaves the smart screen alone. -/
theorem screenOk_callHandler {s : Process} (h : ScreenOk s) (p : Ptr) (obj : AvsSdtObj)
    (handler : Option Handler) (event : AppEvent) :
    ScreenOk (s.callHandler p obj handler event) := by
  rw [ScreenOk, Process.callHandler_avsSmartScreen, Process.callHandler_screens]
  exact h

/-- The voice part of a callback succeeds when the global is right, and keeps it right. -/
theorem screenOk_voice {s : Process} (h : ScreenOk s) (cb : RouterCallback) :
    ∃ t, cb.voice s = .ok t ∧ ScreenOk t := by
  cases cb with
  | streamBegin uuid src timestamp => exact screenOk_withSmartScreen h SmartScreen.start
  | streamEnd uuid stats timestamp => exact screenOk_withSmartScreen h SmartScreen.stop
  | sessionBegin uuid src dstIndex detectorResult configOut timestamp => exact ⟨s, rfl, h⟩
  | sessionEnd uuid stats timestamp => exact ⟨s, rfl, h⟩
  | streamKwd uuid timestamp => exact ⟨s, rfl, h⟩
  | connected uuid timestamp => exact ⟨s, rfl, h⟩
  | disconnected uuid retry timestamp => exact ⟨s, rfl, h⟩

/-- A teardown keeps the global right only when there is nothing to delete. -/
theorem screenOk_avsDeInitialize_iff {s : Process} (h : ScreenOk s) :
    (∃ t, s.avsDeInitialize = .ok t ∧ ScreenOk t) ↔ s.avsSmartScreen = none := by
  constructor
  · rintro ⟨t, ht, hafter⟩
    obtain ⟨hnone, -⟩ | ⟨p, screen, hp, -, rfl⟩ := Process.avsDeInitialize_cases ht
    · exact hnone
    · -- The deleted smart screen is still named.
      have hlive : (Function.update s.screens p none p).isSome := hafter p hp
      rw [Function.update_self] at hlive
      cases hlive
  · intro hnone
    exact ⟨s, by simp only [Process.avsDeInitialize, hnone], h⟩

/-- A step keeps `AvsSmartScreen` right, without a fault, exactly when it does not delete
the smart screen that `AvsSmartScreen` names. -/
theorem screenOk_step_iff {s : Process} (c : Call) (hI : s.registry.Identified)
    (h : GlobalsLive s) (hA : CallerOk s c) :
    (∃ t, s.step c = .ok t ∧ ScreenOk t) ↔ KeepsScreen s c := by
  cases c with
  | avsSdtCreate mem params =>
    refine ⟨fun _ => trivial, fun _ => ⟨_, rfl, ?_⟩⟩
    -- A creation does not touch the smart screen.
    cases mem <;> exact h.screen
  | avsSdtHandlers object handlersIn =>
    refine ⟨fun _ => trivial, fun _ => ?_⟩
    rw [Process.step_avsSdtHandlers]
    exact Process.onObject_of_handleOk hI hA h.screen fun p obj _ => ⟨_, rfl, h.screen⟩
  | avsSdtUpdateMaskPii object enable =>
    refine ⟨fun _ => trivial, fun _ => ?_⟩
    rw [Process.step_avsSdtUpdateMaskPii]
    exact Process.onObject_of_handleOk hI hA h.screen fun p obj _ => ⟨_, rfl, h.screen⟩
  | avsSdtDestroy object =>
    cases object with
    | none => exact ⟨fun _ => trivial, fun _ => ⟨s, rfl, h.screen⟩⟩
    | some p =>
      -- With a live handle, a destroy is a release and then a teardown.
      obtain ⟨obj, hobj⟩ := Option.isSome_iff_exists.mp (hA p rfl)
      have hdestroy : s.step (.avsSdtDestroy (some p)) = Process.avsDeInitialize
          { s with sdtObjs := Function.update s.sdtObjs p none } := by
        rw [Process.step_avsSdtDestroy, Process.onObject,
          Process.avsSdtObjectIsValid_of_live hobj (hI p obj hobj)]
        rfl
      rw [hdestroy]
      exact screenOk_avsDeInitialize_iff
        (s := { s with sdtObjs := Function.update s.sdtObjs p none }) h.screen
  | callback data cb =>
    refine ⟨fun _ => trivial, fun _ => ?_⟩
    rw [Process.step_callback]
    refine Process.onObject_of_handleOk hI hA h.screen fun p obj _ => screenOk_voice ?_ cb
    -- The handler runs before the voice part and does not touch the smart screen.
    exact screenOk_callHandler h.screen p obj _ _
  | avsServerMsg message length =>
    refine ⟨fun _ => trivial, fun _ => ?_⟩
    rw [Process.step_avsServerMsg]
    refine Process.onObject_of_handleOk hI h.server h.screen fun p obj _ => ⟨_, rfl, ?_⟩
    exact screenOk_callHandler h.screen p obj _ _
  | avsRecvAudiodata frame =>
    refine ⟨fun _ => trivial, fun _ => ?_⟩
    show ∃ t, s.avsRecvAudiodata frame = .ok t ∧ ScreenOk t
    rw [Process.avsRecvAudiodata_of_fits s frame hA]
    exact screenOk_withSmartScreen
      (s := { s with audioBuffer := s.audioBuffer.memcpy frame.data hA }) h.screen _
  | avsInitialize mem =>
    refine ⟨fun _ => trivial, fun _ => ⟨_, rfl, ?_⟩⟩
    -- Only the first call makes a smart screen; later ones return at once.
    unfold Process.avsInitialize
    cases hp : s.avsSmartScreen with
    | none =>
      intro q hq
      obtain rfl : mem = q := Option.some.inj hq
      show (Function.update s.screens mem (some _) mem).isSome
      rw [Function.update_self]
      rfl
    | some p => exact h.screen
  | avsDeInitialize => exact screenOk_avsDeInitialize_iff h.screen
  | voiceStart => exact ⟨fun _ => trivial, fun _ => screenOk_withSmartScreen h.screen _⟩
  | voiceStop => exact ⟨fun _ => trivial, fun _ => screenOk_withSmartScreen h.screen _⟩
  | voiceData dataBuffer length =>
    exact ⟨fun _ => trivial, fun _ => screenOk_withSmartScreen h.screen fun screen sdk =>
      (screen, screen.data sdk dataBuffer length)⟩

/-! ### The law -/

/-- The condition on a call, by global. -/
theorem callSafe_iff (s : Process) (c : Call) :
    CallSafe s c ↔ KeepsScreen s c ∧ KeepsServer s.registry c := by
  cases c with
  | avsSdtDestroy object =>
    cases object with
    | none => exact (and_iff_left trivial).symm
    | some p => exact Iff.rfl
  | avsDeInitialize => exact (and_iff_left trivial).symm
  | _ => exact (and_iff_left trivial).symm

/-- A call keeps the globals live, without a fault, exactly when it is `CallSafe`. -/
theorem globalsLive_step_iff {s : Process} (c : Call) (hI : s.registry.Identified)
    (h : GlobalsLive s) (hA : CallerOk s c) :
    (∃ t, s.step c = .ok t ∧ GlobalsLive t) ↔ CallSafe s c := by
  rw [callSafe_iff, ← screenOk_step_iff c hI h hA, ← serverOk_step_iff s.registry c h.server]
  constructor
  · rintro ⟨t, ht, hlive⟩
    refine ⟨⟨t, ht, hlive.screen⟩, ?_⟩
    rw [← Process.registry_step hI ht]
    exact hlive.server
  · rintro ⟨⟨t, ht, hscreen⟩, hserver⟩
    refine ⟨t, ht, hscreen, ?_⟩
    rw [Process.registry_step hI ht]
    exact hserver

namespace Lifecycle

/-- What the live globals are for. When no smart screen is live, another teardown and the
`Voice` calls do nothing, and `AVS_Initialize` makes a new smart screen. When no object is
live, a server message does nothing. -/
structure Lawful (s : Process) : Prop where
  live : GlobalsLive s
  deInitialize_again : (∀ p, s.screens p = none) → s.avsDeInitialize = .ok s
  voice_quiet : (∀ p, s.screens p = none) →
    s.voiceStart = .ok s ∧ s.voiceStop = .ok s ∧
      ∀ dataBuffer length, s.voiceData dataBuffer length = .ok s
  server_quiet : (∀ p, s.sdtObjs p = none) →
    ∀ message length, s.avsServerMsg message length = .ok s
  reinitialize : (∀ p, s.screens p = none) → ∀ mem,
    (s.avsInitialize mem).avsSmartScreen = some mem ∧
      (s.avsInitialize mem).screens mem = some .new

/-- Live globals carry the rest of the law. -/
theorem lawful_iff (s : Process) : Lawful s ↔ GlobalsLive s := by
  refine ⟨Lawful.live, fun h => ?_⟩
  -- A global that is null or live is null when nothing is live.
  have hscreen : (∀ p, s.screens p = none) → s.avsSmartScreen = none := by
    intro hnone
    cases hp : s.avsSmartScreen with
    | none => rfl
    | some p =>
      have hlive := h.screen p hp
      rw [hnone p] at hlive
      cases hlive
  have hserver : (∀ p, s.sdtObjs p = none) → s.avsObj = none := by
    intro hnone
    cases hp : s.avsObj with
    | none => rfl
    | some p =>
      have hlive : (s.sdtObjs p).isSome := h.server p hp
      rw [hnone p] at hlive
      cases hlive
  refine ⟨h, fun hnone => ?_, fun hnone => ?_, fun hnone message length => ?_,
    fun hnone mem => ?_⟩
  · simp only [Process.avsDeInitialize, hscreen hnone]
  · have hnull := hscreen hnone
    exact ⟨Process.withSmartScreen_of_none _ hnull, Process.withSmartScreen_of_none _ hnull,
      fun _ _ => Process.withSmartScreen_of_none _ hnull⟩
  · unfold Process.avsServerMsg
    rw [hserver hnone]
    rfl
  · unfold Process.avsInitialize
    rw [hscreen hnone]
    exact ⟨rfl, Function.update_self ..⟩

end Lifecycle

/-- In every run of the exported functions and callbacks from the start of the process on,
whose callers keep their promises: no call faults and every state is lawful, exactly when
every call is `CallSafe`. -/
theorem lifecycle_lawful_iff (cs : List Call)
    (hA : TryEachStep Process.step CallerOk Process.init cs) :
    TryThroughout Process.step Lifecycle.Lawful Process.init cs
      ↔ TryEachStep Process.step CallSafe Process.init cs := by
  have hlaw : Lifecycle.Lawful = GlobalsLive :=
    funext fun s => propext (Lifecycle.lawful_iff s)
  rw [hlaw]
  refine tryThroughout_iff_tryEachStep (I := fun s => s.registry.Identified)
    (fun s c t hI ht => Process.identified_step hI ht)
    (fun s c hI h hc => globalsLive_step_iff c hI h hc) Process.identified_init ?_ hA
  refine ⟨fun p hp => ?_, fun p hp => ?_⟩
  · cases hp
  · cases hp

/-- The law for a run that destroys the older one of two objects and then initializes. -/
theorem lifecycle_lawful_two_objects :
    TryThroughout Process.step Lifecycle.Lawful Process.init
      [.avsSdtCreate (some 1) ⟨true, 0⟩, .avsSdtCreate (some 2) ⟨true, 0⟩,
        .avsSdtDestroy (some 1), .avsInitialize 3, .voiceStart] := by
  refine (lifecycle_lawful_iff _ ?_).mpr ?_
  · simp only [TryEachStep, eachStep_cons, eachStep_nil, and_true]
    refine ⟨trivial, trivial, fun p hp => ?_, trivial, trivial⟩
    obtain rfl : 1 = p := Option.some.inj hp
    rfl
  · simp only [TryEachStep, eachStep_cons, eachStep_nil, and_true]
    exact ⟨trivial, trivial, ⟨rfl, by decide⟩, trivial, trivial⟩

/-- A teardown leaves the global at the deleted smart screen. Another teardown deletes it
again, and a `Voice_Start` uses it. A destroy leaves `avs_obj` at the released object, and
the next server message reads it. -/
theorem deInitialize_dangles :
    ¬ TryThroughout Process.step GlobalsLive Process.init
      [.avsInitialize 1, .avsDeInitialize] ∧
    (tryRun Process.step Process.init
        [.avsInitialize 1, .avsDeInitialize, .avsDeInitialize]).map (fun _ => ())
      = .error (.doubleFree 1) ∧
    (tryRun Process.step Process.init
        [.avsInitialize 1, .avsDeInitialize, .voiceStart]).map (fun _ => ())
      = .error (.useAfterFree 1) ∧
    (tryRun Process.step Process.init
        [.avsSdtCreate (some 1) ⟨true, 0⟩, .avsSdtDestroy (some 1),
          .avsServerMsg [] 0]).map (fun _ => ()) = .error (.useAfterFree 1) := by
  refine ⟨fun h => ?_, rfl, rfl, rfl⟩
  -- In the last state the global still names the deleted smart screen.
  obtain ⟨t, ht, hlive⟩ := h.last
  obtain rfl := Except.ok.inj ht
  have hdead := hlive.screen 1 rfl
  cases hdead

end XrSpeechAvs.Proofs
