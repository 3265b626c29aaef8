import XrSpeechAvs.Lib.Simulation
import XrSpeechAvs.System

/-!
# `XrSpeechAvs.Proofs.Masking`: the PII mask controls nothing

An application asks for masked logs with `mask_pii`, at `avs_sdt_create` and later with
`avs_sdt_update_mask_pii`. The code stores the answer in the object and never reads it.

`unmask` erases the masks of a state, and of the events. `system_unmask` is the step lemma:
to erase the masks before a step and to erase them after it is the same, also for a step that
fails. `masks_change_nothing` lifts it to runs. Two runs that differ in their masks alone go
the same way: the same calls of the application, the same toggles and words for the SDK, the
same smart screens, and the same fault if there is one.
-/

set_option autoImplicit false

namespace XrSpeechAvs

open XrSpeechAvs.Impl
open XrSpeechAvs.Lib

/-! ### States and events without masks -/

/-- An object without its mask. -/
def AvsSdtObj.unmask (obj : AvsSdtObj) : AvsSdtObj := { obj with maskPii := false }

/-- A process without the masks of its objects. -/
def Process.unmask (s : Process) : Process :=
  { s with sdtObjs := fun p => (s.sdtObjs p).map AvsSdtObj.unmask }

/-- A system without the masks of its objects. -/
def System.unmask (s : System) : System := { s with process := s.process.unmask }

/-- A call that asks for no mask. -/
def Call.unmask : Call → Call
  | .avsSdtCreate mem params => .avsSdtCreate mem { params with maskPii := false }
  | .avsSdtUpdateMaskPii object _ => .avsSdtUpdateMaskPii object false
  | c => c

/-- An event that asks for no mask. -/
def SystemEvent.unmask : SystemEvent → SystemEvent
  | .call c => .call c.unmask
  | e => e

namespace Process

section
variable (s : Process)

/-- A new entry, and then no masks. -/
theorem unmask_update (p : Ptr) (obj : Option AvsSdtObj) :
    unmask { s with sdtObjs := Function.update s.sdtObjs p obj }
      = { s.unmask with
          sdtObjs := Function.update s.unmask.sdtObjs p (obj.map AvsSdtObj.unmask) } := by
  have hentries : (fun q => (Function.update s.sdtObjs p obj q).map AvsSdtObj.unmask)
      = Function.update s.unmask.sdtObjs p (obj.map AvsSdtObj.unmask) := by
    funext q
    by_cases hq : q = p
    · rw [hq, Function.update_self, Function.update_self]
    · rw [Function.update_of_ne hq, Function.update_of_ne hq]
      rfl
  simp only [unmask, hentries]

/-- The test of a handle does not look at the mask. -/
theorem unmask_avsSdtObjectIsValid (obj : Option Ptr) :
    s.unmask.avsSdtObjectIsValid obj
      = (s.avsSdtObjectIsValid obj).map
          (Option.map fun found => (found.1, found.2.unmask)) := by
  cases obj with
  | none => rfl
  | some p =>
    cases hobj : s.sdtObjs p with
    | none => simp [avsSdtObjectIsValid, unmask, hobj, Except.map]
    | some found =>
      by_cases hid : found.identifier = AVS_SDT_IDENTIFIER
      · simp [avsSdtObjectIsValid, unmask, AvsSdtObj.unmask, hobj, hid, Except.map]
      · simp [avsSdtObjectIsValid, unmask, AvsSdtObj.unmask, hobj, hid, Except.map]

/-- A call that tests a handle, when what it does on the object does not look at the mask. -/
theorem unmask_onObject (data : Option Ptr) {k k' : Ptr → AvsSdtObj → Except Fault Process}
    (hk : ∀ p obj, (k p obj).map unmask = k' p obj.unmask) :
    (s.onObject data k).map unmask = s.unmask.onObject data k' := by
  unfold onObject
  rw [unmask_avsSdtObjectIsValid]
  cases s.avsSdtObjectIsValid data with
  | error f => rfl
  | ok found =>
    cases found with
    | none => rfl
    | some found => exact hk found.1 found.2

/-- A call of a handler does not look at the mask. -/
theorem unmask_callHandler (p : Ptr) (obj : AvsSdtObj) (handler : Option Handler)
    (event : AppEvent) :
    (s.callHandler p obj handler event).unmask
      = s.unmask.callHandler p obj.unmask handler event := by
  rw [callHandler_eq, callHandler_eq]
  rfl

/-- A call on the smart screen does not look at the objects. -/
theorem unmask_withSmartScreen (f : SmartScreen → Sdk → SmartScreen × Sdk) :
    (s.withSmartScreen f).map unmask = s.unmask.withSmartScreen f := by
  have hglobal : s.unmask.avsSmartScreen = s.avsSmartScreen := rfl
  have hscreens : s.unmask.screens = s.screens := rfl
  unfold withSmartScreen
  rw [hglobal, hscreens]
  cases s.avsSmartScreen with
  | none => rfl
  | some p =>
    simp only
    cases s.screens p <;> rfl

/-- A teardown of the smart screen does not look at the objects. -/
theorem unmask_avsDeInitialize : s.avsDeInitialize.map unmask = s.unmask.avsDeInitialize := by
  have hglobal : s.unmask.avsSmartScreen = s.avsSmartScreen := rfl
  have hscreens : s.unmask.screens = s.screens := rfl
  unfold avsDeInitialize
  rw [hglobal, hscreens]
  cases s.avsSmartScreen with
  | none => rfl
  | some p =>
    simp only
    cases s.screens p <;> rfl

/-- Nor does the voice part of a callback. -/
theorem unmask_voice (cb : RouterCallback) : (cb.voice s).map unmask = cb.voice s.unmask := by
  cases cb with
  | streamBegin uuid src timestamp => exact unmask_withSmartScreen s SmartScreen.start
  | streamEnd uuid stats timestamp => exact unmask_withSmartScreen s SmartScreen.stop
  | _ => rfl

/-- The step lemma of the process. -/
theorem unmask_step (c : Call) : (s.step c).map unmask = s.unmask.step c.unmask := by
  cases c with
  | avsSdtCreate mem params =>
    cases mem with
    | none => rfl
    | some p =>
      show Except.ok (unmask { s with
        avsObj := some p, sdtObjs := Function.update s.sdtObjs p (some (.new params)) }) = _
      -- The mask of the new object is the only one that differs.
      have hcreate := unmask_update { s with avsObj := some p } p (some (.new params))
      rw [hcreate]
      rfl
  | avsSdtHandlers object handlersIn =>
    rw [step_avsSdtHandlers]
    show _ = s.unmask.step (.avsSdtHandlers object handlersIn)
    rw [step_avsSdtHandlers]
    -- The handlers are stored beside the mask.
    refine unmask_onObject s object fun p obj => ?_
    show Except.ok (unmask { s with sdtObjs := Function.update s.sdtObjs p _ }) = _
    rw [unmask_update]
    rfl
  | avsSdtUpdateMaskPii object enable =>
    rw [step_avsSdtUpdateMaskPii]
    show _ = s.unmask.step (.avsSdtUpdateMaskPii object false)
    rw [step_avsSdtUpdateMaskPii]
    refine unmask_onObject s object fun p obj => ?_
    show Except.ok (unmask { s with sdtObjs := Function.update s.sdtObjs p _ }) = _
    rw [unmask_update]
    rfl
  | avsSdtDestroy object =>
    rw [step_avsSdtDestroy]
    show _ = s.unmask.step (.avsSdtDestroy object)
    rw [step_avsSdtDestroy]
    refine unmask_onObject s object fun p obj => ?_
    rw [unmask_avsDeInitialize, unmask_update]
    rfl
  | callback data cb =>
    rw [step_callback]
    show _ = s.unmask.step (.callback data cb)
    rw [step_callback]
    refine unmask_onObject s data fun p obj => ?_
    -- A handler is given its arguments and its user data, and no mask.
    rw [unmask_voice, unmask_callHandler]
    rfl
  | avsServerMsg message length =>
    rw [step_avsServerMsg]
    refine unmask_onObject s s.avsObj fun p obj => ?_
    exact congrArg Except.ok (unmask_callHandler s p obj _ _)
  | avsRecvAudiodata frame =>
    show (s.avsRecvAudiodata frame).map unmask = s.unmask.avsRecvAudiodata frame
    -- The buffer overflows with and without the masks.
    by_cases hfit : frame.data.length ≤ AUDIO_BUFFER_SIZE
    · rw [avsRecvAudiodata_of_fits s frame hfit, avsRecvAudiodata_of_fits s.unmask frame hfit]
      exact unmask_withSmartScreen _ _
    · simp only [avsRecvAudiodata, dif_neg hfit]
      rfl
  | avsInitialize mem =>
    show Except.ok (s.avsInitialize mem).unmask = Except.ok (s.unmask.avsInitialize mem)
    have hglobal : s.unmask.avsSmartScreen = s.avsSmartScreen := rfl
    unfold avsInitialize
    rw [hglobal]
    cases s.avsSmartScreen <;> rfl
  | avsDeInitialize => exact unmask_avsDeInitialize s
  | voiceStart => exact unmask_withSmartScreen s SmartScreen.start
  | voiceStop => exact unmask_withSmartScreen s SmartScreen.stop
  | voiceData dataBuffer length =>
    exact unmask_withSmartScreen s fun screen sdk => (screen, screen.data sdk dataBuffer length)

end

end Process

namespace Proofs

section
variable (s : System)

/-- A call into the process. -/
theorem unmask_onProcess (r : Except Fault Process) :
    (s.onProcess r).map System.unmask = s.unmask.onProcess (r.map Process.unmask) := by
  cases r <;> rfl

/-- A server message. -/
theorem unmask_serverMsg (message : Text) (length : Nat) :
    (s.onProcess (s.process.avsServerMsg message length)).map System.unmask
      = s.unmask.onProcess (s.unmask.process.avsServerMsg message length) := by
  have hstep := Process.unmask_step s.process (.avsServerMsg message length)
  rw [unmask_onProcess]
  exact congrArg s.unmask.onProcess hstep

/-- An attempt of `Init`. -/
theorem unmask_attemptInit (env : InitEnv) :
    (s.attemptInit env).map System.unmask = s.unmask.attemptInit env := by
  have hglobal : s.unmask.process.avsSmartScreen = s.process.avsSmartScreen := rfl
  have hscreens : s.unmask.process.screens = s.process.screens := rfl
  unfold System.attemptInit
  rw [hglobal, hscreens]
  cases s.process.avsSmartScreen with
  | none => rfl
  | some p =>
    simp only
    cases s.process.screens p with
    | none => rfl
    | some screen =>
      simp only
      -- The attempt works on the smart screen alone, so it leaves in the same way.
      rcases initWired env (.entering screen) with ⟨out, w⟩
      cases out <;> rfl

/-- A replaced input manager. -/
theorem unmask_withManager (attempt : Nat) (manager : ThunderInputManager) :
    (s.withManager attempt manager).unmask = s.unmask.withManager attempt manager := by
  have hlive : s.unmask.liveScreen = s.liveScreen := rfl
  have hcurrent : s.unmask.current = s.current := rfl
  unfold System.withManager System.withInputManager
  rw [hlive, hcurrent]
  split
  · cases s.liveScreen <;> rfl
  · rfl

/-- A notification of the SDK. -/
theorem unmask_notify (attempt : Nat) (e : ManagerEvent) :
    (s.notify attempt e).map System.unmask = s.unmask.notify attempt e := by
  have hlistener : s.unmask.listener attempt e = s.listener attempt e := rfl
  unfold System.notify
  rw [hlistener]
  cases s.listener attempt e with
  | none => rfl
  | some manager =>
    simp only
    rw [← unmask_withManager]
    -- The input manager passes on the same message with and without the masks.
    cases e.forwarded manager with
    | none => rfl
    | some msg => exact unmask_serverMsg (s.withManager attempt _) msg.message msg.length

/-- The step lemma of the system: to erase the masks after a step, or before it. -/
theorem system_unmask (e : SystemEvent) :
    (s.step e).map System.unmask = s.unmask.step e.unmask := by
  cases e with
  | call c =>
    show (s.onProcess (s.process.step c)).map System.unmask
      = s.unmask.onProcess (s.process.unmask.step c.unmask)
    rw [unmask_onProcess, Process.unmask_step]
  | init env => exact unmask_attemptInit s env
  | notify attempt event => exact unmask_notify s attempt event
  | vskMsg message length =>
    show (s.vskMsg message length).map System.unmask = s.unmask.vskMsg message length
    -- Whether a message is delivered depends on the handler alone.
    have hset : s.unmask.vskMsgHandler = s.vskMsgHandler := rfl
    unfold System.vskMsg
    rw [hset]
    split
    · exact unmask_serverMsg s message length
    · rfl

end

/-- Over every run, the masks that the application asks for change nothing but the masks of the
objects: with all masks erased, the run is the run of the events with all masks erased. -/
theorem masks_change_nothing (s : System) (es : List SystemEvent) :
    (tryRun System.step s es).map System.unmask
      = tryRun System.step s.unmask (es.map SystemEvent.unmask) :=
  tryRun_map (I := fun _ => True) System.unmask SystemEvent.unmask (fun _ _ _ _ _ => trivial)
    (fun s e _ => system_unmask s e) trivial es

end Proofs

end XrSpeechAvs
