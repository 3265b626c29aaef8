import XrSpeechAvs.Proofs.Framing
import XrSpeechAvs.Proofs.InitMembers
import XrSpeechAvs.Proofs.Observers
import XrSpeechAvs.Registry
import XrSpeechAvs.System

/-!
# `XrSpeechAvs.Proofs.VoicePart`: the smart screens and the SDK

The process has two parts. The objects of `avs_sdt.c` are in `XrSpeechAvs.Registry`. This
module has the rest: the smart screens, the global that names one of them, and what the SDK
has been given.

A call does one thing to this part, its `VoiceOp`. Which one depends on the registry alone,
since a call on a handle does nothing without a live object. `voicePart_step` says that every
call that succeeds is its operation, so what is true of the operations is true of all calls.
-/

set_option autoImplicit false

namespace XrSpeechAvs

open XrSpeechAvs.Impl
open XrSpeechAvs.Lib

namespace Impl.SmartScreen

/-- Hand words to the writer, if there is one. -/
def write (self : SmartScreen) (sdk : Sdk) (words : List Word) : Sdk :=
  if self.vWriter.isSome then { sdk with words := sdk.words ++ words } else sdk

/-- `Data` hands out the whole words of its argument. -/
theorem data_eq (self : SmartScreen) (sdk : Sdk) (bytes : List Byte) (length : UInt16) :
    self.data sdk bytes length
      = self.write sdk (pairs (bytes.take (length.toNat / WORD_SIZE * WORD_SIZE))) := by
  unfold data write
  cases self.vWriter <;> rfl

end Impl.SmartScreen

/-- What a call does to the smart screens. -/
inductive VoiceOp where
  | nothing
  | construct (mem : Ptr)
  | start
  | stop
  | write (words : List Word)
  | delete
  deriving DecidableEq, Repr

/-- The smart screens, the global, and what the SDK has been given. -/
structure VoicePart where
  screens : Ptr → Option SmartScreen
  avsSmartScreen : Option Ptr
  sdk : Sdk

namespace VoicePart

/-- The smart screen at `p` has become `screen`. -/
def withScreen (v : VoicePart) (p : Ptr) (screen : SmartScreen) : VoicePart :=
  { v with screens := Function.update v.screens p (some screen) }

/-- An operation on the smart screen behind the global. -/
def act (v : VoicePart) (f : SmartScreen → Sdk → SmartScreen × Sdk) : Except Fault VoicePart :=
  match v.avsSmartScreen with
  | none => .ok v
  | some p =>
    match v.screens p with
    | none => .error (.useAfterFree p)
    | some screen => .ok { v with
        screens := Function.update v.screens p (some (f screen v.sdk).1)
        sdk := (f screen v.sdk).2 }

/-- One operation. -/
def step (v : VoicePart) : VoiceOp → Except Fault VoicePart
  | .nothing => .ok v
  | .construct mem =>
    match v.avsSmartScreen with
    | none => .ok { v with
        avsSmartScreen := some mem
        screens := Function.update v.screens mem (some .new) }
    | some _ => .ok v
  | .start => v.act SmartScreen.start
  | .stop => v.act SmartScreen.stop
  | .write words => v.act fun screen sdk => (screen, screen.write sdk words)
  | .delete =>
    match v.avsSmartScreen with
    | none => .ok v
    | some p =>
      match v.screens p with
      | none => .error (.doubleFree p)
      | some screen => .ok { v with
          screens := Function.update v.screens p none
          sdk := (screen.stop v.sdk).2 }

/-- An operation that succeeds: the global is null and nothing happens, or it acts on the
live smart screen. -/
theorem act_cases {v w : VoicePart} {f : SmartScreen → Sdk → SmartScreen × Sdk}
    (h : v.act f = .ok w) :
    (v.avsSmartScreen = none ∧ w = v) ∨
    ∃ p screen, v.avsSmartScreen = some p ∧ v.screens p = some screen ∧
      w = { v with
        screens := Function.update v.screens p (some (f screen v.sdk).1)
        sdk := (f screen v.sdk).2 } := by
  unfold act at h
  cases hp : v.avsSmartScreen with
  | none =>
    rw [hp] at h
    exact Or.inl ⟨rfl, (Except.ok.inj h).symm⟩
  | some p =>
    rw [hp] at h
    -- A global that names no live smart screen is a fault.
    cases hscreen : v.screens p with
    | none => simp [hscreen] at h
    | some screen =>
      simp only [hscreen] at h
      exact Or.inr ⟨p, screen, rfl, hscreen, (Except.ok.inj h).symm⟩

/-- A deletion that succeeds: the global is null and nothing happens, or the live smart
screen is stopped and gone. -/
theorem delete_cases {v w : VoicePart} (h : v.step .delete = .ok w) :
    (v.avsSmartScreen = none ∧ w = v) ∨
    ∃ p screen, v.avsSmartScreen = some p ∧ v.screens p = some screen ∧
      w = { v with
        screens := Function.update v.screens p none
        sdk := (screen.stop v.sdk).2 } := by
  unfold step at h
  cases hp : v.avsSmartScreen with
  | none =>
    rw [hp] at h
    exact Or.inl ⟨rfl, (Except.ok.inj h).symm⟩
  | some p =>
    rw [hp] at h
    -- Deleting twice is a fault.
    cases hscreen : v.screens p with
    | none => simp [hscreen] at h
    | some screen =>
      simp only [hscreen] at h
      exact Or.inr ⟨p, screen, rfl, hscreen, (Except.ok.inj h).symm⟩

end VoicePart

/-- The operation of a callback on a live object. -/
def RouterCallback.voiceOp : RouterCallback → VoiceOp
  | .streamBegin .. => .start
  | .streamEnd .. => .stop
  | _ => .nothing

/-- The operation of a call. -/
def Registry.voiceOp (r : Registry) : Call → VoiceOp
  | .callback data cb => if (r.object data).isSome then cb.voiceOp else .nothing
  | .avsSdtDestroy object => if (r.object object).isSome then .delete else .nothing
  | .avsRecvAudiodata frame => .write (pairs frame.data)
  | .avsInitialize mem => .construct mem
  | .avsDeInitialize => .delete
  | .voiceStart => .start
  | .voiceStop => .stop
  | .voiceData dataBuffer length =>
    .write (pairs (dataBuffer.take (length.toNat / WORD_SIZE * WORD_SIZE)))
  | .avsSdtCreate _ _ | .avsSdtHandlers _ _ | .avsSdtUpdateMaskPii _ _ | .avsServerMsg _ _ =>
    .nothing

namespace Process

/-- The voice part of the process. -/
def voicePart (s : Process) : VoicePart where
  screens := s.screens
  avsSmartScreen := s.avsSmartScreen
  sdk := s.sdk

/-- A call on the smart screen is an operation on it. -/
theorem withSmartScreen_voicePart {s t : Process} {f : SmartScreen → Sdk → SmartScreen × Sdk}
    (h : s.withSmartScreen f = .ok t) : s.voicePart.act f = .ok t.voicePart := by
  obtain ⟨hnone, ht⟩ | ⟨p, screen, hp, hscreen, rfl⟩ := withSmartScreen_cases h
  · have hglobal : s.voicePart.avsSmartScreen = none := hnone
    rw [ht, VoicePart.act, hglobal]
  · simp only [VoicePart.act, voicePart, hp, hscreen]

/-- A teardown is a deletion. -/
theorem avsDeInitialize_voicePart {s t : Process} (h : s.avsDeInitialize = .ok t) :
    s.voicePart.step .delete = .ok t.voicePart := by
  obtain ⟨hnone, ht⟩ | ⟨p, screen, hp, hscreen, rfl⟩ := avsDeInitialize_cases h
  · have hglobal : s.voicePart.avsSmartScreen = none := hnone
    rw [ht, VoicePart.step, hglobal]
  · simp only [VoicePart.step, voicePart, hp, hscreen]

/-- The voice part of a callback is its operation. -/
theorem voice_voicePart {s t : Process} (cb : RouterCallback) (h : cb.voice s = .ok t) :
    s.voicePart.step cb.voiceOp = .ok t.voicePart := by
  cases cb with
  | streamBegin uuid src timestamp => exact withSmartScreen_voicePart h
  | streamEnd uuid stats timestamp => exact withSmartScreen_voicePart h
  | _ =>
    rw [← Except.ok.inj h]
    rfl

/-- A handler of the application leaves the voice part alone. -/
theorem callHandler_voicePart (s : Process) (p : Ptr) (obj : AvsSdtObj)
    (handler : Option Handler) (event : AppEvent) :
    (s.callHandler p obj handler event).voicePart = s.voicePart := by
  rw [callHandler_eq]
  rfl

/-- A call that tests a handle does its operation when the handle names a live object. -/
theorem onObject_voicePart {s t : Process} {data : Option Ptr} {op : VoiceOp}
    {k : Ptr → AvsSdtObj → Except Fault Process} (hI : s.registry.Identified)
    (hk : ∀ p obj, k p obj = .ok t → s.voicePart.step op = .ok t.voicePart)
    (h : s.onObject data k = .ok t) :
    s.voicePart.step (if (s.registry.object data).isSome then op else .nothing)
      = .ok t.voicePart := by
  obtain ⟨hnone, rfl⟩ | ⟨p, obj, hobj, hrun⟩ := onObject_cases hI h
  · rw [hnone]
    rfl
  · rw [hobj]
    exact hk p obj hrun

/-- A call that tests a handle and leaves the voice part alone. -/
theorem onObject_keeps_voicePart {s t : Process} {data : Option Ptr}
    {k : Ptr → AvsSdtObj → Except Fault Process} (hI : s.registry.Identified)
    (hk : ∀ p obj, k p obj = .ok t → t.voicePart = s.voicePart)
    (h : s.onObject data k = .ok t) : t.voicePart = s.voicePart := by
  obtain ⟨-, rfl⟩ | ⟨p, obj, -, hrun⟩ := onObject_cases hI h
  · rfl
  · exact hk p obj hrun

/-- Every call that succeeds is its operation on the voice part. -/
theorem voicePart_step {s t : Process} {c : Call} (hI : s.registry.Identified)
    (h : s.step c = .ok t) : s.voicePart.step (s.registry.voiceOp c) = .ok t.voicePart := by
  -- Many calls leave the voice part as it is.
  have hkeeps : ∀ {u : Process}, u.voicePart = s.voicePart →
      s.voicePart.step .nothing = .ok u.voicePart := fun hu => congrArg Except.ok hu.symm
  cases c with
  | avsSdtCreate mem params =>
    rw [← Except.ok.inj h]
    cases mem <;> rfl
  | avsSdtHandlers object handlersIn =>
    rw [step_avsSdtHandlers] at h
    refine hkeeps (onObject_keeps_voicePart hI (fun p obj hk => ?_) h)
    rw [← Except.ok.inj hk]
    rfl
  | avsSdtUpdateMaskPii object enable =>
    rw [step_avsSdtUpdateMaskPii] at h
    refine hkeeps (onObject_keeps_voicePart hI (fun p obj hk => ?_) h)
    rw [← Except.ok.inj hk]
    rfl
  | avsSdtDestroy object =>
    rw [step_avsSdtDestroy] at h
    refine onObject_voicePart hI (fun p obj hk => ?_) h
    -- The object is gone first, and the voice part is still that of `s`.
    have hdelete := avsDeInitialize_voicePart hk
    exact hdelete
  | callback data cb =>
    rw [step_callback] at h
    refine onObject_voicePart hI (fun p obj hk => ?_) h
    rw [← callHandler_voicePart s p obj (cb.handler obj.handlers) cb.event]
    exact voice_voicePart cb hk
  | avsServerMsg message length =>
    rw [step_avsServerMsg] at h
    refine hkeeps (onObject_keeps_voicePart hI (fun p obj hk => ?_) h)
    rw [← Except.ok.inj hk]
    exact callHandler_voicePart ..
  | avsRecvAudiodata frame =>
    have h : s.avsRecvAudiodata frame = .ok t := h
    by_cases hfit : frame.data.length ≤ AUDIO_BUFFER_SIZE
    · rw [avsRecvAudiodata_of_fits s frame hfit] at h
      have hact := withSmartScreen_voicePart h
      -- The whole words of the buffer are those of the frame.
      simp only [SmartScreen.data_eq, Proofs.toNat_size_toUInt16 frame hfit,
        Proofs.pairs_take_memcpy] at hact
      exact hact
    · rw [avsRecvAudiodata, dif_neg hfit] at h
      cases h
  | avsInitialize mem =>
    rw [← Except.ok.inj h]
    show s.voicePart.step (.construct mem) = .ok (s.avsInitialize mem).voicePart
    unfold avsInitialize
    cases hp : s.avsSmartScreen with
    | none => simp only [VoicePart.step, voicePart, hp]
    | some p => simp only [VoicePart.step, voicePart, hp]
  | avsDeInitialize => exact avsDeInitialize_voicePart h
  | voiceStart => exact withSmartScreen_voicePart h
  | voiceStop => exact withSmartScreen_voicePart h
  | voiceData dataBuffer length =>
    have h : s.voiceData dataBuffer length = .ok t := h
    have hact := withSmartScreen_voicePart h
    simp only [SmartScreen.data_eq] at hact
    exact hact

end Process

namespace Proofs

/-! ### The live smart screen and its input manager -/

/-- `Start` keeps the input manager. -/
theorem start_inputManager (screen : SmartScreen) (sdk : Sdk) :
    (screen.start sdk).1.thunderInputManager = screen.thunderInputManager := by
  rw [SmartScreen.start_eq]
  split <;> rfl

/-- `Stop` keeps the input manager. -/
theorem stop_inputManager (screen : SmartScreen) (sdk : Sdk) :
    (screen.stop sdk).1.thunderInputManager = screen.thunderInputManager := by
  rw [SmartScreen.stop_eq]
  split <;> rfl

/-- The live smart screen at `p` has become `after`. It has the same input manager as before, or
it is gone. -/
structure Becomes (v w : VoicePart) (p : Ptr) (after : Option SmartScreen) : Prop where
  avsSmartScreen : w.avsSmartScreen = v.avsSmartScreen
  screens : w.screens = Function.update v.screens p after
  inputManager : ∃ screen, v.screens p = some screen ∧
    ∀ screen', after = some screen' →
      screen'.thunderInputManager = screen.thunderInputManager

/-- What an operation does to the smart screens: nothing, or it makes a new one, or the live
one becomes another with the same input manager, or the live one is gone. -/
theorem screens_cases {v w : VoicePart} {op : VoiceOp} (hw : v.step op = .ok w) :
    (w.avsSmartScreen = v.avsSmartScreen ∧ w.screens = v.screens) ∨
    (v.avsSmartScreen = none ∧ ∃ mem, w.avsSmartScreen = some mem ∧
      w.screens = Function.update v.screens mem (some SmartScreen.new)) ∨
    ∃ p after, v.avsSmartScreen = some p ∧ Becomes v w p after := by
  -- The three operations on the live smart screen keep its input manager.
  have hact : ∀ f : SmartScreen → Sdk → SmartScreen × Sdk,
      (∀ screen, (f screen v.sdk).1.thunderInputManager = screen.thunderInputManager) →
      v.act f = .ok w → (w.avsSmartScreen = v.avsSmartScreen ∧ w.screens = v.screens) ∨
        ∃ p after, v.avsSmartScreen = some p ∧ Becomes v w p after := by
    intro f hf hw
    obtain ⟨-, rfl⟩ | ⟨p, screen, hp, hlive, rfl⟩ := VoicePart.act_cases hw
    · exact Or.inl ⟨rfl, rfl⟩
    · refine Or.inr ⟨p, some (f screen v.sdk).1, hp, rfl, rfl, screen, hlive, ?_⟩
      intro screen' heq
      rw [← Option.some.inj heq]
      exact hf screen
  cases op with
  | nothing =>
    obtain rfl := Except.ok.inj hw
    exact Or.inl ⟨rfl, rfl⟩
  | construct mem =>
    unfold VoicePart.step at hw
    cases hp : v.avsSmartScreen with
    | some p =>
      rw [hp] at hw
      obtain rfl := Except.ok.inj hw
      exact Or.inl ⟨hp, rfl⟩
    | none =>
      rw [hp] at hw
      obtain rfl := Except.ok.inj hw
      exact Or.inr (Or.inl ⟨rfl, mem, rfl, rfl⟩)
  | start =>
    exact (hact _ (fun screen => start_inputManager screen v.sdk) hw).imp_right Or.inr
  | stop =>
    exact (hact _ (fun screen => stop_inputManager screen v.sdk) hw).imp_right Or.inr
  | write words =>
    have hw : v.act (fun screen sdk => (screen, screen.write sdk words)) = .ok w := hw
    exact (hact _ (fun _ => rfl) hw).imp_right Or.inr
  | delete =>
    obtain ⟨-, rfl⟩ | ⟨p, screen, hp, hlive, rfl⟩ := VoicePart.delete_cases hw
    · exact Or.inl ⟨rfl, rfl⟩
    · refine Or.inr (Or.inr ⟨p, none, hp, rfl, rfl, screen, hlive, ?_⟩)
      intro screen' heq
      cases heq

/-- What an operation leaves behind the global: a live smart screen is a new one, or it has the
input manager of the live one before. -/
theorem live_of_step {v w : VoicePart} {op : VoiceOp} {p : Ptr} {after : SmartScreen}
    (hw : v.step op = .ok w) (hp : w.avsSmartScreen = some p)
    (hafter : w.screens p = some after) :
    (v.avsSmartScreen = none ∧ after.thunderInputManager = none) ∨
    ∃ screen, v.avsSmartScreen = some p ∧ v.screens p = some screen ∧
      after.thunderInputManager = screen.thunderInputManager := by
  obtain ⟨hglobal, hkeep⟩ | ⟨hnone, mem, hmem, hnew⟩ | ⟨q, found, hq, hbecomes⟩ :=
    screens_cases hw
  · exact Or.inr ⟨after, hglobal ▸ hp, hkeep ▸ hafter, rfl⟩
  · obtain rfl : p = mem := Option.some.inj (hp.symm.trans hmem)
    -- A new smart screen has no input manager.
    rw [hnew, Function.update_self] at hafter
    exact Or.inl ⟨hnone, by rw [← Option.some.inj hafter]; rfl⟩
  · obtain rfl : p = q := Option.some.inj (hp.symm.trans (hbecomes.avsSmartScreen.trans hq))
    rw [hbecomes.screens, Function.update_self] at hafter
    obtain ⟨screen, hlive, hkeep⟩ := hbecomes.inputManager
    exact Or.inr ⟨screen, hq, hlive, hkeep after hafter⟩

/-! ### The system -/

/-- Neither the objects nor the global for the server messages are in the input manager. -/
theorem withManager_registry (s : System) (attempt : Nat) (manager : ThunderInputManager) :
    (s.withManager attempt manager).process.registry = s.process.registry := by
  obtain ⟨hkeep, -⟩ | ⟨-, p, screen, -, hreplaced⟩ := s.withManager_process attempt manager
  · rw [hkeep]
  · rw [hreplaced]
    rfl

/-- Every event keeps the identifiers of the live objects. -/
theorem identified_system {s t : System} {e : SystemEvent}
    (hI : s.process.registry.Identified) (h : s.step e = .ok t) :
    t.process.registry.Identified := by
  -- Only calls touch the objects, and every server message is a call.
  have hcall : ∀ (u v : System) (c : Call), u.process.registry.Identified →
      u.onProcess (u.process.step c) = .ok v → v.process.registry.Identified := by
    intro u v c hu hv
    obtain ⟨process, hstep, rfl⟩ := System.onProcess_ok.mp hv
    exact Process.identified_step hu hstep
  cases e with
  | call c => exact hcall s t c hI h
  | init env =>
    obtain ⟨-, rfl⟩ | ⟨p, screen, -, -, rfl⟩ := System.attemptInit_cases h
    · exact hI
    · exact hI
  | notify attempt event =>
    obtain ⟨-, rfl⟩ | ⟨manager, -, hrest⟩ := System.notify_cases h
    · exact hI
    · -- The input manager is replaced first, and then its message is a call.
      have hnotified := withManager_registry s attempt (event.apply manager)
      obtain ⟨-, rfl⟩ | ⟨msg, -, hserved⟩ := hrest
      · rw [hnotified]
        exact hI
      · exact hcall (s.withManager attempt (event.apply manager)) t
          (.avsServerMsg msg.message msg.length) (hnotified ▸ hI) hserved
  | vskMsg message length =>
    obtain ⟨-, rfl⟩ | ⟨-, hserved⟩ := System.vskMsg_cases h
    · exact hI
    · exact hcall s t (.avsServerMsg message length) hI hserved

/-- A server message leaves the voice part alone. -/
theorem avsServerMsg_voicePart {s t : Process} (hI : s.registry.Identified) {message : Text}
    {length : Nat} (ht : s.avsServerMsg message length = .ok t) : t.voicePart = s.voicePart := by
  have hop := Process.voicePart_step (c := .avsServerMsg message length) hI ht
  exact (Except.ok.inj hop).symm

section
variable {s t : System}

/-- The live smart screen is a matter of the voice part. -/
theorem liveScreen_of_voicePart (h : t.process.voicePart = s.process.voicePart) :
    t.liveScreen = s.liveScreen := by
  have hglobal : t.process.avsSmartScreen = s.process.avsSmartScreen :=
    congrArg VoicePart.avsSmartScreen h
  have hscreens : t.process.screens = s.process.screens := congrArg VoicePart.screens h
  unfold System.liveScreen
  rw [hglobal, hscreens]

/-- A call is its operation. -/
theorem call_voicePart {c : Call} (hI : s.process.registry.Identified)
    (h : s.step (.call c) = .ok t) :
    s.process.voicePart.step (s.process.registry.voiceOp c) = .ok t.process.voicePart := by
  obtain ⟨process, hstep, rfl⟩ := System.onProcess_ok.mp h
  exact Process.voicePart_step hI hstep

/-- An attempt is an operation on the smart screen that gives the SDK nothing. -/
theorem init_voicePart {env : InitEnv} (h : s.step (.init env) = .ok t) :
    s.process.voicePart.act (fun screen sdk => (attempt screen env, sdk))
      = .ok t.process.voicePart := by
  obtain ⟨hnone, rfl⟩ | ⟨p, screen, hp, hscreen, rfl⟩ := System.attemptInit_cases h
  · simp only [VoicePart.act, Process.voicePart, hnone]
  · -- The attempt does to the members what `Init` does.
    have hafter : (initWired env (.entering screen)).2.screen = attempt screen env :=
      (initWired_projects env _).2
    simp only [VoicePart.act, Process.voicePart, hp, hscreen, System.withAttempt, hafter]

/-- A replaced input manager changes nothing in the voice part, or the input manager of the live
smart screen. -/
theorem withManager_voicePart (s : System) (attempt : Nat) (manager : ThunderInputManager) :
    (s.withManager attempt manager).process.voicePart = s.process.voicePart ∨
    ∃ p screen, s.process.voicePart.avsSmartScreen = some p ∧
      s.process.voicePart.screens p = some screen ∧
      (s.withManager attempt manager).process.voicePart = s.process.voicePart.withScreen p
        { screen with thunderInputManager := some manager } := by
  obtain ⟨hkeep, -⟩ | ⟨-, p, screen, hlive, hreplaced⟩ :=
    s.withManager_process attempt manager
  · exact Or.inl (congrArg Process.voicePart hkeep)
  · obtain ⟨hp, hscreen⟩ := System.liveScreen_eq_some.mp hlive
    exact Or.inr ⟨p, screen, hp, hscreen, congrArg Process.voicePart hreplaced⟩

/-- The voice part behind a notification is that of the replaced input manager. A message that is
passed on leaves it alone. -/
theorem notify_voicePart_eq {attempt : Nat} {e : ManagerEvent}
    (hI : s.process.registry.Identified) (h : s.step (.notify attempt e) = .ok t) :
    t.process.voicePart = s.process.voicePart ∨
    ∃ manager, t.process.voicePart
      = (s.withManager attempt manager).process.voicePart := by
  obtain ⟨-, rfl⟩ | ⟨manager, -, hrest⟩ := System.notify_cases h
  · exact Or.inl rfl
  · refine Or.inr ⟨e.apply manager, ?_⟩
    obtain ⟨-, rfl⟩ | ⟨msg, -, hserved⟩ := hrest
    · rfl
    · -- The message goes to the application, which is outside the voice part.
      obtain ⟨process, hserver, rfl⟩ := System.onProcess_ok.mp hserved
      refine avsServerMsg_voicePart ?_ hserver
      rw [withManager_registry]
      exact hI

/-- A notification changes nothing, or the input manager of the live smart screen. -/
theorem notify_voicePart {attempt : Nat} {e : ManagerEvent}
    (hI : s.process.registry.Identified) (h : s.step (.notify attempt e) = .ok t) :
    t.process.voicePart = s.process.voicePart ∨
    ∃ p screen manager, s.process.voicePart.avsSmartScreen = some p ∧
      s.process.voicePart.screens p = some screen ∧
      t.process.voicePart = s.process.voicePart.withScreen p
        { screen with thunderInputManager := manager } := by
  obtain hkeep | ⟨manager, hnotified⟩ := notify_voicePart_eq hI h
  · exact Or.inl hkeep
  · rw [hnotified]
    exact (withManager_voicePart s attempt manager).imp_right
      fun ⟨p, screen, hp, hscreen, heq⟩ => ⟨p, screen, some manager, hp, hscreen, heq⟩

/-- A message of the video skill leaves the voice part alone. -/
theorem vskMsg_voicePart {message : Text} {length : Nat} (hI : s.process.registry.Identified)
    (h : s.step (.vskMsg message length) = .ok t) :
    t.process.voicePart = s.process.voicePart := by
  obtain ⟨-, rfl⟩ | ⟨-, hserved⟩ := System.vskMsg_cases h
  · rfl
  · obtain ⟨process, hserver, rfl⟩ := System.onProcess_ok.mp hserved
    exact avsServerMsg_voicePart hI hserver

end

end Proofs

end XrSpeechAvs
