import XrSpeechAvs.AvsSdt
import XrSpeechAvs.Lib.Run

/-!
# `XrSpeechAvs.Registry`: what `avs_sdt.c` is for

`avs_sdt.c` keeps a registry: the live objects, which of them gets the server messages, and
the calls of application handlers made so far. `Registry` is this part of the process, and
`Registry.step` says what each call does to it. There is no fault and no smart screen at
this level, and no identifier test: a handle counts when its object is live.

`registry_step` connects the two levels. Every successful call of the process is one step
of the registry. The connection needs that every live object carries the identifier
(`Identified`), which every call keeps (`identified_step`).
-/

set_option autoImplicit false

namespace XrSpeechAvs

open XrSpeechAvs.Impl
open XrSpeechAvs.Lib

/-- The objects of `avs_sdt.c` and the calls made for them. -/
structure Registry where
  sdtObjs : Ptr → Option AvsSdtObj
  avsObj : Option Ptr
  appCalls : List AppCall

namespace Registry

/-- The live object behind a handle. -/
def object (r : Registry) (data : Option Ptr) : Option (Ptr × AvsSdtObj) :=
  data.bind fun p => (r.sdtObjs p).map fun obj => (p, obj)

/-- Replace or remove the object behind a handle. -/
def modify (r : Registry) (data : Option Ptr) (f : AvsSdtObj → Option AvsSdtObj) :
    Registry :=
  match r.object data with
  | none => r
  | some (p, obj) => { r with sdtObjs := Function.update r.sdtObjs p (f obj) }

/-- The calls for one event: one when the handler is set. -/
def handlerCalls (p : Ptr) (obj : AvsSdtObj) (handler : Option Handler) (event : AppEvent) :
    List AppCall :=
  handler.toList.map fun h =>
    { object := p, handler := h, event := event, userData := obj.userData }

/-- Call a handler of the object behind a handle. -/
def call (r : Registry) (data : Option Ptr) (handler : AvsSdtHandlers → Option Handler)
    (event : AppEvent) : Registry :=
  match r.object data with
  | none => r
  | some (p, obj) =>
    { r with appCalls := r.appCalls ++ handlerCalls p obj (handler obj.handlers) event }

/-- What a call does to the registry. -/
def step (r : Registry) : Call → Registry
  | .avsSdtCreate none _ => { r with avsObj := none }
  | .avsSdtCreate (some p) params => { r with
      avsObj := some p
      sdtObjs := Function.update r.sdtObjs p (some (.new params)) }
  | .avsSdtHandlers object handlersIn =>
    r.modify object fun obj => some { obj with handlers := handlersIn }
  | .avsSdtUpdateMaskPii object enable =>
    r.modify object fun obj => some { obj with maskPii := enable }
  | .avsSdtDestroy object => r.modify object fun _ => none
  | .callback data cb => r.call data cb.handler cb.event
  | .avsServerMsg message length => r.call r.avsObj (·.msg) (.msg message length)
  | .avsRecvAudiodata _ | .avsInitialize _ | .avsDeInitialize | .voiceStart | .voiceStop
  | .voiceData _ _ => r

/-- A handle to a live object. -/
theorem object_of_live {r : Registry} {p : Ptr} {obj : AvsSdtObj}
    (h : r.sdtObjs p = some obj) : r.object (some p) = some (p, obj) := by
  simp only [object, h, Option.bind_some, Option.map_some]

/-- A handle that counts is the address of its object. -/
theorem object_eq_some {r : Registry} {data : Option Ptr} {p : Ptr} {obj : AvsSdtObj}
    (h : r.object data = some (p, obj)) : data = some p ∧ r.sdtObjs p = some obj := by
  obtain ⟨q, rfl, hq⟩ := Option.bind_eq_some_iff.mp h
  obtain ⟨o, ho, heq⟩ := Option.map_eq_some_iff.mp hq
  obtain ⟨rfl, rfl⟩ := Prod.mk.inj heq
  exact ⟨rfl, ho⟩

section
variable {r : Registry} {data : Option Ptr}

/-- A handle that does not count modifies nothing. -/
theorem modify_of_none (h : r.object data = none) (f : AvsSdtObj → Option AvsSdtObj) :
    r.modify data f = r := by
  unfold modify
  rw [h]

/-- A modification of the object behind the handle. -/
theorem modify_of_some {p : Ptr} {obj : AvsSdtObj} (h : r.object data = some (p, obj))
    (f : AvsSdtObj → Option AvsSdtObj) :
    r.modify data f = { r with sdtObjs := Function.update r.sdtObjs p (f obj) } := by
  unfold modify
  rw [h]

/-- A handle that does not count calls nothing. -/
theorem call_of_none (h : r.object data = none) (handler : AvsSdtHandlers → Option Handler)
    (event : AppEvent) : r.call data handler event = r := by
  unfold call
  rw [h]

/-- A call for the object behind the handle. -/
theorem call_of_some {p : Ptr} {obj : AvsSdtObj} (h : r.object data = some (p, obj))
    (handler : AvsSdtHandlers → Option Handler) (event : AppEvent) :
    r.call data handler event = { r with
      appCalls := r.appCalls ++ handlerCalls p obj (handler obj.handlers) event } := by
  unfold call
  rw [h]

end

/-- Every live object carries the identifier. -/
def Identified (r : Registry) : Prop :=
  ∀ p obj, r.sdtObjs p = some obj → obj.identifier = AVS_SDT_IDENTIFIER

/-- A modification concerns the object behind the handle, and no other. -/
theorem modify_sdtObjs (r : Registry) (p q : Ptr) (f : AvsSdtObj → Option AvsSdtObj) :
    (r.modify (some p) f).sdtObjs q
      = if q = p then (r.sdtObjs p).bind f else r.sdtObjs q := by
  cases hobj : r.sdtObjs p with
  | none =>
    have hnone : r.object (some p) = none := by simp [object, hobj]
    rw [modify_of_none hnone]
    by_cases hq : q = p
    · rw [if_pos hq, hq, hobj, Option.bind_none]
    · rw [if_neg hq]
  | some obj =>
    rw [modify_of_some (object_of_live hobj)]
    -- Only the live object is replaced.
    show Function.update r.sdtObjs p (f obj) q = _
    by_cases hq : q = p
    · rw [if_pos hq, hq, Function.update_self, Option.bind_some]
    · rw [if_neg hq, Function.update_of_ne hq]

/-- A replacement that keeps the identifier. -/
theorem identified_modify {r : Registry} (h : r.Identified) (data : Option Ptr)
    {f : AvsSdtObj → Option AvsSdtObj}
    (hf : ∀ obj new, f obj = some new → new.identifier = obj.identifier) :
    (r.modify data f).Identified := by
  cases data with
  | none => exact h
  | some p =>
    intro q new hnew
    rw [modify_sdtObjs] at hnew
    -- The object is the replacement, or it was there before.
    by_cases hq : q = p
    · rw [if_pos hq] at hnew
      obtain ⟨obj, hobj, hfobj⟩ := Option.bind_eq_some_iff.mp hnew
      rw [hf obj new hfobj]
      exact h p obj hobj
    · rw [if_neg hq] at hnew
      exact h q new hnew

/-- A call of a handler keeps the objects. -/
theorem call_sdtObjs (r : Registry) (data : Option Ptr)
    (handler : AvsSdtHandlers → Option Handler) (event : AppEvent) :
    (r.call data handler event).sdtObjs = r.sdtObjs := by
  unfold call
  cases r.object data <;> rfl

/-- A call of a handler keeps the object for the server messages. -/
theorem call_avsObj (r : Registry) (data : Option Ptr)
    (handler : AvsSdtHandlers → Option Handler) (event : AppEvent) :
    (r.call data handler event).avsObj = r.avsObj := by
  unfold call
  cases r.object data <;> rfl

/-- A modification keeps the object for the server messages. -/
theorem modify_avsObj (r : Registry) (data : Option Ptr)
    (f : AvsSdtObj → Option AvsSdtObj) : (r.modify data f).avsObj = r.avsObj := by
  unfold modify
  cases r.object data <;> rfl

/-- Every call keeps the identifiers. -/
theorem identified_step (r : Registry) (c : Call) (h : r.Identified) :
    (r.step c).Identified := by
  cases c with
  | avsSdtCreate mem params =>
    cases mem with
    | none => exact h
    | some p =>
      intro q obj hobj
      -- A new object carries the identifier.
      by_cases hq : q = p
      · subst hq
        rw [show (r.step (.avsSdtCreate (some q) params)).sdtObjs q = some _ from
          Function.update_self ..] at hobj
        rw [← Option.some.inj hobj]
        rfl
      · rw [show (r.step (.avsSdtCreate (some p) params)).sdtObjs q = r.sdtObjs q from
          Function.update_of_ne hq ..] at hobj
        exact h q obj hobj
  | avsSdtHandlers object handlersIn =>
    exact identified_modify h object fun obj new hnew => by rw [← Option.some.inj hnew]
  | avsSdtUpdateMaskPii object enable =>
    exact identified_modify h object fun obj new hnew => by rw [← Option.some.inj hnew]
  | avsSdtDestroy object =>
    exact identified_modify h object fun obj new hnew => by cases hnew
  | callback data cb =>
    intro p obj hobj
    rw [show (r.step (.callback data cb)).sdtObjs = r.sdtObjs from call_sdtObjs ..] at hobj
    exact h p obj hobj
  | avsServerMsg message length =>
    intro p obj hobj
    rw [show (r.step (.avsServerMsg message length)).sdtObjs = r.sdtObjs from
      call_sdtObjs ..] at hobj
    exact h p obj hobj
  | avsRecvAudiodata frame => exact h
  | avsInitialize mem => exact h
  | avsDeInitialize => exact h
  | voiceStart => exact h
  | voiceStop => exact h
  | voiceData dataBuffer length => exact h

end Registry

namespace Process

/-- The registry of the process. -/
def registry (s : Process) : Registry where
  sdtObjs := s.sdtObjs
  avsObj := s.avsObj
  appCalls := s.appCalls

/-- The process before the first call has no object. -/
theorem identified_init : init.registry.Identified := by
  intro p obj hobj
  cases hobj

/-- A handle is null or names a live object. -/
def HandleOk (s : Process) (data : Option Ptr) : Prop :=
  ∀ p, data = some p → (s.sdtObjs p).isSome

/-- The test of a handle finds the live object. -/
theorem avsSdtObjectIsValid_of_handleOk {s : Process} {data : Option Ptr}
    (hI : s.registry.Identified) (h : s.HandleOk data) :
    s.avsSdtObjectIsValid data = .ok (s.registry.object data) := by
  cases data with
  | none => rfl
  | some p =>
    obtain ⟨obj, hobj⟩ := Option.isSome_iff_exists.mp (h p rfl)
    rw [avsSdtObjectIsValid_of_live hobj (hI p obj hobj)]
    rw [Registry.object_of_live (r := s.registry) hobj]

/-- A call on the object behind a handle that is null or live. -/
theorem onObject_of_handleOk {s : Process} {data : Option Ptr} (hI : s.registry.Identified)
    (hdata : s.HandleOk data) {k : Ptr → AvsSdtObj → Except Fault Process}
    {P : Process → Prop} (h0 : P s)
    (hk : ∀ p obj, s.registry.object data = some (p, obj) → ∃ t, k p obj = .ok t ∧ P t) :
    ∃ t, s.onObject data k = .ok t ∧ P t := by
  unfold onObject
  rw [avsSdtObjectIsValid_of_handleOk hI hdata]
  cases hobj : s.registry.object data with
  | none => exact ⟨s, rfl, h0⟩
  | some found => exact hk found.1 found.2 hobj

/-- A call on the object behind a handle, when it succeeds: there is no such object and
nothing happens, or the call runs on the object. -/
theorem onObject_cases {s t : Process} {data : Option Ptr}
    {k : Ptr → AvsSdtObj → Except Fault Process} (hI : s.registry.Identified)
    (h : s.onObject data k = .ok t) :
    (s.registry.object data = none ∧ t = s) ∨
    ∃ p obj, s.registry.object data = some (p, obj) ∧ k p obj = .ok t := by
  obtain ⟨found, hfound, hrest⟩ := bind_eq_ok.mp h
  -- The test has succeeded, so it has not met a released object.
  have hdata : s.HandleOk data := by
    rintro p rfl
    cases hobj : s.sdtObjs p with
    | none => simp [avsSdtObjectIsValid, hobj] at hfound
    | some obj => rfl
  rw [avsSdtObjectIsValid_of_handleOk hI hdata] at hfound
  rw [Except.ok.inj hfound]
  cases found with
  | none => exact Or.inl ⟨rfl, (Except.ok.inj hrest).symm⟩
  | some found => exact Or.inr ⟨found.1, found.2, rfl, hrest⟩

/-- A call on the smart screen keeps the registry. -/
theorem withSmartScreen_registry {s t : Process} {f : SmartScreen → Sdk → SmartScreen × Sdk}
    (h : s.withSmartScreen f = .ok t) : t.registry = s.registry := by
  obtain ⟨-, rfl⟩ | ⟨p, screen, -, -, rfl⟩ := withSmartScreen_cases h
  · rfl
  · rfl

/-- A teardown of the smart screen keeps the registry. -/
theorem avsDeInitialize_registry {s t : Process} (h : s.avsDeInitialize = .ok t) :
    t.registry = s.registry := by
  obtain ⟨-, rfl⟩ | ⟨p, screen, -, -, rfl⟩ := avsDeInitialize_cases h
  · rfl
  · rfl

/-- A call of a handler is a call of the registry. -/
theorem callHandler_registry {s : Process} {data : Option Ptr} {p : Ptr} {obj : AvsSdtObj}
    (hobj : s.registry.object data = some (p, obj))
    (handler : AvsSdtHandlers → Option Handler) (event : AppEvent) :
    (s.callHandler p obj (handler obj.handlers) event).registry
      = s.registry.call data handler event := by
  rw [callHandler_eq, Registry.call_of_some hobj]
  rfl

/-- The voice part of a callback keeps the registry. -/
theorem voice_registry {s t : Process} (cb : RouterCallback) (h : cb.voice s = .ok t) :
    t.registry = s.registry := by
  cases cb with
  | streamBegin uuid src timestamp => exact withSmartScreen_registry h
  | streamEnd uuid stats timestamp => exact withSmartScreen_registry h
  | sessionBegin uuid src dstIndex detectorResult configOut timestamp =>
    rw [← Except.ok.inj h]
  | sessionEnd uuid stats timestamp => rw [← Except.ok.inj h]
  | streamKwd uuid timestamp => rw [← Except.ok.inj h]
  | connected uuid timestamp => rw [← Except.ok.inj h]
  | disconnected uuid retry timestamp => rw [← Except.ok.inj h]

/-- Every successful call of the process is one step of its registry. -/
theorem registry_step {s t : Process} {c : Call} (hI : s.registry.Identified)
    (h : s.step c = .ok t) : t.registry = s.registry.step c := by
  cases c with
  | avsSdtCreate mem params =>
    rw [← Except.ok.inj h]
    cases mem <;> rfl
  | avsSdtHandlers object handlersIn =>
    rw [step_avsSdtHandlers] at h
    obtain ⟨hnone, rfl⟩ | ⟨p, obj, hobj, hk⟩ := onObject_cases hI h
    · exact (Registry.modify_of_none hnone _).symm
    · -- The handle is valid, so the same object is found in the registry.
      show t.registry = s.registry.modify object _
      rw [Registry.modify_of_some hobj, ← Except.ok.inj hk]
      rfl
  | avsSdtUpdateMaskPii object enable =>
    rw [step_avsSdtUpdateMaskPii] at h
    obtain ⟨hnone, rfl⟩ | ⟨p, obj, hobj, hk⟩ := onObject_cases hI h
    · exact (Registry.modify_of_none hnone _).symm
    · show t.registry = s.registry.modify object _
      rw [Registry.modify_of_some hobj, ← Except.ok.inj hk]
      rfl
  | avsSdtDestroy object =>
    rw [step_avsSdtDestroy] at h
    obtain ⟨hnone, rfl⟩ | ⟨p, obj, hobj, hk⟩ := onObject_cases hI h
    · exact (Registry.modify_of_none hnone _).symm
    · show t.registry = s.registry.modify object _
      -- The teardown of the smart screen leaves the objects alone.
      rw [Registry.modify_of_some hobj, avsDeInitialize_registry hk]
      rfl
  | callback data cb =>
    rw [step_callback] at h
    obtain ⟨hnone, rfl⟩ | ⟨p, obj, hobj, hk⟩ := onObject_cases hI h
    · exact (Registry.call_of_none hnone _ _).symm
    · -- So does the voice part of a callback.
      rw [voice_registry cb hk]
      exact callHandler_registry hobj cb.handler cb.event
  | avsServerMsg message length =>
    rw [step_avsServerMsg] at h
    obtain ⟨hnone, rfl⟩ | ⟨p, obj, hobj, hk⟩ := onObject_cases hI h
    · exact (Registry.call_of_none hnone _ _).symm
    · rw [← Except.ok.inj hk]
      exact callHandler_registry hobj (·.msg) (.msg message length)
  | avsRecvAudiodata frame =>
    have h : s.avsRecvAudiodata frame = .ok t := h
    by_cases hfit : frame.data.length ≤ AUDIO_BUFFER_SIZE
    · rw [avsRecvAudiodata_of_fits s frame hfit] at h
      rw [withSmartScreen_registry h]
      rfl
    · rw [avsRecvAudiodata, dif_neg hfit] at h
      cases h
  | avsInitialize mem =>
    rw [← Except.ok.inj h]
    show (s.avsInitialize mem).registry = s.registry
    unfold avsInitialize
    cases s.avsSmartScreen <;> rfl
  | avsDeInitialize => exact avsDeInitialize_registry h
  | voiceStart => exact withSmartScreen_registry h
  | voiceStop => exact withSmartScreen_registry h
  | voiceData dataBuffer length =>
    have h : s.voiceData dataBuffer length = .ok t := h
    exact withSmartScreen_registry h

/-- Every call keeps the identifiers of the live objects. -/
theorem identified_step {s t : Process} {c : Call} (hI : s.registry.Identified)
    (h : s.step c = .ok t) : t.registry.Identified := by
  rw [registry_step hI h]
  exact Registry.identified_step s.registry c hI

end Process

end XrSpeechAvs
