import XrSpeechAvs.Proofs.Lifecycle

/-!
# `XrSpeechAvs.Proofs.Isolation`: the objects of `avs_sdt.c` do not disturb each other

Two routes lead to a handler of the application. A callback carries the handle of its
object. A server message carries none, and goes to the object that was created last
(`lastCreated`).

`ObjectView` is one object seen alone: its entry, and the calls of its handlers so far. The
calls of a run that concern it are `ownCalls`: those with its handle, the creations that
return it, and the server messages that arrive while it is the object created last.

* `view_run`: in the registry, the view of an object runs on its own calls.
* `alone_run`: the own calls of an object succeed when they are run alone.
* `calls_isolated`: over any run in which no released object is used, the calls made for an
  object are those of its own calls run alone, and those of its view.
* `server_messages_are_redirected`: a creation takes the server messages away from an
  older object.
-/

set_option autoImplicit false

namespace XrSpeechAvs.Proofs

open XrSpeechAvs.Impl
open XrSpeechAvs.Lib

/-! ### The own calls of an object -/

/-- What `avs_sdt_create` returned last. -/
def lastCreated (latest : Option Ptr) : Call → Option Ptr
  | .avsSdtCreate mem _ => mem
  | _ => latest

/-- The calls that concern the object `p`, when `latest` was created last. -/
def isOwn (p : Ptr) (latest : Option Ptr) : Call → Bool
  | .avsSdtCreate mem _ => mem = some p
  | .avsSdtHandlers object _ => object = some p
  | .avsSdtUpdateMaskPii object _ => object = some p
  | .avsSdtDestroy object => object = some p
  | .callback data _ => data = some p
  | .avsServerMsg _ _ => latest = some p
  | _ => false

/-- The calls of a run that concern the object `p`. -/
def ownCalls (p : Ptr) (cs : List Call) : List Call :=
  ownEvents lastCreated (isOwn p) none cs

/-- The calls of application handlers that are made for the object `p`. -/
def callsOf (p : Ptr) (calls : List AppCall) : List AppCall :=
  calls.filter fun call => call.object = p

/-- One object seen alone. -/
structure ObjectView where
  object : Option AvsSdtObj := none
  calls : List AppCall := []

namespace ObjectView

/-- An event for the object: its current handler is called once, if it is set. -/
def notify (p : Ptr) (v : ObjectView) (handler : AvsSdtHandlers → Option Handler)
    (event : AppEvent) : ObjectView :=
  match v.object with
  | none => v
  | some obj =>
    { v with calls := v.calls ++ Registry.handlerCalls p obj (handler obj.handlers) event }

/-- What an own call does to the object `p`. -/
def step (p : Ptr) (v : ObjectView) : Call → ObjectView
  | .avsSdtCreate _ params => { v with object := some (.new params) }
  | .avsSdtHandlers _ handlersIn =>
    { v with object := v.object.map fun obj => { obj with handlers := handlersIn } }
  | .avsSdtUpdateMaskPii _ enable =>
    { v with object := v.object.map fun obj => { obj with maskPii := enable } }
  | .avsSdtDestroy _ => { v with object := none }
  | .callback _ cb => v.notify p cb.handler cb.event
  | .avsServerMsg message length => v.notify p (·.msg) (.msg message length)
  | _ => v

/-- An event leaves the object as it is. -/
theorem notify_object (p : Ptr) (v : ObjectView)
    (handler : AvsSdtHandlers → Option Handler) (event : AppEvent) :
    (v.notify p handler event).object = v.object := by
  unfold notify
  cases hobj : v.object with
  | none => exact hobj
  | some obj => rfl

/-- What becomes of the object does not depend on the calls so far. -/
theorem step_object (p : Ptr) {v w : ObjectView} (h : v.object = w.object) (c : Call) :
    (v.step p c).object = (w.step p c).object := by
  cases c with
  | avsSdtHandlers object handlersIn =>
    simp only [step]
    rw [h]
  | avsSdtUpdateMaskPii object enable =>
    simp only [step]
    rw [h]
  | avsSdtCreate mem params => rfl
  | avsSdtDestroy object => rfl
  | callback data cb => exact (notify_object ..).trans (h.trans (notify_object ..).symm)
  | avsServerMsg message length =>
    exact (notify_object ..).trans (h.trans (notify_object ..).symm)
  | _ => exact h

end ObjectView

/-! ### The view of a registry -/

/-- The object `p` in a registry. -/
def view (p : Ptr) (r : Registry) : ObjectView where
  object := r.sdtObjs p
  calls := callsOf p r.appCalls

/-- The calls for an event are made for the object that has it. -/
theorem callsOf_handlerCalls (p q : Ptr) (obj : AvsSdtObj) (handler : Option Handler)
    (event : AppEvent) :
    callsOf p (Registry.handlerCalls q obj handler event)
      = if q = p then Registry.handlerCalls q obj handler event else [] := by
  cases handler with
  | none => exact (ite_self []).symm
  | some h =>
    by_cases hq : q = p
    · simp [callsOf, Registry.handlerCalls, hq]
    · simp [callsOf, Registry.handlerCalls, hq]

/-- A modification makes no call. -/
theorem modify_appCalls (r : Registry) (data : Option Ptr)
    (f : AvsSdtObj → Option AvsSdtObj) : (r.modify data f).appCalls = r.appCalls := by
  unfold Registry.modify
  cases r.object data <;> rfl

/-- A modification of the object itself. -/
theorem view_modify_own (p : Ptr) (r : Registry) (f : AvsSdtObj → Option AvsSdtObj) :
    view p (r.modify (some p) f) = { view p r with object := (view p r).object.bind f } := by
  have hentry : (r.modify (some p) f).sdtObjs p = (r.sdtObjs p).bind f := by
    rw [Registry.modify_sdtObjs, if_pos rfl]
  unfold view
  rw [modify_appCalls, hentry]

/-- A modification of another object is not seen. -/
theorem view_modify_other {p : Ptr} {data : Option Ptr} (h : data ≠ some p) (r : Registry)
    (f : AvsSdtObj → Option AvsSdtObj) : view p (r.modify data f) = view p r := by
  have hentry : (r.modify data f).sdtObjs p = r.sdtObjs p := by
    cases data with
    | none => rfl
    | some q =>
      have hq : p ≠ q := fun he => h (congrArg some he.symm)
      rw [Registry.modify_sdtObjs, if_neg hq]
  unfold view
  rw [modify_appCalls, hentry]

/-- An event for the object itself. -/
theorem view_call_own (p : Ptr) (r : Registry) (handler : AvsSdtHandlers → Option Handler)
    (event : AppEvent) :
    view p (r.call (some p) handler event) = (view p r).notify p handler event := by
  unfold ObjectView.notify
  cases hobj : r.sdtObjs p with
  | none =>
    have hnone : r.object (some p) = none := by simp [Registry.object, hobj]
    -- Nothing is live at `p`, so neither side calls a handler.
    rw [Registry.call_of_none hnone]
    simp only [view, hobj]
  | some obj =>
    rw [Registry.call_of_some (Registry.object_of_live hobj)]
    simp only [view, hobj]
    rw [callsOf, List.filter_append]
    have hown := callsOf_handlerCalls p p obj (handler obj.handlers) event
    rw [if_pos rfl] at hown
    exact congrArg (fun new => ObjectView.mk (some obj) (callsOf p r.appCalls ++ new)) hown

/-- An event for another object is not seen. -/
theorem view_call_other {p : Ptr} {data : Option Ptr} (h : data ≠ some p) (r : Registry)
    (handler : AvsSdtHandlers → Option Handler) (event : AppEvent) :
    view p (r.call data handler event) = view p r := by
  cases hobj : r.object data with
  | none => rw [Registry.call_of_none hobj]
  | some found =>
    obtain ⟨q, obj⟩ := found
    rw [Registry.call_of_some hobj]
    obtain ⟨rfl, -⟩ := Registry.object_eq_some hobj
    -- The handler of another object is called, and `callsOf p` drops the call.
    have hq : q ≠ p := fun he => h (congrArg some he)
    have hother := callsOf_handlerCalls p q obj (handler obj.handlers) event
    rw [if_neg hq] at hother
    show ObjectView.mk (r.sdtObjs p) (callsOf p (r.appCalls ++ _)) = _
    rw [callsOf, List.filter_append]
    exact congrArg (ObjectView.mk (r.sdtObjs p))
      ((congrArg (callsOf p r.appCalls ++ ·) hother).trans (List.append_nil _))

/-- An own call steps the view. -/
theorem view_own (p : Ptr) (r : Registry) (c : Call) (h : isOwn p r.avsObj c = true) :
    view p (r.step c) = (view p r).step p c := by
  cases c with
  | avsSdtCreate mem params =>
    -- An own creation is one that returns `p`.
    obtain rfl : mem = some p := of_decide_eq_true h
    show ObjectView.mk (Function.update r.sdtObjs p (some (.new params)) p) _ = _
    rw [Function.update_self]
    rfl
  | avsSdtHandlers object handlersIn =>
    obtain rfl : object = some p := of_decide_eq_true h
    show view p (r.modify (some p) _) = _
    rw [view_modify_own]
    simp only [ObjectView.step]
    cases (view p r).object <;> rfl
  | avsSdtUpdateMaskPii object enable =>
    obtain rfl : object = some p := of_decide_eq_true h
    show view p (r.modify (some p) _) = _
    rw [view_modify_own]
    simp only [ObjectView.step]
    cases (view p r).object <;> rfl
  | avsSdtDestroy object =>
    obtain rfl : object = some p := of_decide_eq_true h
    show view p (r.modify (some p) _) = _
    rw [view_modify_own, Option.bind_fun_none]
    rfl
  | callback data cb =>
    obtain rfl : data = some p := of_decide_eq_true h
    exact view_call_own p r cb.handler cb.event
  | avsServerMsg message length =>
    -- The message goes to the object that `avs_obj` names, which is `p`.
    have hlatest : r.avsObj = some p := of_decide_eq_true h
    show view p (r.call r.avsObj (·.msg) (.msg message length)) = _
    rw [hlatest]
    exact view_call_own p r (·.msg) (.msg message length)
  -- The calls of `AVS.cpp` are nobody's own.
  | avsRecvAudiodata frame => cases h
  | avsInitialize mem => cases h
  | avsDeInitialize => cases h
  | voiceStart => cases h
  | voiceStop => cases h
  | voiceData dataBuffer length => cases h

/-- Any other call is not seen. -/
theorem view_other (p : Ptr) (r : Registry) (c : Call) (h : ¬ isOwn p r.avsObj c = true) :
    view p (r.step c) = view p r := by
  cases c with
  | avsSdtCreate mem params =>
    cases mem with
    -- A creation that fails changes only `avs_obj`.
    | none => rfl
    | some q =>
      -- A new object at another address does not touch the one at `p`.
      have hq : p ≠ q := fun he => h (decide_eq_true (congrArg some he.symm))
      show ObjectView.mk (Function.update r.sdtObjs q (some (.new params)) p) _ = _
      rw [Function.update_of_ne hq]
      rfl
  | avsSdtHandlers object handlersIn =>
    exact view_modify_other (fun he => h (decide_eq_true he)) r _
  | avsSdtUpdateMaskPii object enable =>
    exact view_modify_other (fun he => h (decide_eq_true he)) r _
  | avsSdtDestroy object => exact view_modify_other (fun he => h (decide_eq_true he)) r _
  | callback data cb => exact view_call_other (fun he => h (decide_eq_true he)) r _ _
  | avsServerMsg message length =>
    exact view_call_other (fun he => h (decide_eq_true he)) r _ _
  | avsRecvAudiodata frame => rfl
  | avsInitialize mem => rfl
  | avsDeInitialize => rfl
  | voiceStart => rfl
  | voiceStop => rfl
  | voiceData dataBuffer length => rfl

/-- `avs_obj` is what was created last. -/
theorem step_avsObj (r : Registry) (c : Call) :
    (r.step c).avsObj = lastCreated r.avsObj c := by
  cases c with
  | avsSdtCreate mem params => cases mem <;> rfl
  | avsSdtHandlers object handlersIn => exact Registry.modify_avsObj ..
  | avsSdtUpdateMaskPii object enable => exact Registry.modify_avsObj ..
  | avsSdtDestroy object => exact Registry.modify_avsObj ..
  | callback data cb => exact Registry.call_avsObj ..
  | avsServerMsg message length => exact Registry.call_avsObj ..
  | _ => rfl

/-- In the registry, the view of an object runs on its own calls. -/
theorem view_run (p : Ptr) (r : Registry) (cs : List Call) :
    view p (run Registry.step r cs)
      = run (ObjectView.step p) (view p r) (ownEvents lastCreated (isOwn p) r.avsObj cs) := by
  have hrun : view p (run Registry.step r cs) = run (ObjectView.step p) (view p r)
      (ownEvents Registry.step (fun r c => isOwn p r.avsObj c) r cs) :=
    run_view (view_own p) (view_other p) r cs
  rw [hrun]
  exact congrArg _ (ownEvents_proj Registry.avsObj step_avsObj r cs)

section
variable {p : Ptr} {latest alone : Option Ptr}

/-- When `p` was created last in one run, it was so in the other. -/
theorem lastCreated_alone (h : latest = some p → alone = some p) (c : Call) :
    lastCreated latest c = some p → lastCreated alone c = some p := by
  cases c with
  | avsSdtCreate mem params => exact fun hmem => hmem
  | _ => exact h

/-- A call that does not concern `p` does not make it the last one. -/
theorem lastCreated_other {c : Call} (h : ¬ isOwn p latest c = true) :
    lastCreated latest c = some p → latest = some p := by
  cases c with
  | avsSdtCreate mem params => exact fun hmem => absurd (decide_eq_true hmem) h
  | _ => exact fun hlatest => hlatest

/-- An own call is an own call in both runs. -/
theorem isOwn_alone (h : latest = some p → alone = some p) {c : Call}
    (hown : isOwn p latest c = true) : isOwn p alone c = true := by
  cases c with
  | avsServerMsg message length => exact decide_eq_true (h (of_decide_eq_true hown))
  | _ => exact hown

end

/-- The own calls of an object are all its own when they are run alone. -/
theorem ownCalls_ownCalls (p : Ptr) (cs : List Call) :
    ownCalls p (ownCalls p cs) = ownCalls p cs := by
  -- When the object was created last, it was so among its own calls.
  refine ownEvents_ownEvents (R := fun latest alone => latest = some p → alone = some p)
    (fun latest alone c h hown => ?_) (fun latest alone c h hother => ?_) (fun h => h) cs
  · exact ⟨isOwn_alone h hown, lastCreated_alone h c⟩
  · exact fun hafter => h (lastCreated_other hother hafter)

/-! ### Runs that use no released object -/

/-- The callbacks that call into `AVS.cpp`. -/
def usesVoice : RouterCallback → Bool
  | .streamBegin .. => true
  | .streamEnd .. => true
  | _ => false

/-- The call uses no released object. A handle is null or live, a frame fits the buffer, and
a global that the call goes through is null or live. -/
def UsesLive (s : Process) : Call → Prop
  | .avsSdtCreate _ _ => True
  | .avsSdtHandlers object _ => s.HandleOk object
  | .avsSdtUpdateMaskPii object _ => s.HandleOk object
  | .avsSdtDestroy object => s.HandleOk object ∧ (object ≠ none → ScreenOk s)
  | .callback data cb => s.HandleOk data ∧ (data ≠ none → usesVoice cb = true → ScreenOk s)
  | .avsRecvAudiodata frame => frame.data.length ≤ AUDIO_BUFFER_SIZE ∧ ScreenOk s
  | .avsServerMsg _ _ => ServerOk s.registry
  | .avsInitialize _ => True
  | .avsDeInitialize => ScreenOk s
  | .voiceStart => ScreenOk s
  | .voiceStop => ScreenOk s
  | .voiceData _ _ => ScreenOk s

/-- A teardown of a smart screen that is null or live. -/
theorem avsDeInitialize_of_screenOk {s : Process} (h : ScreenOk s) :
    ∃ t, s.avsDeInitialize = .ok t := by
  unfold Process.avsDeInitialize
  cases hp : s.avsSmartScreen with
  | none => exact ⟨s, rfl⟩
  | some p =>
    obtain ⟨screen, hscreen⟩ := Option.isSome_iff_exists.mp (h p hp)
    simp only [hscreen]
    exact ⟨_, rfl⟩

/-- A call on a smart screen that is null or live. -/
theorem withSmartScreen_of_screenOk {s : Process} (h : ScreenOk s)
    (f : SmartScreen → Sdk → SmartScreen × Sdk) : ∃ t, s.withSmartScreen f = .ok t := by
  obtain ⟨t, ht, -⟩ := screenOk_withSmartScreen h f
  exact ⟨t, ht⟩

/-- The voice part of a callback, when it is used with a smart screen that is null or
live. -/
theorem voice_of_usesVoice {s : Process} (cb : RouterCallback)
    (h : usesVoice cb = true → ScreenOk s) : ∃ t, cb.voice s = .ok t := by
  cases cb with
  | streamBegin uuid src timestamp => exact withSmartScreen_of_screenOk (h rfl) _
  | streamEnd uuid stats timestamp => exact withSmartScreen_of_screenOk (h rfl) _
  | _ => exact ⟨s, rfl⟩

/-- A call on the object behind a handle succeeds, when it does so on an object. -/
theorem onObject_succeeds {s : Process} {data : Option Ptr} (hI : s.registry.Identified)
    (hdata : s.HandleOk data) {k : Ptr → AvsSdtObj → Except Fault Process}
    (hk : ∀ p obj, data ≠ none → ∃ t, k p obj = .ok t) :
    ∃ t, s.onObject data k = .ok t := by
  have hall : ∃ t, s.onObject data k = .ok t ∧ True := by
    refine Process.onObject_of_handleOk hI hdata trivial fun p obj hobj => ?_
    obtain ⟨hsome, -⟩ := Registry.object_eq_some hobj
    obtain ⟨t, ht⟩ := hk p obj (by simp [hsome])
    exact ⟨t, ht, trivial⟩
  obtain ⟨t, ht, -⟩ := hall
  exact ⟨t, ht⟩

/-- A call that uses no released object succeeds. -/
theorem step_of_usesLive {s : Process} {c : Call} (hI : s.registry.Identified)
    (h : UsesLive s c) : ∃ t, s.step c = .ok t := by
  cases c with
  | avsSdtCreate mem params => exact ⟨_, rfl⟩
  | avsSdtHandlers object handlersIn =>
    rw [Process.step_avsSdtHandlers]
    exact onObject_succeeds hI h fun p obj _ => ⟨_, rfl⟩
  | avsSdtUpdateMaskPii object enable =>
    rw [Process.step_avsSdtUpdateMaskPii]
    exact onObject_succeeds hI h fun p obj _ => ⟨_, rfl⟩
  | avsSdtDestroy object =>
    rw [Process.step_avsSdtDestroy]
    -- The object is released before the teardown of the smart screen, which may still fault.
    refine onObject_succeeds hI h.1 fun p obj hobj => ?_
    exact avsDeInitialize_of_screenOk
      (s := { s with sdtObjs := Function.update s.sdtObjs p none }) (h.2 hobj)
  | callback data cb =>
    rw [Process.step_callback]
    refine onObject_succeeds hI h.1 fun p obj hobj => ?_
    exact voice_of_usesVoice cb fun hvoice => screenOk_callHandler (h.2 hobj hvoice) p obj _ _
  | avsServerMsg message length =>
    have hserver : s.HandleOk s.avsObj := h
    rw [Process.step_avsServerMsg]
    exact onObject_succeeds hI hserver fun p obj _ => ⟨_, rfl⟩
  | avsRecvAudiodata frame =>
    -- The frame fits the buffer, so the copy does not overflow.
    obtain ⟨hfits, hscreen⟩ := h
    show ∃ t, s.avsRecvAudiodata frame = .ok t
    rw [Process.avsRecvAudiodata_of_fits s frame hfits]
    exact withSmartScreen_of_screenOk
      (s := { s with audioBuffer := s.audioBuffer.memcpy frame.data hfits }) hscreen _
  | avsInitialize mem => exact ⟨_, rfl⟩
  | avsDeInitialize => exact avsDeInitialize_of_screenOk h
  | voiceStart => exact withSmartScreen_of_screenOk h _
  | voiceStop => exact withSmartScreen_of_screenOk h _
  | voiceData dataBuffer length =>
    exact withSmartScreen_of_screenOk h fun screen sdk =>
      (screen, screen.data sdk dataBuffer length)

/-! ### The own calls run alone -/

/-- A call on the smart screen keeps the global. -/
theorem withSmartScreen_avsSmartScreen {s t : Process}
    {f : SmartScreen → Sdk → SmartScreen × Sdk} (h : s.withSmartScreen f = .ok t) :
    t.avsSmartScreen = s.avsSmartScreen := by
  obtain ⟨-, rfl⟩ | ⟨p, screen, -, -, rfl⟩ := Process.withSmartScreen_cases h
  · rfl
  · rfl

/-- The voice part of a callback keeps the global. -/
theorem voice_avsSmartScreen {s t : Process} (cb : RouterCallback) (h : cb.voice s = .ok t) :
    t.avsSmartScreen = s.avsSmartScreen := by
  cases cb with
  | streamBegin uuid src timestamp => exact withSmartScreen_avsSmartScreen h
  | streamEnd uuid stats timestamp => exact withSmartScreen_avsSmartScreen h
  | _ => rw [← Except.ok.inj h]

/-- An own call of an object keeps the global `AvsSmartScreen`. -/
theorem own_avsSmartScreen {p : Ptr} {latest : Option Ptr} {s t : Process} {c : Call}
    (hI : s.registry.Identified) (hown : isOwn p latest c = true) (h : s.step c = .ok t) :
    t.avsSmartScreen = s.avsSmartScreen := by
  cases c with
  | avsSdtCreate mem params =>
    rw [← Except.ok.inj h]
    cases mem <;> rfl
  | avsSdtHandlers object handlersIn =>
    rw [Process.step_avsSdtHandlers] at h
    obtain ⟨-, rfl⟩ | ⟨p, obj, -, hk⟩ := Process.onObject_cases hI h
    · rfl
    · rw [← Except.ok.inj hk]
  | avsSdtUpdateMaskPii object enable =>
    rw [Process.step_avsSdtUpdateMaskPii] at h
    obtain ⟨-, rfl⟩ | ⟨p, obj, -, hk⟩ := Process.onObject_cases hI h
    · rfl
    · rw [← Except.ok.inj hk]
  | avsSdtDestroy object =>
    rw [Process.step_avsSdtDestroy] at h
    obtain ⟨-, rfl⟩ | ⟨p, obj, -, hk⟩ := Process.onObject_cases hI h
    · rfl
    · -- A destroy deletes the smart screen, but it does not clear the global.
      obtain ⟨-, rfl⟩ | ⟨q, screen, -, -, rfl⟩ := Process.avsDeInitialize_cases hk
      · rfl
      · rfl
  | callback data cb =>
    rw [Process.step_callback] at h
    obtain ⟨-, rfl⟩ | ⟨p, obj, -, hk⟩ := Process.onObject_cases hI h
    · rfl
    · rw [voice_avsSmartScreen cb hk, Process.callHandler_avsSmartScreen]
  | avsServerMsg message length =>
    rw [Process.step_avsServerMsg] at h
    obtain ⟨-, rfl⟩ | ⟨p, obj, -, hk⟩ := Process.onObject_cases hI h
    · rfl
    · rw [← Except.ok.inj hk, Process.callHandler_avsSmartScreen]
  -- No other call is an own one.
  | _ => cases hown

/-- The process in which the own calls of `p` run alone, next to the process in which all
calls run. Nothing has made a smart screen there. -/
structure Alone (p : Ptr) (s alone : Process) : Prop where
  identified : alone.registry.Identified
  object : alone.sdtObjs p = s.sdtObjs p
  server : s.avsObj = some p → alone.avsObj = some p
  screen : alone.avsSmartScreen = none

/-- A handle to `p` that is live in one process is live in the other. -/
theorem Alone.handleOk {p : Ptr} {s alone : Process} (h : Alone p s alone)
    (hp : s.HandleOk (some p)) : alone.HandleOk (some p) := by
  intro q hq
  obtain rfl : p = q := Option.some.inj hq
  rw [h.object]
  exact hp p rfl

/-- An own call uses no released object when it runs alone. -/
theorem Alone.usesLive {p : Ptr} {s alone : Process} {c : Call} (h : Alone p s alone)
    (hown : isOwn p s.avsObj c = true) (hlive : UsesLive s c) : UsesLive alone c := by
  have hscreen : ScreenOk alone := by
    intro q hq
    rw [h.screen] at hq
    cases hq
  cases c with
  | avsSdtCreate mem params => trivial
  | avsSdtHandlers object handlersIn =>
    obtain rfl : object = some p := of_decide_eq_true hown
    exact h.handleOk hlive
  | avsSdtUpdateMaskPii object enable =>
    obtain rfl : object = some p := of_decide_eq_true hown
    exact h.handleOk hlive
  | avsSdtDestroy object =>
    obtain rfl : object = some p := of_decide_eq_true hown
    exact ⟨h.handleOk hlive.1, fun _ => hscreen⟩
  | callback data cb =>
    obtain rfl : data = some p := of_decide_eq_true hown
    exact ⟨h.handleOk hlive.1, fun _ _ => hscreen⟩
  | avsServerMsg message length =>
    -- The message goes to `p` in both processes.
    have hlatest : s.avsObj = some p := of_decide_eq_true hown
    have hp : s.HandleOk (some p) := by
      intro q hq
      exact hlive q (hlatest.trans hq)
    intro q hq
    have hq' : alone.avsObj = some q := hq
    exact h.handleOk hp q ((h.server hlatest).symm.trans hq')
  | _ => cases hown

/-- An own call runs in both processes. -/
theorem Alone.step_own {p : Ptr} {s t alone : Process} {c : Call} (h : Alone p s alone)
    (hI : s.registry.Identified) (hown : isOwn p s.avsObj c = true) (hlive : UsesLive s c)
    (ht : s.step c = .ok t) : ∃ v, alone.step c = .ok v ∧ Alone p t v := by
  obtain ⟨v, hv⟩ := step_of_usesLive h.identified (h.usesLive hown hlive)
  have hownAlone : isOwn p alone.avsObj c = true := isOwn_alone h.server hown
  have htr := Process.registry_step hI ht
  have hvr := Process.registry_step h.identified hv
  refine ⟨v, hv, Process.identified_step h.identified hv, ?_, ?_, ?_⟩
  · -- Both views of the object take the same step.
    have hs : view p t.registry = (view p s.registry).step p c := by
      rw [htr, view_own p s.registry c hown]
    have ha : view p v.registry = (view p alone.registry).step p c := by
      rw [hvr, view_own p alone.registry c hownAlone]
    have hsame : (view p alone.registry).object = (view p s.registry).object := h.object
    have hnext := ObjectView.step_object p hsame c
    rw [← hs, ← ha] at hnext
    exact hnext
  · have hs : t.avsObj = lastCreated s.avsObj c :=
      (congrArg Registry.avsObj htr).trans (step_avsObj s.registry c)
    have ha : v.avsObj = lastCreated alone.avsObj c :=
      (congrArg Registry.avsObj hvr).trans (step_avsObj alone.registry c)
    rw [hs, ha]
    exact lastCreated_alone h.server c
  · rw [own_avsSmartScreen h.identified hown hv]
    exact h.screen

/-- Any other call does not run alone. -/
theorem Alone.step_other {p : Ptr} {s t alone : Process} {c : Call} (h : Alone p s alone)
    (hI : s.registry.Identified) (hother : ¬ isOwn p s.avsObj c = true)
    (ht : s.step c = .ok t) : Alone p t alone := by
  have htr := Process.registry_step hI ht
  refine ⟨h.identified, ?_, ?_, h.screen⟩
  · have hs : view p t.registry = view p s.registry := by
      rw [htr, view_other p s.registry c hother]
    exact h.object.trans (congrArg ObjectView.object hs).symm
  · intro hserver
    have hs : t.avsObj = lastCreated s.avsObj c :=
      (congrArg Registry.avsObj htr).trans (step_avsObj s.registry c)
    rw [hs] at hserver
    exact h.server (lastCreated_other hother hserver)

/-- A run that uses no released object succeeds, and so does the run of the own calls of an
object. -/
theorem alone_run {p : Ptr} {s alone : Process} {cs : List Call} (h : Alone p s alone)
    (hI : s.registry.Identified) (hlive : TryEachStep Process.step UsesLive s cs) :
    ∃ t v, tryRun Process.step s cs = .ok t ∧
      tryRun Process.step alone (ownEvents lastCreated (isOwn p) s.avsObj cs) = .ok v := by
  -- Both runs start at any two states that are `Alone` next to each other.
  induction cs generalizing s alone with
  | nil => exact ⟨s, alone, rfl, rfl⟩
  | cons c cs ih =>
    have hc : UsesLive s c := hlive [] c (by simp)
    obtain ⟨m, hm⟩ := step_of_usesLive hI hc
    have hrest := ((tryEachStep_cons hm).mp hlive).2
    have hserver : m.avsObj = lastCreated s.avsObj c :=
      (congrArg Registry.avsObj (Process.registry_step hI hm)).trans (step_avsObj s.registry c)
    have hIm := Process.identified_step hI hm
    by_cases hown : isOwn p s.avsObj c = true
    · -- The call runs on both sides.
      obtain ⟨n, hn, hnext⟩ := h.step_own hI hown hc hm
      obtain ⟨t, v, ht, hv⟩ := ih hnext hIm hrest
      rw [hserver] at hv
      refine ⟨t, v, tryRun_cons_ok.mpr ⟨m, hm, ht⟩, ?_⟩
      rw [ownEvents_cons_own hown]
      exact tryRun_cons_ok.mpr ⟨n, hn, hv⟩
    · -- The call runs on one side only.
      obtain ⟨t, v, ht, hv⟩ := ih (h.step_other hI hown hm) hIm hrest
      rw [hserver] at hv
      refine ⟨t, v, tryRun_cons_ok.mpr ⟨m, hm, ht⟩, ?_⟩
      rw [ownEvents_cons_other hown]
      exact hv

/-! ### The law -/

/-- A successful run is a run of the registry. -/
theorem tryRun_registry {s t : Process} {cs : List Call} (hI : s.registry.Identified)
    (h : tryRun Process.step s cs = .ok t) :
    t.registry = run Registry.step s.registry cs := by
  induction cs generalizing s with
  | nil =>
    obtain rfl : s = t := Except.ok.inj h
    rfl
  | cons c cs ih =>
    obtain ⟨m, hm, hrest⟩ := tryRun_cons_ok.mp h
    rw [ih (Process.identified_step hI hm) hrest, run_cons, Process.registry_step hI hm]

/-- The calls made for an object in a successful run are those of its view. -/
theorem callsOf_tryRun {p : Ptr} {t : Process} {cs : List Call}
    (h : tryRun Process.step Process.init cs = .ok t) :
    callsOf p t.appCalls = (run (ObjectView.step p) {} (ownCalls p cs)).calls := by
  have hview := view_run p Process.init.registry cs
  rw [← tryRun_registry Process.identified_init h] at hview
  exact congrArg ObjectView.calls hview

/-- In every run of the exported functions and callbacks in which no released object is used and
each deletion of the smart screen is taken to complete, and for every object: the run succeeds,
and so do the own calls of the object when they are run alone. The calls of application handlers
made for the object are the same in both runs, and they are those of its view: one call of the
current handler for each event. -/
theorem calls_isolated (p : Ptr) (cs : List Call)
    (h : TryEachStep Process.step UsesLive Process.init cs) :
    ∃ t v, tryRun Process.step Process.init cs = .ok t ∧
      tryRun Process.step Process.init (ownCalls p cs) = .ok v ∧
      callsOf p t.appCalls = callsOf p v.appCalls ∧
      callsOf p t.appCalls = (run (ObjectView.step p) {} (ownCalls p cs)).calls := by
  have halone : Alone p Process.init Process.init :=
    ⟨Process.identified_init, rfl, fun hserver => hserver, rfl⟩
  obtain ⟨t, v, ht, hv⟩ := alone_run halone Process.identified_init h
  -- Both runs give the calls of one view, on the same own calls.
  have hall := callsOf_tryRun (p := p) ht
  have hown := callsOf_tryRun (p := p) hv
  have hsame : ownCalls p (ownEvents lastCreated (isOwn p) Process.init.avsObj cs)
      = ownCalls p cs := ownCalls_ownCalls p cs
  rw [hsame] at hown
  exact ⟨t, v, ht, hv, hall.trans hown.symm, hall⟩

/-- Two objects with handlers. The older one gets its callback and no message, and the
younger one is destroyed in between. -/
theorem calls_isolated_two_objects :
    ∃ t v, tryRun Process.step Process.init
        [.avsSdtCreate (some 1) ⟨true, 5⟩, .avsSdtHandlers (some 1) { streamBegin := some 7 },
          .avsSdtCreate (some 2) ⟨true, 6⟩, .avsSdtHandlers (some 2) { msg := some 9 },
          .avsServerMsg [] 0, .avsSdtDestroy (some 2), .callback (some 1) (.streamBegin 3 0 0)]
        = .ok t ∧
      tryRun Process.step Process.init
        [.avsSdtCreate (some 1) ⟨true, 5⟩, .avsSdtHandlers (some 1) { streamBegin := some 7 },
          .callback (some 1) (.streamBegin 3 0 0)] = .ok v ∧
      callsOf 1 t.appCalls = callsOf 1 v.appCalls ∧
      callsOf 1 t.appCalls
        = [{ object := 1, handler := 7, event := .streamBegin 3 0 0, userData := 5 }] := by
  have hlive : TryEachStep Process.step UsesLive Process.init
      [.avsSdtCreate (some 1) ⟨true, 5⟩, .avsSdtHandlers (some 1) { streamBegin := some 7 },
        .avsSdtCreate (some 2) ⟨true, 6⟩, .avsSdtHandlers (some 2) { msg := some 9 },
        .avsServerMsg [] 0, .avsSdtDestroy (some 2),
        .callback (some 1) (.streamBegin 3 0 0)] := by
    simp only [TryEachStep, eachStep_cons, eachStep_nil, and_true]
    refine ⟨trivial, ?_, trivial, ?_, ?_, ⟨?_, fun _ => ?_⟩, ?_, fun _ _ => ?_⟩
    all_goals
      intro q hq
      cases hq
    all_goals rfl
  exact calls_isolated 1 _ hlive

/-- A server message reaches an object with a `msg` handler. It no longer does after another
object has been created, and not after a creation that failed. -/
theorem server_messages_are_redirected :
    (tryRun Process.step Process.init
        [.avsSdtCreate (some 1) ⟨true, 5⟩, .avsSdtHandlers (some 1) { msg := some 8 },
          .avsServerMsg ['h', 'i'] 2]).map (fun t => callsOf 1 t.appCalls)
      = .ok [{ object := 1, handler := 8, event := .msg ['h', 'i'] 2, userData := 5 }] ∧
    (tryRun Process.step Process.init
        [.avsSdtCreate (some 1) ⟨true, 5⟩, .avsSdtHandlers (some 1) { msg := some 8 },
          .avsSdtCreate (some 2) ⟨true, 6⟩, .avsServerMsg ['h', 'i'] 2]).map
        (fun t => callsOf 1 t.appCalls)
      = .ok [] ∧
    (tryRun Process.step Process.init
        [.avsSdtCreate (some 1) ⟨true, 5⟩, .avsSdtHandlers (some 1) { msg := some 8 },
          .avsSdtCreate none ⟨true, 6⟩, .avsServerMsg ['h', 'i'] 2]).map
        (fun t => callsOf 1 t.appCalls)
      = .ok [] := by
  refine ⟨rfl, rfl, rfl⟩

end XrSpeechAvs.Proofs
