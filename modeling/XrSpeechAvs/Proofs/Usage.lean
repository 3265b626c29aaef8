import XrSpeechAvs.Proofs.InitOutcome
import XrSpeechAvs.Proofs.VoicePart
import XrSpeechAvs.Usage

/-!
# `XrSpeechAvs.Proofs.Usage`: the rules for the callers are right

`call_usage` is the step lemma for the calls. It is an equation: a call does to the usage of the
process what its rule says, and it faults as its rule says. So the usage predicts a run of
calls exactly, with the fault that ends it (`calls_usage`).

`usage_simulates` is the step lemma for all events. The rules ask for enough, so a run that keeps
them has no fault (`usage_safe`).

Both laws take every deletion of the smart screen to complete. Whether it does is the subject of
`XrSpeechAvs.Proofs.Teardown`.
-/

set_option autoImplicit false

namespace XrSpeechAvs.Proofs

open XrSpeechAvs.Impl
open XrSpeechAvs.Lib

/-! ### The calls -/

section
variable (s : Process)

/-- A call on the smart screen touches it. -/
theorem withSmartScreen_usage (f : SmartScreen → Sdk → SmartScreen × Sdk) :
    (s.withSmartScreen f).map Process.usage = s.usage.touch := by
  unfold Process.withSmartScreen Usage.touch Process.usage
  cases hp : s.avsSmartScreen with
  | none => simp [Except.map, hp]
  | some p =>
    cases hscreen : s.screens p with
    | none => simp [Except.map, hscreen]
    | some screen => simp [Except.map, hscreen]

/-- A teardown releases the smart screen. -/
theorem avsDeInitialize_usage :
    s.avsDeInitialize.map Process.usage = s.usage.release := by
  unfold Process.avsDeInitialize Usage.release Process.usage
  cases hp : s.avsSmartScreen with
  | none => simp [Except.map, hp]
  | some p =>
    cases hscreen : s.screens p with
    | none => simp [Except.map, hscreen]
    | some screen => simp [Except.map, hscreen]

/-- A call that tests a handle needs it to be null or live. -/
theorem onObject_usage (hI : s.registry.Identified) (data : Option Ptr)
    {k : Ptr → AvsSdtObj → Except Fault Process} {rule : Ptr → Except Fault Usage}
    (hk : ∀ p obj, s.sdtObjs p = some obj → (k p obj).map Process.usage = rule p) :
    (s.onObject data k).map Process.usage = s.usage.onHandle data rule := by
  cases data with
  | none => rfl
  | some p =>
    have hlive : s.usage.live p = (s.sdtObjs p).isSome := rfl
    unfold Usage.onHandle
    simp only [hlive]
    cases hobj : s.sdtObjs p with
    | none =>
      -- The test of the handle reads the identifier of a released object.
      have hreleased : s.avsSdtObjectIsValid (some p) = .error (.useAfterFree p) := by
        simp only [Process.avsSdtObjectIsValid, hobj]
      unfold Process.onObject
      rw [hreleased]
      rfl
    | some obj =>
      unfold Process.onObject
      rw [Process.avsSdtObjectIsValid_of_live hobj (hI p obj hobj)]
      exact hk p obj hobj

/-- To replace a live object changes no usage. -/
theorem usage_updateObj {p : Ptr} {obj : AvsSdtObj} (hobj : s.sdtObjs p = some obj)
    (new : AvsSdtObj) :
    Process.usage { s with sdtObjs := Function.update s.sdtObjs p (some new) } = s.usage := by
  have hlive : (fun q => (Function.update s.sdtObjs p (some new) q).isSome)
      = fun q => (s.sdtObjs q).isSome := by
    funext q
    by_cases hq : q = p
    · rw [hq, Function.update_self, hobj]
      rfl
    · rw [Function.update_of_ne hq]
  unfold Process.usage
  rw [hlive]

/-- A new or a removed object. -/
theorem live_update (p : Ptr) (new : Option AvsSdtObj) :
    (fun q => (Function.update s.sdtObjs p new q).isSome)
      = Function.update s.usage.live p new.isSome := by
  funext q
  by_cases hq : q = p
  · rw [hq, Function.update_self, Function.update_self]
  · rw [Function.update_of_ne hq, Function.update_of_ne hq]
    rfl

/-- The handlers of the application change no usage. -/
theorem callHandler_usage (p : Ptr) (obj : AvsSdtObj) (handler : Option Handler)
    (event : AppEvent) : (s.callHandler p obj handler event).usage = s.usage := by
  rw [Process.callHandler_eq]
  rfl

/-- The step lemma for the calls: a call does to the usage what its rule says, and it faults as
its rule says. -/
theorem call_usage (hI : s.registry.Identified) (c : Call) :
    (s.step c).map Process.usage = s.usage.call c := by
  cases c with
  | avsSdtCreate mem params =>
    cases mem with
    | none => rfl
    | some p =>
      show Except.ok (Process.usage _) = Except.ok _
      unfold Process.usage Process.avsSdtCreate
      simp only [live_update]
      rfl
  | avsSdtHandlers object handlersIn =>
    rw [Process.step_avsSdtHandlers]
    refine onObject_usage s hI object fun p obj hobj => ?_
    exact congrArg Except.ok (usage_updateObj s hobj _)
  | avsSdtUpdateMaskPii object enable =>
    rw [Process.step_avsSdtUpdateMaskPii]
    refine onObject_usage s hI object fun p obj hobj => ?_
    exact congrArg Except.ok (usage_updateObj s hobj _)
  | avsSdtDestroy object =>
    rw [Process.step_avsSdtDestroy]
    refine onObject_usage s hI object fun p obj hobj => ?_
    rw [avsDeInitialize_usage]
    -- The object is gone before the teardown.
    have hremoved : Process.usage { s with sdtObjs := Function.update s.sdtObjs p none }
        = { s.usage with live := Function.update s.usage.live p false } := by
      unfold Process.usage
      simp only [live_update]
      rfl
    rw [hremoved]
  | callback data cb =>
    rw [Process.step_callback]
    have hvoice : ∀ p obj f, ((s.callHandler p obj (cb.handler obj.handlers)
        cb.event).withSmartScreen f).map Process.usage = s.usage.touch := by
      intro p obj f
      rw [withSmartScreen_usage, callHandler_usage]
    cases cb with
    | streamBegin uuid src timestamp =>
      exact onObject_usage s hI data fun p obj _ => hvoice p obj SmartScreen.start
    | streamEnd uuid stats timestamp =>
      exact onObject_usage s hI data fun p obj _ => hvoice p obj SmartScreen.stop
    | _ =>
      exact onObject_usage s hI data fun p obj _ => congrArg Except.ok (callHandler_usage ..)
  | avsServerMsg message length =>
    rw [Process.step_avsServerMsg]
    exact onObject_usage s hI s.avsObj fun p obj _ => congrArg Except.ok (callHandler_usage ..)
  | avsRecvAudiodata frame =>
    show (s.avsRecvAudiodata frame).map Process.usage = if frame.data.length ≤ AUDIO_BUFFER_SIZE
      then s.usage.touch else .error .bufferOverflow
    by_cases hfit : frame.data.length ≤ AUDIO_BUFFER_SIZE
    · rw [if_pos hfit, Process.avsRecvAudiodata_of_fits s frame hfit]
      exact withSmartScreen_usage _ _
    · rw [if_neg hfit, Process.avsRecvAudiodata, dif_neg hfit]
      rfl
  | avsInitialize mem =>
    show Except.ok (s.avsInitialize mem).usage = _
    unfold Process.avsInitialize Usage.call
    cases hp : s.avsSmartScreen with
    | none => simp [Process.usage, hp]
    | some p =>
      simp only [Process.usage, hp]
      split <;> rfl
  | avsDeInitialize => exact avsDeInitialize_usage s
  | voiceStart => exact withSmartScreen_usage s _
  | voiceStop => exact withSmartScreen_usage s _
  | voiceData dataBuffer length =>
    exact withSmartScreen_usage s fun screen sdk =>
      (screen, screen.data sdk dataBuffer length)

end

/-- The rules predict every run of calls from the start of the process on, in which each deletion
is taken to complete: it ends with the usage that they say, or with the fault that they say. -/
theorem calls_usage (cs : List Call) :
    (tryRun Process.step Process.init cs).map Process.usage
      = tryRun Usage.call Usage.init cs := by
  have hstep : ∀ s c, s.registry.Identified →
      (Process.step s c).map Process.usage = Usage.call s.usage (id c) :=
    fun s c hI => call_usage s hI c
  have hrun := tryRun_map Process.usage id (I := fun s => s.registry.Identified)
    (fun s c t hI ht => Process.identified_step hI ht) hstep Process.identified_init cs
  rw [List.map_id] at hrun
  exact hrun

/-! ### The system -/

/-- To name the faults of a result does not make it succeed. -/
theorem mapError_eq_ok {α φ ψ : Type} {f : φ → ψ} {x : Except φ α} {a : α} :
    x.mapError f = .ok a ↔ x = .ok a := by
  cases x with
  | error e =>
    constructor
    · intro h
      cases h
    · intro h
      cases h
  | ok b =>
    constructor
    · intro h
      exact congrArg Except.ok (Except.ok.inj h)
    · intro h
      exact congrArg Except.ok (Except.ok.inj h)

section
variable {s : System} {u : Usage}

/-- A call that keeps its rule succeeds. -/
theorem call_of_usage (hI : s.process.registry.Identified) {c : Call}
    (hu : s.process.usage.call c = .ok u) :
    ∃ t, s.onProcess (s.process.step c) = .ok t ∧ t.process.usage = u := by
  rw [← call_usage s.process hI c] at hu
  obtain ⟨process, hstep, husage⟩ := map_eq_ok.mp hu
  exact ⟨_, System.onProcess_ok.mpr ⟨process, hstep, rfl⟩, husage⟩

/-- To replace a live smart screen changes no usage. -/
theorem usage_updateScreen {process : Process} {p : Ptr} {screen : SmartScreen}
    (hlive : process.screens p = some screen) (after : SmartScreen) :
    Process.usage { process with screens := Function.update process.screens p (some after) }
      = process.usage := by
  unfold Process.usage
  cases hq : process.avsSmartScreen with
  | none => simp
  | some q =>
    by_cases hpq : q = p
    · simp [hpq, hlive]
    · simp [hpq]

/-- Neither does a replaced input manager. -/
theorem withManager_usage (s : System) (attempt : Nat) (manager : ThunderInputManager) :
    (s.withManager attempt manager).process.usage = s.process.usage := by
  obtain ⟨hkeep, -⟩ | ⟨-, p, screen, hlive, hreplaced⟩ := s.withManager_process attempt manager
  · rw [hkeep]
  · rw [hreplaced]
    exact usage_updateScreen (System.liveScreen_eq_some.mp hlive).2 _

/-- An attempt with an environment in which a first attempt would not fault. -/
theorem init_of_usage {env : InitEnv} (hu : s.process.usage.step (.init env) = .ok u) :
    ∃ t, s.step (.init env) = .ok t ∧ t.process.usage = u := by
  have hfirst : ∀ f, (Impl.init env .new).1 ≠ .fault f := by
    intro f hfault
    simp only [Usage.step, hfault] at hu
    cases hu
  have htouch : s.process.usage.touch = .ok u := by
    cases hout : (Impl.init env .new).1 with
    | fault f => exact absurd hout (hfirst f)
    | next a =>
      simp only [Usage.step, hout] at hu
      exact mapError_eq_ok.mp hu
    | ret r =>
      simp only [Usage.step, hout] at hu
      exact mapError_eq_ok.mp hu
  obtain rfl := Usage.touch_eq_of_ok htouch
  show ∃ t, s.attemptInit env = .ok t ∧ t.process.usage = s.process.usage
  cases hp : s.process.avsSmartScreen with
  | none =>
    refine ⟨s, ?_, rfl⟩
    simp only [System.attemptInit, hp]
  | some p =>
    cases hlive : s.process.screens p with
    | none =>
      -- The smart screen is gone, and the rule forbids this.
      simp [Usage.touch, Process.usage, hp, hlive] at htouch
    | some screen =>
      have hout : (initWired env (.entering screen)).1 = (Impl.init env .new).1 := by
        rw [(initWired_projects env _).1]
        exact outcome_of_first (hfirst .emptyPool) screen
      refine ⟨_, System.attemptInit_of_live hp hlive fun f => ?_, usage_updateScreen hlive _⟩
      rw [hout]
      exact hfirst f

/-- Only a directive with the text of `Speak` is passed on. -/
theorem forwarded_none {manager : ThunderInputManager} {e : ManagerEvent}
    (h : ∀ message, e = .receive message →
      ¬ ThunderInputManager.contains message ThunderInputManager.speakKey = true) :
    e.forwarded manager = none := by
  cases e with
  | receive message =>
    unfold ManagerEvent.forwarded ThunderInputManager.receive
    simp only [h message rfl]
    split <;> rfl
  | _ => rfl

/-- A notification whose message, if it has one, may be served. -/
theorem notify_of_usage (hI : s.process.registry.Identified) {attempt : Nat} {e : ManagerEvent}
    (hu : s.process.usage.step (.notify attempt e) = .ok u) :
    ∃ t, s.step (.notify attempt e) = .ok t ∧ t.process.usage = u := by
  -- The rule asks for the server when there is something to pass on.
  have hrule : u = s.process.usage ∧ (s.process.usage.serverMsg = .ok s.process.usage ∨
      ∀ message, e = .receive message →
        ¬ ThunderInputManager.contains message ThunderInputManager.speakKey = true) := by
    cases e with
    | receive message =>
      have hu : (if ThunderInputManager.contains message ThunderInputManager.speakKey then
          s.process.usage.serverMsg.mapError SystemFault.call else .ok s.process.usage) = .ok u :=
        hu
      by_cases hkey : ThunderInputManager.contains message ThunderInputManager.speakKey = true
      · rw [if_pos hkey] at hu
        have hserver := mapError_eq_ok.mp hu
        obtain rfl := Usage.serverMsg_eq_of_ok hserver
        exact ⟨rfl, Or.inl hserver⟩
      · rw [if_neg hkey] at hu
        refine ⟨(Except.ok.inj hu).symm, Or.inr fun message' heq => ?_⟩
        obtain rfl := ManagerEvent.receive.inj heq
        exact hkey
    | _ =>
      refine ⟨(Except.ok.inj hu).symm, Or.inr fun message heq => ?_⟩
      cases heq
  obtain ⟨rfl, hrule⟩ := hrule
  show ∃ t, s.notify attempt e = .ok t ∧ t.process.usage = s.process.usage
  unfold System.notify
  cases s.listener attempt e with
  | none => exact ⟨s, rfl, rfl⟩
  | some manager =>
    have husage := withManager_usage s attempt (e.apply manager)
    simp only
    cases hmsg : e.forwarded manager with
    | none => exact ⟨_, rfl, husage⟩
    | some msg =>
      obtain hserver | hnone := hrule
      · have hserver : (s.withManager attempt (e.apply manager)).process.usage.call
            (.avsServerMsg msg.message msg.length) = .ok s.process.usage := by
          rw [husage]
          exact hserver
        refine call_of_usage ?_ hserver
        rw [withManager_registry]
        exact hI
      · -- There is nothing to pass on.
        rw [forwarded_none hnone] at hmsg
        cases hmsg

/-- The step lemma: an event that keeps its rule succeeds, and it does to the usage what the rule
says. -/
theorem usage_step (hI : s.process.registry.Identified) {e : SystemEvent}
    (hu : s.process.usage.step e = .ok u) : ∃ t, s.step e = .ok t ∧ t.process.usage = u := by
  cases e with
  | call c => exact call_of_usage hI (mapError_eq_ok.mp hu)
  | init env => exact init_of_usage hu
  | notify attempt event => exact notify_of_usage hI hu
  | vskMsg message length =>
    have hserver := mapError_eq_ok.mp hu
    show ∃ t, s.vskMsg message length = .ok t ∧ t.process.usage = u
    unfold System.vskMsg
    split
    · exact call_of_usage (c := .avsServerMsg message length) hI hserver
    · exact ⟨s, rfl, (Usage.serverMsg_eq_of_ok hserver).symm⟩

end

/-- The system follows the rules. -/
theorem usage_simulates :
    Simulates Usage.step System.step (fun _ e => [e]) (fun _ _ => True)
      (fun u s => s.process.registry.Identified ∧ s.process.usage = u) := by
  intro u s e v hrelated _ hv
  obtain ⟨hI, rfl⟩ := hrelated
  obtain ⟨t, ht, husage⟩ := usage_step hI hv
  exact ⟨t, tryRun_cons_ok.mpr ⟨t, ht, rfl⟩, identified_system hI ht, husage⟩

/-- Every run of the whole system whose events keep the rules has no fault: nothing is used or
released after its release, no copy runs over its buffer, and no attempt of `Init` dereferences
a null pointer, reads an empty pool or throws. Each deletion is taken to complete. -/
theorem usage_safe (es : List SystemEvent) {u : Usage}
    (hu : tryRun Usage.step Usage.init es = .ok u) :
    ∃ t, tryRun System.step System.init es = .ok t ∧ t.process.usage = u := by
  have hinit : System.init.process.registry.Identified ∧
      System.init.process.usage = Usage.init := ⟨Process.identified_init, rfl⟩
  obtain ⟨t, ht, -, husage⟩ := usage_simulates.tryRun hinit
    (tryEachStep_of_forall_mem fun _ _ => trivial) hu
  rw [shown_of_ok (fun e => [e]) hu, List.flatMap_singleton'] at ht
  exact ⟨t, ht, husage⟩

/-- Two objects, an attempt, a stream and a directive, and then the teardown by the first
object. The second one still gets a server message. -/
def wholeSession : List SystemEvent :=
  [.call (.avsSdtCreate (some 5) { maskPii := false, userData := 9 }),
    .call (.avsSdtCreate (some 6) { maskPii := true, userData := 8 }),
    .call (.avsInitialize 1), .init (fullEnv (smallConfig 1 ['6'])),
    .call (.callback (some 5) (.streamBegin 3 0 0)),
    .notify 0 (.receive ThunderInputManager.speakKey),
    .call (.callback (some 5) (.streamEnd 3 0 0)), .call (.avsSdtDestroy (some 5)),
    .vskMsg ['v'] 1]

/-- The rules for that session: it keeps them, and the smart screen is gone in the end. -/
theorem usage_safe_wholeSession :
    ∃ t, tryRun System.step System.init wholeSession = .ok t ∧
      t.process.usage.screen = .gone 1 := by
  have hscreen : ((tryRun Usage.step Usage.init wholeSession).map Usage.screen).toOption
      = some (.gone 1) := by
    decide +kernel
  cases hrun : tryRun Usage.step Usage.init wholeSession with
  | error f =>
    rw [hrun] at hscreen
    cases hscreen
  | ok u =>
    obtain ⟨t, ht, husage⟩ := usage_safe wholeSession hrun
    rw [hrun] at hscreen
    rw [← husage] at hscreen
    exact ⟨t, ht, Option.some.inj hscreen⟩

end XrSpeechAvs.Proofs
