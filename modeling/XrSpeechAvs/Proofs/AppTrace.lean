import XrSpeechAvs.Lib.History
import XrSpeechAvs.Proofs.InitLines
import XrSpeechAvs.Proofs.VoicePart

/-!
# `XrSpeechAvs.Proofs.AppTrace`: what the application is told, by history

`avs_sdt.c` writes the user data, the mask and the handlers of an object at different times, and
it keeps the receiver of the server messages in a global. This module describes all of them by
the calls so far, without the state.

* `recorded`: an object, put together from the last call that wrote each of its parts.
* `answered`: the handler calls that a call makes, behind the calls so far.
* `chronicle_step`: the step lemma. It needs no rule for the callers, since a handle of a
  released object counts as none in the registry.
* `served_simulates`: every event of the system does to the registry what its own calls do, and
  the messages that it brings to `avs_server_msg` are such calls.
* `app_trace`: the law over every run of the whole system that succeeds.
-/

set_option autoImplicit false

namespace XrSpeechAvs.Proofs

open XrSpeechAvs.Impl
open XrSpeechAvs.Lib

/-! ### An object by its history -/

/-- Whether a call makes the object `p`, or releases it. -/
def living (p : Ptr) : Call → Option Bool
  | .avsSdtCreate mem _ => if mem = some p then some true else none
  | .avsSdtDestroy object => if object = some p then some false else none
  | _ => none

/-- The handlers that a call gives to the object `p`. A new object has none. -/
def handlersSet (p : Ptr) : Call → Option AvsSdtHandlers
  | .avsSdtCreate mem _ => if mem = some p then some {} else none
  | .avsSdtHandlers object handlersIn => if object = some p then some handlersIn else none
  | _ => none

/-- The mask that a call gives to the object `p`. -/
def maskSet (p : Ptr) : Call → Option Bool
  | .avsSdtCreate mem params => if mem = some p then some params.maskPii else none
  | .avsSdtUpdateMaskPii object enable => if object = some p then some enable else none
  | _ => none

/-- The user data that a call gives to the object `p`. -/
def userDataSet (p : Ptr) : Call → Option Nat
  | .avsSdtCreate mem params => if mem = some p then some params.userData else none
  | _ => none

/-- The receiver of the server messages that a call brings. -/
def receiverSet : Call → Option (Option Ptr)
  | .avsSdtCreate mem _ => some mem
  | _ => none

/-- The object `p` behind the calls `past`. -/
def recorded (past : List Call) (p : Ptr) : Option AvsSdtObj :=
  if latest (living p) false past then some
    { identifier := AVS_SDT_IDENTIFIER
      handlers := latest (handlersSet p) {} past
      maskPii := latest (maskSet p) false past
      userData := latest (userDataSet p) 0 past }
  else none

/-- The handler call for an event of the object behind a handle, if there is such an object and
its handler is set. -/
def toldTo (past : List Call) (data : Option Ptr) (handler : AvsSdtHandlers → Option Handler)
    (event : AppEvent) : List AppCall :=
  (data.bind fun p => (recorded past p).map fun obj => (p, obj)).elim [] fun (p, obj) =>
    Registry.handlerCalls p obj (handler obj.handlers) event

/-- The handler calls that a call makes behind the calls `past`. -/
def answered (past : List Call) : Call → List AppCall
  | .callback data cb => toldTo past data cb.handler cb.event
  | .avsServerMsg message length =>
    toldTo past (latest receiverSet none past) (·.msg) (.msg message length)
  | _ => []

/-- The registry after the calls `past`. -/
structure Chronicle (past : List Call) (r : Registry) : Prop where
  sdtObjs : r.sdtObjs = recorded past
  avsObj : r.avsObj = latest receiverSet none past
  appCalls : r.appCalls = outputs answered past

/-- A call that does not write the object `p` keeps its record. -/
theorem recorded_concat_other {past : List Call} {c : Call} {p : Ptr} (hliving : living p c = none)
    (hhandlers : handlersSet p c = none) (hmask : maskSet p c = none)
    (huser : userDataSet p c = none) : recorded (past ++ [c]) p = recorded past p := by
  unfold recorded
  simp only [latest_concat, hliving, hhandlers, hmask, huser, Option.getD_none]

section
variable {past : List Call} {r : Registry}

/-- A call that changes nothing in the registry, and that writes no object. -/
theorem Chronicle.idle (h : Chronicle past r) {c : Call}
    (hrecorded : ∀ p, recorded (past ++ [c]) p = recorded past p)
    (hreceiver : receiverSet c = none) (hanswer : answered past c = []) :
    Chronicle (past ++ [c]) r where
  sdtObjs := by
    rw [h.sdtObjs]
    exact funext fun p => (hrecorded p).symm
  avsObj := by
    rw [latest_concat, hreceiver]
    exact h.avsObj
  appCalls := by
    rw [outputs_concat, hanswer, List.append_nil]
    exact h.appCalls

/-- A call that modifies the object behind its handle. -/
theorem Chronicle.modify (h : Chronicle past r) {c : Call} {data : Option Ptr}
    {f : AvsSdtObj → Option AvsSdtObj}
    (hrecorded : ∀ p, recorded (past ++ [c]) p
      = if data = some p then (recorded past p).bind f else recorded past p)
    (hreceiver : receiverSet c = none) (hanswer : answered past c = []) :
    Chronicle (past ++ [c]) (r.modify data f) where
  sdtObjs := by
    funext p
    rw [hrecorded, ← h.sdtObjs]
    -- A null handle names no object, and an object that is not named stays.
    cases data with
    | none => rfl
    | some q =>
      rw [Registry.modify_sdtObjs]
      by_cases hq : p = q
      · rw [if_pos hq, if_pos (congrArg some hq.symm), hq]
      · rw [if_neg hq, if_neg fun heq => hq (Option.some.inj heq).symm]
  avsObj := by
    rw [Registry.modify_avsObj, latest_concat, hreceiver]
    exact h.avsObj
  appCalls := by
    rw [outputs_concat, hanswer, List.append_nil, ← h.appCalls]
    -- To modify an object calls nobody.
    unfold Registry.modify
    cases r.object data <;> rfl

/-- A call that calls a handler of the object behind its handle. -/
theorem Chronicle.call (h : Chronicle past r) {c : Call} {data : Option Ptr}
    {handler : AvsSdtHandlers → Option Handler} {event : AppEvent}
    (hrecorded : ∀ p, recorded (past ++ [c]) p = recorded past p)
    (hreceiver : receiverSet c = none)
    (hanswer : answered past c = toldTo past data handler event) :
    Chronicle (past ++ [c]) (r.call data handler event) where
  sdtObjs := by
    rw [Registry.call_sdtObjs, h.sdtObjs]
    exact funext fun p => (hrecorded p).symm
  avsObj := by
    rw [Registry.call_avsObj, latest_concat, hreceiver]
    exact h.avsObj
  appCalls := by
    rw [outputs_concat, hanswer, ← h.appCalls]
    -- The handler is the one recorded, since the objects are those recorded.
    unfold toldTo
    rw [← h.sdtObjs]
    show _ = r.appCalls ++ (r.object data).elim [] _
    cases hobj : r.object data with
    | none => rw [Registry.call_of_none hobj, Option.elim_none, List.append_nil]
    | some found => rw [Registry.call_of_some hobj, Option.elim_some]

/-- The step lemma: a call makes the chronicle longer by itself. -/
theorem chronicle_step (h : Chronicle past r) (c : Call) :
    Chronicle (past ++ [c]) (r.step c) := by
  cases c with
  | avsSdtCreate mem params =>
    cases mem with
    | none =>
      refine ⟨?_, ?_, ?_⟩
      · rw [show (r.step (.avsSdtCreate none params)).sdtObjs = r.sdtObjs from rfl, h.sdtObjs]
        exact funext fun p => (recorded_concat_other rfl rfl rfl rfl).symm
      · rw [latest_concat]
        rfl
      · rw [outputs_concat]
        exact h.appCalls.trans (List.append_nil _).symm
    | some q =>
      refine ⟨?_, ?_, ?_⟩
      · funext p
        show Function.update r.sdtObjs q _ p = _
        rw [h.sdtObjs]
        by_cases hq : p = q
        · -- All four parts are written at once.
          subst hq
          simp [recorded, living, handlersSet, maskSet, userDataSet, AvsSdtObj.new]
        · have hne : ¬ some q = some p := fun heq => hq (Option.some.inj heq).symm
          rw [Function.update_of_ne hq]
          exact (recorded_concat_other (c := .avsSdtCreate (some q) params) (if_neg hne)
            (if_neg hne) (if_neg hne) (if_neg hne)).symm
      · rw [latest_concat]
        rfl
      · rw [outputs_concat]
        exact h.appCalls.trans (List.append_nil _).symm
  | avsSdtHandlers object handlersIn =>
    refine h.modify (fun p => ?_) rfl rfl
    by_cases hp : object = some p
    · simp only [recorded, latest_concat, living, handlersSet, maskSet, userDataSet, if_pos hp]
      cases latest (living p) false past <;> rfl
    · rw [if_neg hp]
      exact recorded_concat_other rfl (if_neg hp) rfl rfl
  | avsSdtUpdateMaskPii object enable =>
    refine h.modify (fun p => ?_) rfl rfl
    by_cases hp : object = some p
    · simp only [recorded, latest_concat, living, handlersSet, maskSet, userDataSet, if_pos hp]
      cases latest (living p) false past <;> rfl
    · rw [if_neg hp]
      exact recorded_concat_other rfl rfl (if_neg hp) rfl
  | avsSdtDestroy object =>
    refine h.modify (fun p => ?_) rfl rfl
    by_cases hp : object = some p
    · simp [recorded, living, hp]
    · rw [if_neg hp]
      exact recorded_concat_other (if_neg hp) rfl rfl rfl
  | callback data cb =>
    exact h.call (fun p => recorded_concat_other rfl rfl rfl rfl) rfl rfl
  | avsServerMsg message length =>
    show Chronicle _ (r.call r.avsObj _ _)
    rw [h.avsObj]
    exact h.call (fun p => recorded_concat_other rfl rfl rfl rfl) rfl rfl
  | _ => exact h.idle (fun p => recorded_concat_other rfl rfl rfl rfl) rfl rfl

end

/-- Before the first call there is no object and no handler call. -/
theorem chronicle_init : Chronicle [] Process.init.registry where
  sdtObjs := rfl
  avsObj := rfl
  appCalls := rfl

/-- The chronicle of every run of the registry from the start on. -/
theorem chronicle_run (cs : List Call) :
    Chronicle cs (run Registry.step Process.init.registry cs) :=
  history_run chronicle_init (fun _ _ c h => chronicle_step h c) cs

/-! ### The system -/

/-- The calls that an event makes on the registry. The messages that a notification and the
video skill bring to `avs_server_msg` are calls of it. -/
def served (s : System) : SystemEvent → List Call
  | .call c => [c]
  | .init _ => []
  | .notify attempt e => (s.listener attempt e).elim [] fun manager =>
    (e.forwarded manager).toList.map fun msg => .avsServerMsg msg.message msg.length
  | .vskMsg message length => if s.vskMsgHandler then [.avsServerMsg message length] else []

/-- The step lemma of the system: an event does to the registry what its calls do. -/
theorem served_registry {s t : System} {e : SystemEvent} (hI : s.process.registry.Identified)
    (h : s.step e = .ok t) :
    t.process.registry = run Registry.step s.process.registry (served s e) := by
  have hcall : ∀ (u v : System) (c : Call), u.process.registry.Identified →
      u.onProcess (u.process.step c) = .ok v →
      v.process.registry = u.process.registry.step c := by
    intro u v c hu hv
    obtain ⟨process, hstep, rfl⟩ := System.onProcess_ok.mp hv
    exact Process.registry_step hu hstep
  cases e with
  | call c => exact hcall s t c hI h
  | init env =>
    obtain ⟨-, rfl⟩ | ⟨p, screen, -, -, rfl⟩ := System.attemptInit_cases h
    · rfl
    · rfl
  | notify attempt event =>
    obtain ⟨hnone, rfl⟩ | ⟨manager, hlistener, hrest⟩ := System.notify_cases h
    · simp [served, hnone]
    · -- The input manager is replaced first, and then its message is a call.
      have hnotified := withManager_registry s attempt (event.apply manager)
      simp only [served, hlistener, Option.elim_some]
      obtain ⟨hmsg, rfl⟩ | ⟨msg, hmsg, hserved⟩ := hrest
      · simp only [hmsg]
        exact hnotified
      · simp only [hmsg]
        rw [← hnotified]
        exact hcall (s.withManager attempt (event.apply manager)) t
          (.avsServerMsg msg.message msg.length) (hnotified ▸ hI) hserved
  | vskMsg message length =>
    obtain ⟨hset, rfl⟩ | ⟨hset, hserved⟩ := System.vskMsg_cases h
    · simp [served, hset]
    · simp only [served, if_pos hset]
      exact hcall s t (.avsServerMsg message length) hI hserved

/-- The system and its registry, side by side. -/
theorem served_simulates :
    Simulates System.step (fun r c => (.ok (Registry.step r c) : Except Fault Registry)) served
      (fun _ _ => True) (fun s r => s.process.registry.Identified ∧ s.process.registry = r) := by
  rintro s r e t ⟨hI, rfl⟩ _ ht
  rw [tryRun_total]
  exact ⟨_, rfl, identified_system hI ht, served_registry hI ht⟩

/-- In every run of the whole system that succeeds, the application is told what the history
says: the objects, the receiver of the server messages and all handler calls, in order, are those
of the calls that the run has shown. Each deletion of the smart screen is taken to complete. -/
theorem app_trace (es : List SystemEvent) {t : System}
    (ht : tryRun System.step System.init es = .ok t) :
    (∀ p, t.process.sdtObjs p = recorded (shown System.step served System.init es) p) ∧
      t.process.avsObj = latest receiverSet none (shown System.step served System.init es) ∧
      t.process.appCalls = outputs answered (shown System.step served System.init es) := by
  have hrelated : System.init.process.registry.Identified ∧
      System.init.process.registry = Process.init.registry := ⟨Process.identified_init, rfl⟩
  obtain ⟨r, hr, -, hregistry⟩ := served_simulates.tryRun hrelated
    (tryEachStep_of_forall_mem fun _ _ => trivial) ht
  rw [tryRun_total] at hr
  have hchronicle := chronicle_run (shown System.step served System.init es)
  rw [Except.ok.inj hr, ← hregistry] at hchronicle
  exact ⟨fun p => congrFun hchronicle.sdtObjs p, hchronicle.avsObj, hchronicle.appCalls⟩

/-- Two objects at one address, one after the other, with messages of the video skill. -/
def reuseSession : List SystemEvent :=
  [.call (.avsInitialize 1), .call (.avsSdtCreate (some 5) { maskPii := false, userData := 9 }),
    .call (.avsSdtHandlers (some 5) { streamKwd := some 11, msg := some 12 }),
    .init (fullEnv (smallConfig 1 ['6'])), .vskMsg ['v'] 1,
    .call (.callback (some 5) (.streamKwd 3 0)), .call (.avsSdtDestroy (some 5)),
    .call (.avsSdtCreate (some 5) { maskPii := true, userData := 7 }),
    .call (.callback (some 5) (.streamKwd 4 0)),
    .call (.avsSdtHandlers (some 5) { streamKwd := some 21 }),
    .call (.callback (some 5) (.streamKwd 4 0)), .vskMsg ['w'] 1]

/-- The law for that session: the second object does not get the handlers of the first one. -/
theorem app_trace_reuseSession :
    ∃ t, tryRun System.step System.init reuseSession = .ok t ∧
      t.process.appCalls
        = [{ object := 5, handler := 12, event := .msg ['v'] 1, userData := 9 },
          { object := 5, handler := 11, event := .streamKwd 3 0, userData := 9 },
          { object := 5, handler := 21, event := .streamKwd 4 0, userData := 7 }] := by
  have hsome : (tryRun System.step System.init reuseSession).toOption.isSome = true := by
    decide +kernel
  cases hrun : tryRun System.step System.init reuseSession with
  | error f =>
    rw [hrun] at hsome
    cases hsome
  | ok t =>
    obtain ⟨-, -, hcalls⟩ := app_trace reuseSession hrun
    exact ⟨t, rfl, hcalls.trans (by decide +kernel)⟩

end XrSpeechAvs.Proofs
