import XrSpeechAvs.Proofs.AppTrace
import XrSpeechAvs.Proofs.InputManagers
import XrSpeechAvs.Proofs.Isolation

/-!
# `XrSpeechAvs.Proofs.ServerMessages`: every server message reaches the application once

A message of the server comes in on one of three ways: as a call of `avs_server_msg`, as a
directive that the input manager passes on, or from the video skill. All of them end in
`avs_server_msg`, which calls the `msg` handler of the object that was created last.

* `passesOn`: whether the input manager of an attempt passes directives on. After a successful
  attempt it does, if it has its `VoiceToApps` object (`listening_of_init`), and the input
  managers of earlier attempts go on as before.
* `served_of_listening`: while the ways are known, the calls that an event makes on the registry
  are known from the event alone.
* `listening_step`: ordinary events change nothing in the ways.
* `deliver_run`: in the registry, the subscriber is called once for each message.
* `server_messages` puts this together over whole runs.
-/

set_option autoImplicit false

namespace XrSpeechAvs.Proofs

open XrSpeechAvs.Impl
open XrSpeechAvs.Lib

/-! ### Messages and the events that bring them -/

/-- The messages of an event, when `ways` are the attempts whose input managers pass directives
on. A directive is a message when it holds the text of `Speak`. -/
def arrivals (ways : Nat → Bool) : SystemEvent → List ServerMsg
  | .call (.avsServerMsg message length) => [{ message := message, length := length }]
  | .notify attempt (.receive message) =>
    if ways attempt && ThunderInputManager.contains message ThunderInputManager.speakKey then
      [{ message := message, length := message.length }]
    else []
  | .vskMsg message length => [{ message := message, length := length }]
  | _ => []

/-- A message as a call of `avs_server_msg`. -/
def serverCall (msg : ServerMsg) : Call := .avsServerMsg msg.message msg.length

/-- The calls that an event makes on the registry. -/
def eventCalls (ways : Nat → Bool) : SystemEvent → List Call
  | .call c => [c]
  | e => (arrivals ways e).map serverCall

/-- The events that leave the subscription of the object `p` and the smart screen alone: no
creation, no new handlers for `p`, no teardown, and no attempt of `Init`. -/
def Ordinary (p : Ptr) : SystemEvent → Prop
  | .call (.avsSdtCreate _ _) => False
  | .call (.avsSdtHandlers object _) => object ≠ some p
  | .call (.avsSdtDestroy object) => object = none
  | .call .avsDeInitialize => False
  | .init _ => False
  | _ => True

/-! ### The subscription -/

/-- The object `p` gets the server messages, with the handler `h` and the user data `u`. -/
structure Subscribed (p : Ptr) (h : Handler) (u : Nat) (r : Registry) : Prop where
  receiver : r.avsObj = some p
  object : ∃ obj, r.sdtObjs p = some obj ∧ obj.handlers.msg = some h ∧ obj.userData = u

/-- The call of the subscriber for a message. -/
def delivered (p : Ptr) (h : Handler) (u : Nat) (msg : ServerMsg) : AppCall where
  object := p
  handler := h
  event := .msg msg.message msg.length
  userData := u

/-- Whether an event is a server message. -/
def isMsg : AppEvent → Bool
  | .msg _ _ => true
  | _ => false

/-- The calls for server messages, whoever gets them. -/
def msgCalls (calls : List AppCall) : List AppCall := calls.filter fun call => isMsg call.event

/-- The message of a call. -/
def callArrivals : Call → List ServerMsg
  | .avsServerMsg message length => [{ message := message, length := length }]
  | _ => []

/-- The calls that leave the subscription of `p` alone. -/
def Stays (p : Ptr) : Call → Prop
  | .avsSdtCreate _ _ => False
  | .avsSdtHandlers object _ => object ≠ some p
  | .avsSdtDestroy object => object ≠ some p
  | _ => True

/-- The event of a callback is no server message. -/
theorem isMsg_event (cb : RouterCallback) : isMsg cb.event = false := by
  cases cb <;> rfl

/-- The calls for one event of another kind are no server messages. -/
theorem msgCalls_handlerCalls (p : Ptr) (obj : AvsSdtObj) (handler : Option Handler)
    {event : AppEvent} (h : isMsg event = false) :
    msgCalls (Registry.handlerCalls p obj handler event) = [] := by
  cases handler with
  | none => rfl
  | some handler => simp [msgCalls, Registry.handlerCalls, h]

section
variable {p : Ptr} {h : Handler} {u : Nat} {r : Registry}

/-- A modification of another object keeps the subscription. -/
theorem Subscribed.modify_other (hsub : Subscribed p h u r) {data : Option Ptr}
    (hdata : data ≠ some p) (f : AvsSdtObj → Option AvsSdtObj) :
    Subscribed p h u (r.modify data f) := by
  refine ⟨(r.modify_avsObj data f).trans hsub.receiver, ?_⟩
  cases data with
  | none => exact hsub.object
  | some q =>
    have hne : p ≠ q := fun heq => hdata (congrArg some heq.symm)
    rw [Registry.modify_sdtObjs, if_neg hne]
    exact hsub.object

/-- The PII mask of the subscriber is no part of its subscription. -/
theorem Subscribed.modify_maskPii (hsub : Subscribed p h u r) (data : Option Ptr)
    (enable : Bool) :
    Subscribed p h u (r.modify data fun obj => some { obj with maskPii := enable }) := by
  by_cases hdata : data = some p
  · obtain ⟨obj, hobj, hmsg, huser⟩ := hsub.object
    refine ⟨(r.modify_avsObj data _).trans hsub.receiver, { obj with maskPii := enable }, ?_,
      hmsg, huser⟩
    rw [hdata, Registry.modify_sdtObjs, if_pos rfl, hobj]
    rfl
  · exact hsub.modify_other hdata _

/-- A call of a handler keeps the subscription. -/
theorem Subscribed.call (hsub : Subscribed p h u r) (data : Option Ptr)
    (handler : AvsSdtHandlers → Option Handler) (event : AppEvent) :
    Subscribed p h u (r.call data handler event) := by
  refine ⟨(r.call_avsObj data handler event).trans hsub.receiver, ?_⟩
  rw [Registry.call_sdtObjs]
  exact hsub.object

/-- A server message is one call of the subscriber. -/
theorem Subscribed.message (hsub : Subscribed p h u r) (msg : ServerMsg) :
    (r.step (serverCall msg)).appCalls = r.appCalls ++ [delivered p h u msg] := by
  obtain ⟨obj, hobj, hmsg, huser⟩ := hsub.object
  show (r.call r.avsObj (·.msg) (.msg msg.message msg.length)).appCalls = _
  rw [hsub.receiver, Registry.call_of_some (Registry.object_of_live hobj)]
  simp only [Registry.handlerCalls, hmsg, huser, Option.toList_some, List.map_cons, List.map_nil]
  rfl

/-- The step lemma: a call that leaves the subscription alone adds the calls for its own
message, and no others for messages. -/
theorem deliver_step (hsub : Subscribed p h u r) {c : Call} (hc : Stays p c) :
    Subscribed p h u (r.step c) ∧
      msgCalls (r.step c).appCalls
        = msgCalls r.appCalls ++ (callArrivals c).map (delivered p h u) := by
  -- A call without a message has nothing to add.
  have hquiet : ∀ {calls : List AppCall}, msgCalls calls = msgCalls r.appCalls →
      msgCalls calls = msgCalls r.appCalls ++ [].map (delivered p h u) := by
    intro calls heq
    rw [heq, List.map_nil, List.append_nil]
  cases c with
  | avsSdtCreate mem params => exact hc.elim
  | avsSdtHandlers object handlersIn =>
    exact ⟨hsub.modify_other hc _, hquiet (congrArg msgCalls (modify_appCalls ..))⟩
  | avsSdtUpdateMaskPii object enable =>
    exact ⟨hsub.modify_maskPii object enable, hquiet (congrArg msgCalls (modify_appCalls ..))⟩
  | avsSdtDestroy object =>
    exact ⟨hsub.modify_other hc _, hquiet (congrArg msgCalls (modify_appCalls ..))⟩
  | callback data cb =>
    refine ⟨hsub.call data cb.handler cb.event, hquiet ?_⟩
    show msgCalls (r.call data cb.handler cb.event).appCalls = msgCalls r.appCalls
    cases hobj : r.object data with
    | none => rw [Registry.call_of_none hobj]
    | some found =>
      have hnone := msgCalls_handlerCalls found.1 found.2 (cb.handler found.2.handlers)
        (isMsg_event cb)
      simp only [msgCalls] at hnone
      simp only [Registry.call_of_some hobj, msgCalls, List.filter_append, hnone,
        List.append_nil]
  | avsServerMsg message length =>
    refine ⟨hsub.call r.avsObj (·.msg) (.msg message length), ?_⟩
    have hmessage := hsub.message { message := message, length := length }
    simp only [serverCall] at hmessage
    rw [hmessage, msgCalls, List.filter_append]
    rfl
  | _ => exact ⟨hsub, hquiet rfl⟩

/-- Over any such calls, the subscriber is called once for each message, in order. -/
theorem deliver_run (hsub : Subscribed p h u r) {cs : List Call} (hcs : ∀ c ∈ cs, Stays p c) :
    msgCalls (run Registry.step r cs).appCalls
      = msgCalls r.appCalls ++ (cs.flatMap callArrivals).map (delivered p h u) := by
  induction cs generalizing r with
  | nil => simp
  | cons c cs ih =>
    obtain ⟨hafter, hcalls⟩ := deliver_step hsub (hcs c List.mem_cons_self)
    have hrest := ih hafter fun c' hc' => hcs c' (List.mem_cons_of_mem c hc')
    rw [run_cons, hrest, hcalls, List.flatMap_cons, List.map_append, List.append_assoc]

end

/-! ### The three ways -/

/-- Whether the input manager of an attempt passes directives on: it is registered for messages,
and it has its `VoiceToApps` object. -/
def passesOn (s : System) (attempt : Nat) : Bool :=
  s.attempts[attempt]?.any fun a =>
    decide ({ subject := .message, observer := .thunderInputManager } ∈ a.registrations) &&
      a.manager.any fun manager => manager.vtaFlag ≠ 0

/-- The attempts in `ways` pass directives on, the others do not, and `avs_server_msg` is set for
the messages of the video skill. -/
structure Listening (ways : Nat → Bool) (s : System) : Prop where
  passesOn : ∀ attempt, passesOn s attempt = ways attempt
  vskMsgHandler : s.vskMsgHandler = true

/-- A notification keeps the flag of the input manager. -/
theorem apply_vtaFlag (manager : ThunderInputManager) (e : ManagerEvent) :
    (e.apply manager).vtaFlag = manager.vtaFlag := by
  -- `ioParse` sets the flag in the constructor, and no notification comes back to it.
  cases e with
  | onDialogUXStateChanged newState =>
    simp only [ManagerEvent.apply, ThunderInputManager.onDialogUXStateChanged,
      ThunderInputManager.notifyDialogUXStateChanged]
    split <;> rfl
  | renderTemplateCard jsonPayload =>
    simp only [ManagerEvent.apply, ThunderInputManager.renderTemplateCard]
    split <;> rfl
  | receive message =>
    simp only [ManagerEvent.apply, ThunderInputManager.receive]
    split
    · rfl
    · split <;> rfl
  | _ => rfl

/-- So do any notifications. -/
theorem run_apply_vtaFlag (manager : ThunderInputManager) (es : List ManagerEvent) :
    (run ManagerEvent.apply manager es).vtaFlag = manager.vtaFlag := by
  induction es generalizing manager with
  | nil => rfl
  | cons e es ih => rw [run_cons, ih, apply_vtaFlag]

/-- The messages that a notification passes on are its arrivals. -/
theorem forwarded_eq (s : System) (attempt : Nat) (e : ManagerEvent) :
    ((s.listener attempt e).elim [] fun manager => (e.forwarded manager).toList)
      = arrivals (passesOn s) (.notify attempt e) := by
  cases e with
  | receive message =>
    show _ = if passesOn s attempt && ThunderInputManager.contains message
      ThunderInputManager.speakKey then [_] else []
    unfold System.listener passesOn
    cases s.attempts[attempt]? with
    | none => rfl
    | some a =>
      obtain ⟨registrations, manager⟩ := a
      simp only [Option.bind_some, Option.any_some, Attempt.hears, ManagerEvent.subject]
      by_cases hregistered : ({ subject := .message, observer := .thunderInputManager } :
          Registration) ∈ registrations
      · cases manager with
        | none => simp [hregistered]
        | some manager =>
          -- Without its `VoiceToApps` object it passes nothing on.
          simp only [hregistered, decide_true, if_true, Option.elim_some, Option.any_some,
            Bool.true_and, ManagerEvent.forwarded, ThunderInputManager.receive]
          by_cases hflag : manager.vtaFlag = 0
          · simp [hflag]
          · cases hkey : ThunderInputManager.contains message ThunderInputManager.speakKey <;>
              simp [hflag]
      · simp [hregistered]
  | _ => cases s.listener attempt _ <;> rfl

section
variable {ways : Nat → Bool} {s t : System}

/-- An event that is no attempt leaves the ways as they are. -/
theorem passesOn_step {e : SystemEvent} (hno : ∀ env, e ≠ .init env) (ht : s.step e = .ok t)
    (attempt : Nat) : passesOn t attempt = passesOn s attempt := by
  unfold passesOn
  rw [attempts_step hno ht attempt]
  cases s.attempts[attempt]? with
  | none => rfl
  | some a =>
    simp only [Option.map_some, Option.any_some, Attempt.run_apply_registrations,
      Attempt.run_apply_manager]
    cases a.manager with
    | none => rfl
    | some manager => simp only [Option.map_some, Option.any_some, run_apply_vtaFlag]

/-- No event takes the handler back. -/
theorem vskMsgHandler_step {e : SystemEvent} (h : s.vskMsgHandler = true)
    (ht : s.step e = .ok t) : t.vskMsgHandler = true := by
  have hcall : ∀ {u v : System} {r : Except Fault Process}, u.onProcess r = .ok v →
      v.vskMsgHandler = u.vskMsgHandler := by
    intro u v r hv
    obtain ⟨process, -, rfl⟩ := System.onProcess_ok.mp hv
    rfl
  cases e with
  | call c => exact (hcall ht).trans h
  | init env =>
    obtain ⟨-, rfl⟩ | ⟨p, screen, -, -, rfl⟩ := System.attemptInit_cases ht
    · exact h
    · -- An attempt can only set it.
      rw [System.withAttempt, h]
      rfl
  | notify attempt e =>
    -- A notification may become a message, which is a call into the process.
    obtain ⟨-, rfl⟩ | ⟨manager, -, hrest⟩ := System.notify_cases ht
    · exact h
    · obtain ⟨-, rfl⟩ | ⟨msg, -, hserved⟩ := hrest
      · exact h
      · exact (hcall hserved).trans h
  | vskMsg message length =>
    obtain ⟨-, rfl⟩ | ⟨-, hserved⟩ := System.vskMsg_cases ht
    · exact h
    · exact (hcall hserved).trans h

/-- An ordinary event is no attempt. -/
theorem ordinary_ne_init {p : Ptr} {e : SystemEvent} (he : Ordinary p e) :
    ∀ env, e ≠ .init env := by
  rintro env rfl
  exact he

/-- The step lemma: an ordinary event leaves the ways as they are. -/
theorem listening_step (h : Listening ways s) {p : Ptr} {e : SystemEvent} (he : Ordinary p e)
    (ht : s.step e = .ok t) : Listening ways t where
  passesOn attempt := (passesOn_step (ordinary_ne_init he) ht attempt).trans (h.passesOn attempt)
  vskMsgHandler := vskMsgHandler_step h.vskMsgHandler ht

/-- While the ways are known, the calls that an event makes on the registry do not depend on the
state. -/
theorem served_of_listening (h : Listening ways s) {p : Ptr} {e : SystemEvent}
    (he : Ordinary p e) : served s e = eventCalls ways e := by
  cases e with
  | call c => rfl
  | init env => exact he.elim
  | notify attempt event =>
    have hways : passesOn s = ways := funext h.passesOn
    show served s (.notify attempt event)
      = (arrivals ways (.notify attempt event)).map serverCall
    rw [← hways, ← forwarded_eq, served]
    cases s.listener attempt event <;> rfl
  | vskMsg message length =>
    simp only [served, if_pos h.vskMsgHandler]
    rfl

end

/-- While the ways are known, the system and its registry go side by side. -/
theorem ordinary_simulates (ways : Nat → Bool) (p : Ptr) :
    Simulates System.step (fun r c => (.ok (Registry.step r c) : Except Fault Registry))
      (fun _ e => eventCalls ways e) (fun _ e => Ordinary p e)
      (fun s r => s.process.registry.Identified ∧ Listening ways s ∧ s.process.registry = r) := by
  rintro s r e t ⟨hI, h, rfl⟩ he ht
  rw [tryRun_total]
  refine ⟨_, rfl, identified_system hI ht, listening_step h he ht, ?_⟩
  rw [served_registry hI ht, served_of_listening h he]

/-- The calls of ordinary events leave the subscription alone. -/
theorem stays_of_ordinary (ways : Nat → Bool) {p : Ptr} {e : SystemEvent} (h : Ordinary p e) :
    ∀ c ∈ eventCalls ways e, Stays p c := by
  -- A message changes no object.
  have hmessages : ∀ e', ∀ c ∈ (arrivals ways e').map serverCall, Stays p c := by
    intro e' c hc
    obtain ⟨msg, -, rfl⟩ := List.mem_map.mp hc
    trivial
  cases e with
  | call c =>
    intro c' hc'
    obtain rfl := List.mem_singleton.mp hc'
    cases c' with
    | avsSdtDestroy object =>
      -- An ordinary destroy has a null handle.
      obtain rfl : object = none := h
      exact fun hnone => by cases hnone
    | avsSdtCreate mem params => exact h
    | avsSdtHandlers object handlersIn => exact h
    | _ => trivial
  | init env => exact h.elim
  | notify attempt event => exact hmessages _
  | vskMsg message length => exact hmessages _

/-- The messages of the calls of an event are its arrivals. -/
theorem callArrivals_eventCalls (ways : Nat → Bool) (e : SystemEvent) :
    (eventCalls ways e).flatMap callArrivals = arrivals ways e := by
  have hmessages : ∀ msgs : List ServerMsg,
      (msgs.map serverCall).flatMap callArrivals = msgs := by
    intro msgs
    induction msgs with
    | nil => rfl
    | cons msg msgs ih =>
      rw [List.map_cons, List.flatMap_cons, ih]
      rfl
  cases e with
  | call c => cases c <;> rfl
  | init env => rfl
  | notify attempt event => exact hmessages _
  | vskMsg message length => exact hmessages _

/-- While the ways are known and the object `p` is subscribed, every run of ordinary events calls
the subscriber once for each message, in order, with its bytes and its length, and nobody else
for any message. -/
theorem listening_run {ways : Nat → Bool} {s t : System} {p : Ptr} {h : Handler} {u : Nat}
    {es : List SystemEvent} (hI : s.process.registry.Identified) (hlisten : Listening ways s)
    (hsub : Subscribed p h u s.process.registry) (hes : ∀ e ∈ es, Ordinary p e)
    (ht : tryRun System.step s es = .ok t) :
    msgCalls t.process.appCalls
      = msgCalls s.process.appCalls ++ (es.flatMap (arrivals ways)).map (delivered p h u) := by
  obtain ⟨r, hr, -, -, hregistry⟩ := (ordinary_simulates ways p).tryRun ⟨hI, hlisten, rfl⟩
    (tryEachStep_of_forall_mem hes) ht
  rw [shown_of_ok (eventCalls ways) ht, tryRun_total] at hr
  -- No call of the run touches the subscription, so the law of the registry applies.
  have hstays : ∀ c ∈ es.flatMap (eventCalls ways), Stays p c := by
    intro c hc
    obtain ⟨e, he, hce⟩ := List.mem_flatMap.mp hc
    exact stays_of_ordinary ways (hes e he) c hce
  have hrun := deliver_run hsub hstays
  rw [Except.ok.inj hr, ← hregistry, List.flatMap_assoc] at hrun
  simp only [callArrivals_eventCalls] at hrun
  exact hrun

/-! ### From `Init` on -/

/-- The attempt on the live smart screen succeeds, and it parses the `VoiceToApps` LEDs. -/
structure Listens (s : System) (env : InitEnv) : Prop where
  screen : ∃ p screen, s.liveScreen = some (p, screen) ∧ (init env screen).1 = .ret true
  ioParse : env.ioParse ≠ 0

/-- After such an attempt its input manager passes directives on, and the handler for the video
skill is set. -/
theorem listening_of_init {s t : System} {env : InitEnv} (h : Listens s env)
    (ht : s.step (.init env) = .ok t) :
    passesOn t s.attempts.length = true ∧ Listening (passesOn t) t := by
  obtain ⟨p, screen, hlive, htrue⟩ := h.screen
  obtain ⟨hmade, hhandler⟩ := initWired_made_of_true htrue
  obtain ⟨-, hregs⟩ := initWired_of_true htrue
  obtain ⟨hentry, -⟩ := attempts_of_init hlive ht
  obtain rfl := System.attemptInit_live hlive ht
  refine ⟨?_, fun _ => rfl, ?_⟩
  · -- All registrations have been made, that for the messages among them.
    rw [hmade, hregs] at hentry
    have hflag : (ThunderInputManager.new env.ioParse).vtaFlag ≠ 0 := h.ioParse
    unfold passesOn
    rw [hentry, Option.any_some, Option.any_some]
    simpa [allRegistrations] using hflag
  · rw [System.withAttempt, hhandler]
    exact Bool.or_true _

/-- From any state that the system reaches, a successful attempt of `Init` opens the three
ways: its input manager passes directives on, as those of earlier attempts may. Then, over every
run of ordinary events, the subscriber is called once for each message that comes in on any of
them, in order, with its bytes and its length, and nobody else is called for a message. -/
theorem server_messages (first es : List SystemEvent) (env : InitEnv) (p : Ptr) (h : Handler)
    (u : Nat) {before s t : System}
    (hfirst : tryRun System.step System.init first = .ok before) (hlistens : Listens before env)
    (hinit : before.step (.init env) = .ok s)
    (hsub : Subscribed p h u before.process.registry) (hes : ∀ e ∈ es, Ordinary p e)
    (ht : tryRun System.step s es = .ok t) :
    passesOn s before.attempts.length = true ∧
      msgCalls t.process.appCalls = msgCalls before.process.appCalls
        ++ (es.flatMap (arrivals (passesOn s))).map (delivered p h u) := by
  obtain ⟨hI, -⟩ := shared_run hfirst
  obtain ⟨hopen, hlistening⟩ := listening_of_init hlistens hinit
  -- The attempt itself makes no call on the registry.
  have hregistry : s.process.registry = before.process.registry := served_registry hI hinit
  have hrun := listening_run (identified_system hI hinit) hlistening
    (by rw [hregistry]; exact hsub) hes ht
  have hcalls : s.process.appCalls = before.process.appCalls :=
    congrArg Registry.appCalls hregistry
  exact ⟨hopen, by rw [hrun, hcalls]⟩

/-- A subscriber, with its handler and its user data. -/
def subscription : List SystemEvent :=
  [.call (.avsInitialize 1), .call (.avsSdtCreate (some 5) { maskPii := false, userData := 9 }),
    .call (.avsSdtHandlers (some 5) { msg := some 7 })]

/-- An environment in which nothing is missing, and the LEDs are parsed. -/
def ledsEnv : InitEnv := { fullEnv (smallConfig 1 ['6']) with ioParse := 1 }

/-- A message on each of the three ways, and a directive that is not passed on. -/
def messageSession : List SystemEvent :=
  [.call (.avsServerMsg ['a'] 1), .notify 0 (.receive ['x']),
    .notify 0 (.receive ThunderInputManager.speakKey), .call .voiceStart, .vskMsg ['v'] 1]

/-- The law for that session: three calls of the handler. -/
theorem server_messages_messageSession :
    ∃ t, tryRun System.step System.init (subscription ++ .init ledsEnv :: messageSession) = .ok t ∧
      msgCalls t.process.appCalls
        = [delivered 5 7 9 ⟨['a'], 1⟩,
          delivered 5 7 9 ⟨ThunderInputManager.speakKey, ThunderInputManager.speakKey.length⟩,
          delivered 5 7 9 ⟨['v'], 1⟩] := by
  have hsome : (tryRun System.step System.init
      (subscription ++ .init ledsEnv :: messageSession)).toOption.isSome = true := by
    decide +kernel
  cases hrun : tryRun System.step System.init
      (subscription ++ .init ledsEnv :: messageSession) with
  | error f =>
    rw [hrun] at hsome
    cases hsome
  | ok t =>
    obtain ⟨before, hbefore, hrest⟩ := tryRun_append_ok.mp hrun
    obtain ⟨s, hs, ht⟩ := tryRun_cons_ok.mp hrest
    have hlistens : Listens before ledsEnv := by
      obtain rfl := Except.ok.inj hbefore
      exact ⟨⟨1, .new, rfl, rfl⟩, by decide⟩
    have hsub : Subscribed 5 7 9 before.process.registry := by
      obtain rfl := Except.ok.inj hbefore
      exact ⟨rfl, _, rfl, rfl, rfl⟩
    have hcalls : before.process.appCalls = [] := by
      obtain rfl := Except.ok.inj hbefore
      rfl
    have hordinary : ∀ e ∈ messageSession, Ordinary 5 e := by
      simp [messageSession, Ordinary]
    have hfirst : before.attempts.length = 0 := by
      obtain rfl := Except.ok.inj hbefore
      rfl
    obtain ⟨hopen, hlaw⟩ := server_messages subscription messageSession _ 5 7 9 hbefore hlistens hs
      hsub hordinary ht
    rw [hfirst] at hopen
    -- The only attempt passes directives on.
    have harrivals : messageSession.flatMap (arrivals (passesOn s))
        = messageSession.flatMap (arrivals fun _ => true) := by
      simp [messageSession, arrivals, hopen]
    rw [hcalls, harrivals] at hlaw
    exact ⟨t, rfl, hlaw.trans (by decide +kernel)⟩

end XrSpeechAvs.Proofs
