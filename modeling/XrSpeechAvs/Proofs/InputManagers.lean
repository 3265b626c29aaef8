import XrSpeechAvs.Lib.Simulation
import XrSpeechAvs.Proofs.InitFlag
import XrSpeechAvs.Proofs.VoicePart

/-!
# `XrSpeechAvs.Proofs.InputManagers`: the input managers of all attempts

Every attempt of `Init` that comes to the constructor makes an input manager. The constructor
sets `avs_server_msg` as the handler of the messages of the video skill (`Settled`), and an
attempt that returns true has come there (`initWired_made_of_true`).

Nothing unregisters an observer. So an input manager goes on after a later attempt, and after
the deletion of the smart screen. `attempt_step` says what every event makes of an attempt: it
has its registrations for good, and its input manager handles the notifications of its own
objects that it hears. `attempt_run` is this over whole runs, in closed form.

`m_thunderInputManager` shares the input manager of the last attempt that has made one
(`SharedManager`), and `shared_step` says that every event of the system preserves this.
`manager_hears` puts both together.
-/

set_option autoImplicit false

namespace XrSpeechAvs

open XrSpeechAvs.Impl
open XrSpeechAvs.Lib

/-- What a notification of its objects makes of an attempt. -/
def Attempt.apply (a : Attempt) (e : ManagerEvent) : Attempt :=
  if a.hears e then { a with manager := a.manager.map fun manager => e.apply manager } else a

/-- Over any notifications, the input manager of an attempt handles those that it hears. -/
theorem Attempt.run_apply_manager (a : Attempt) (es : List ManagerEvent) :
    (run Attempt.apply a es).manager
        = a.manager.map fun manager => run ManagerEvent.apply manager (es.filter a.hears) := by
  induction es generalizing a with
  | nil => exact (congrFun Option.map_id _).symm
  | cons e es ih =>
    rw [run_cons, ih, Attempt.apply]
    cases hears : a.hears e with
    | true =>
      -- The registrations stay, so the rest is heard as before.
      rw [if_pos rfl, Option.map_map, List.filter_cons_of_pos hears]
      rfl
    | false => rw [if_neg Bool.false_ne_true, List.filter_cons_of_neg (by simp [hears])]

/-- The registrations of an attempt are there for good. -/
theorem Attempt.run_apply_registrations (a : Attempt) (es : List ManagerEvent) :
    (run Attempt.apply a es).registrations = a.registrations := by
  induction es generalizing a with
  | nil => rfl
  | cons e es ih =>
    rw [run_cons, ih, Attempt.apply]
    split <;> rfl

namespace Proofs

/-! ### One attempt -/

/-- What an attempt leaves of the input manager, when it has found `before`: it has not come to
the constructor, and no input manager is registered; or it has made a new one, and the handler
is set. -/
inductive Settled (env : InitEnv) (before : Option ThunderInputManager) (w : Wired) : Prop where
  | untouched (manager : w.screen.thunderInputManager = before)
      (handler : w.vskMsgHandler = false)
      (registrations : ∀ r ∈ w.registrations, r.observer ≠ .thunderInputManager)
  | made (manager : w.screen.thunderInputManager = some (.new env.ioParse))
      (handler : w.vskMsgHandler = true)

/-- The input manager, and whether the handler is set. -/
def handling (w : Wired) : Option ThunderInputManager × Bool :=
  (w.screen.thunderInputManager, w.vskMsgHandler)

/-- Code on the members that keeps the input manager. -/
theorem onScreen_handling {α : Type} {m : InitM α}
    (h : Keeps SmartScreen.thunderInputManager m) : Keeps handling (onScreen m) := by
  intro w
  exact Prod.ext (h w.screen) rfl

/-- A registration. -/
theorem register_handling (subject : Subject) (observer : Observer) :
    Keeps handling (register subject observer) := fun _ => rfl

/-- The input manager is one of the late members. -/
theorem inputManager_of_late {α : Type} {m : InitM α} (h : Keeps late m) :
    Keeps SmartScreen.thunderInputManager m := h.comp LateMembers.thunderInputManager

section
variable {env : InitEnv} {before : Option ThunderInputManager} {w : Wired}

/-- Only the input manager, the handler and the registrations matter. -/
theorem Settled.of_handling {after : Wired} (h : Settled env before w)
    (hkeep : handling after = handling w) (hregs : after.registrations = w.registrations) :
    Settled env before after := by
  have hmanager : after.screen.thunderInputManager = w.screen.thunderInputManager :=
    congrArg Prod.fst hkeep
  have hset : after.vskMsgHandler = w.vskMsgHandler := congrArg Prod.snd hkeep
  cases h with
  | untouched manager handler registrations =>
    exact .untouched (hmanager.trans manager) (hset.trans handler) (hregs ▸ registrations)
  | made manager handler => exact .made (hmanager.trans manager) (hset.trans handler)

/-- Code on the members that keeps the input manager registers nothing. -/
theorem onScreen_settled {α : Type} {m : InitM α}
    (h : Keeps SmartScreen.thunderInputManager m) :
    Preserves (Settled env before) (onScreen m) := by
  intro w hw
  exact hw.of_handling (onScreen_handling h w) rfl

/-- A registration of another observer. -/
theorem register_settled {subject : Subject} {observer : Observer}
    (hother : observer ≠ .thunderInputManager) :
    Preserves (Settled env before) (register subject observer) := by
  intro w hw
  cases hw with
  | untouched manager handler registrations =>
    refine .untouched manager handler fun r hr => ?_
    obtain hold | hnew := List.mem_append.mp hr
    · exact registrations r hold
    · rw [List.mem_singleton.mp hnew]
      exact hother
  | made manager handler => exact .made manager handler

/-- The part up to the capabilities delegate makes no input manager and registers none. -/
theorem wireGui_settled (env : InitEnv) (before : Option ThunderInputManager)
    (appConfig : AppConfig) : Preserves (Settled env before) (wireGui env appConfig) := by
  unfold wireGui
  refine Preserves.bind (onScreen_settled (Keeps.returnUnless _ _)) fun _ => ?_
  refine Preserves.bind (onScreen_settled (Keeps.returnUnless _ _)) fun _ => ?_
  refine Preserves.bind (onScreen_settled fun _ => rfl) fun _ => ?_
  refine Preserves.bind (onScreen_settled (Keeps.returnUnless _ _)) fun _ => ?_
  refine Preserves.bind (onScreen_settled (Keeps.need _ _)) fun _ => ?_
  refine Preserves.bind (onScreen_settled (Keeps.need _ _)) fun _ => ?_
  refine Preserves.bind (onScreen_settled fun _ => rfl) fun _ => ?_
  refine Preserves.bind (onScreen_settled (Keeps.returnUnless _ _)) fun _ => ?_
  -- The observers that are registered here are other ones.
  refine Preserves.bind (register_settled (by decide)) fun _ => ?_
  refine Preserves.bind (onScreen_settled (Keeps.returnUnless _ _)) fun _ => ?_
  refine Preserves.bind (onScreen_settled fun _ => rfl) fun _ => ?_
  refine Preserves.bind (onScreen_settled (Keeps.orReturn _ _)) fun _ => ?_
  refine Preserves.bind (onScreen_settled fun _ => rfl) fun _ => ?_
  exact Preserves.bind (register_settled (by decide)) fun _ => register_settled (by decide)

/-- `wireClient` behind the constructor of the input manager. -/
def wireManager (env : InitEnv) : WiredM Unit := do
  onScreen <| Script.withState fun s => Script.returnUnless s.thunderInputManager.isSome false
  register .delAuth .guiClient
  onScreen <| Script.need env.registrationManager.isSome .nullDereference
  register .registrationManager .guiClient
  register .capabilitiesDelegate .guiClient
  register .doNotDisturbSetting .guiClient
  onScreen <| Script.returnUnless env.guiClientStarts false
  register .delAuth .thunderInputManager
  onScreen <| Script.need env.registrationManagerAgain.isSome .nullDereference
  register .registrationManager .thunderInputManager
  register .message .thunderInputManager
  register .alexaDialogState .thunderInputManager
  register .audioPlayer .thunderInputManager
  onScreen <| Script.modify fun s => { s with
    vta := s.vta.call (.handleSDKStateChangeNotification .VTA_INIT true false) }

/-- Behind the constructor, the input manager and the handler stay. -/
theorem wireManager_handling (env : InitEnv) : Keeps handling (wireManager env) := by
  unfold wireManager
  simp only [onScreen_returnUnless, onScreen_need]
  refine Keeps.bind (onScreen_handling (Keeps.withState fun _ => Keeps.returnUnless _ _))
    fun _ => ?_
  refine Keeps.bind (register_handling _ _) fun _ => Keeps.bind (Keeps.need _ _) fun _ => ?_
  iterate 3 refine Keeps.bind (register_handling _ _) fun _ => ?_
  refine Keeps.bind (Keeps.returnUnless _ _) fun _ => ?_
  refine Keeps.bind (register_handling _ _) fun _ => Keeps.bind (Keeps.need _ _) fun _ => ?_
  iterate 4 refine Keeps.bind (register_handling _ _) fun _ => ?_
  exact onScreen_handling fun _ => rfl

/-- The constructor, and what stands behind it. -/
def makeManager (env : InitEnv) : WiredM Unit := do
  setVskMsgHandler
  onScreen <| Script.modify fun s => { s with
    thunderInputManager := ThunderInputManager.create s.guiManager env.ioParse }
  wireManager env

/-- With a `GUIManager`, `create` makes a new input manager, and its constructor sets the
handler. -/
theorem makeManager_settled {guiManager : Obj} (h : w.screen.guiManager = some guiManager) :
    Settled env before (makeManager env w).2 := by
  have hkeep : handling (makeManager env w).2
      = (ThunderInputManager.create w.screen.guiManager env.ioParse,
        w.vskMsgHandler || w.screen.guiManager.isSome) := wireManager_handling env _
  rw [h] at hkeep
  refine .made (congrArg Prod.fst hkeep) ?_
  exact (congrArg Prod.snd hkeep).trans (Bool.or_true _)

/-- The part from the client on makes an input manager, or it leaves before the constructor. -/
theorem wireClient_settled (env : InitEnv) (before : Option ThunderInputManager) :
    Preserves (Settled env before) (wireClient env) := by
  unfold wireClient
  refine Preserves.bind (onScreen_settled (Keeps.returnUnless _ _)) fun _ => ?_
  iterate 10 refine Preserves.bind (register_settled (by decide)) fun _ => ?_
  intro w hw
  cases hgui : w.screen.guiManager with
  | none =>
    -- The attempt dereferences the null pointer before it comes to the constructor.
    have hfault : (onScreen (Script.withState fun s =>
        Script.need s.guiManager.isSome .nullDereference) w) = (.fault .nullDereference, w) := by
      rw [onScreen_withState, Script.withState, hgui]
      rfl
    rw [Script.bind_of_fault _ (congrArg Prod.fst hfault), hfault]
    exact hw
  | some guiManager =>
    have hnext : (onScreen (Script.withState fun s =>
        Script.need s.guiManager.isSome .nullDereference) w) = (.next (), w) := by
      rw [onScreen_withState, Script.withState, hgui]
      rfl
    rw [Script.bind_of_next _ (congrArg Prod.fst hnext), hnext]
    -- The shutdown manager is tested before the constructor.
    cases hshutdown : env.shutdownManager.isSome with
    | false => exact hw.of_handling rfl rfl
    | true => exact makeManager_settled hgui

end

/-- However an attempt of `Init` leaves, it leaves the input manager settled. -/
theorem initWired_settled (env : InitEnv) (screen : SmartScreen) :
    Settled env screen.thunderInputManager (initWired env (.entering screen)).2 := by
  have hpreserves : Preserves (Settled env screen.thunderInputManager) (initWired env) := by
    unfold initWired
    refine Preserves.bind (onScreen_settled
      (inputManager_of_late (initConfig_keeps env))) fun _ => ?_
    refine Preserves.bind (onScreen_settled (Keeps.orReturn _ _)) fun appConfig => ?_
    refine Preserves.bind (onScreen_settled
      (inputManager_of_late (initPlayers_keeps env _))) fun _ => ?_
    refine Preserves.bind (wireGui_settled env _ appConfig) fun _ => ?_
    refine Preserves.bind (onScreen_settled
      (inputManager_of_late (initNetwork_keeps env))) fun _ => ?_
    refine Preserves.bind (onScreen_settled
      ((initVoice_besideVoice env).comp Prod.snd)) fun _ => ?_
    refine Preserves.bind (wireClient_settled env _) fun _ => ?_
    exact fun w hw => hw
  -- At the entry nothing is registered, and the handler is not set by this attempt.
  refine hpreserves _ (.untouched rfl rfl fun r hr => ?_)
  cases hr

/-- An attempt that returns true has come to the constructor. -/
theorem initWired_made_of_true {env : InitEnv} {screen : SmartScreen}
    (h : (init env screen).1 = .ret true) :
    (initWired env (.entering screen)).2.made = some (.new env.ioParse) ∧
      (initWired env (.entering screen)).2.vskMsgHandler = true := by
  obtain ⟨hmanager, hregs⟩ := initWired_of_true h
  cases initWired_settled env screen with
  | untouched manager handler registrations =>
    -- All registrations have been made, those of the input manager among them.
    rw [hregs] at registrations
    exact absurd rfl (registrations ⟨.message, .thunderInputManager⟩ (by decide))
  | made manager handler =>
    refine ⟨?_, handler⟩
    rw [Wired.made, if_pos handler]
    exact manager

/-! ### Every attempt -/

/-- The notifications that the objects of an attempt make. -/
def notifications (attempt : Nat) : SystemEvent → List ManagerEvent
  | .notify other e => if other = attempt then [e] else []
  | _ => []

section
variable {s t : System} {i : Nat} {a : Attempt}

/-- A call changes no attempt. -/
theorem onProcess_attempts {r : Except Fault Process} (ht : s.onProcess r = .ok t) :
    t.attempts = s.attempts := by
  obtain ⟨process, -, rfl⟩ := System.onProcess_ok.mp ht
  rfl

/-- A message of the video skill neither. -/
theorem vskMsg_attempts {message : Text} {length : Nat}
    (ht : s.vskMsg message length = .ok t) : t.attempts = s.attempts := by
  obtain ⟨-, rfl⟩ | ⟨-, hserved⟩ := System.vskMsg_cases ht
  · rfl
  · exact onProcess_attempts hserved

/-- What a notification makes of its attempt, by the input manager that it reaches. -/
theorem apply_of_listener (ha : s.attempts[i]? = some a) (e : ManagerEvent) :
    a.apply e = match s.listener i e with
      | none => a
      | some manager => { a with manager := some (e.apply manager) } := by
  unfold System.listener Attempt.apply
  rw [ha, Option.bind_some]
  obtain ⟨registrations, manager⟩ := a
  cases Attempt.hears _ e with
  | false => rfl
  | true => cases manager <;> rfl

/-- A notification changes its own attempt only. -/
theorem notify_attempts {j : Nat} {e : ManagerEvent} (ht : s.notify j e = .ok t) (i : Nat) :
    t.attempts[i]? = s.attempts[i]?.map fun a => if j = i then a.apply e else a := by
  obtain ⟨hnone, rfl⟩ | ⟨manager, hlistener, hrest⟩ := System.notify_cases ht
  · cases ha : t.attempts[i]? with
    | none => rfl
    | some a =>
      rw [Option.map_some]
      split
      · next heq => rw [apply_of_listener ha e, ← heq, hnone]
      · rfl
  · -- A message that is passed on changes no attempt.
    have hattempts : t.attempts = (s.withManager j (e.apply manager)).attempts := by
      obtain ⟨-, rfl⟩ | ⟨msg, -, hserved⟩ := hrest
      · rfl
      · exact onProcess_attempts hserved
    rw [hattempts, System.withManager, List.getElem?_modify]
    cases ha : s.attempts[i]? with
    | none => rfl
    | some a =>
      rw [Option.map_eq_map, Option.map_some, Option.map_some]
      split
      · next heq => rw [apply_of_listener ha e, ← heq, hlistener]
      · rfl

/-- The step lemma for the events that are no attempt: they make of every attempt what the
notifications of its objects make of it, and no new one. -/
theorem attempts_step {e : SystemEvent} (hno : ∀ env, e ≠ .init env) (ht : s.step e = .ok t)
    (i : Nat) :
    t.attempts[i]? = s.attempts[i]?.map fun a => run Attempt.apply a (notifications i e) := by
  -- Without a notification an attempt stays as it is.
  have hkeep : t.attempts = s.attempts →
      t.attempts[i]? = s.attempts[i]?.map fun a => run Attempt.apply a [] := by
    intro heq
    rw [heq]
    exact (congrFun Option.map_id _).symm
  cases e with
  | call c => exact hkeep (onProcess_attempts ht)
  | init env => exact absurd rfl (hno env)
  | notify j e =>
    rw [notify_attempts ht i]
    by_cases hj : j = i
    · simp only [notifications, if_pos hj]
      rfl
    · simp only [notifications, if_neg hj]
      rfl
  | vskMsg message length => exact hkeep (vskMsg_attempts ht)

/-- The step lemma: an event makes of an attempt what the notifications of its objects make of
it. -/
theorem attempt_step {e : SystemEvent} (ha : s.attempts[i]? = some a) (ht : s.step e = .ok t) :
    t.attempts[i]? = some (run Attempt.apply a (notifications i e)) := by
  by_cases hinit : ∃ env, e = .init env
  · obtain ⟨env, rfl⟩ := hinit
    obtain ⟨-, rfl⟩ | ⟨p, screen, -, -, rfl⟩ := System.attemptInit_cases ht
    · exact ha
    · -- The new attempt comes behind the others.
      obtain ⟨hlt, -⟩ := List.getElem?_eq_some_iff.mp ha
      exact (List.getElem?_append_left hlt).trans ha
  · rw [attempts_step (fun env heq => hinit ⟨env, heq⟩) ht, ha, Option.map_some]

/-- Every run makes of an attempt what the notifications of its objects make of it, whatever else
happens: other attempts, calls, and the deletion of the smart screen. -/
theorem attempt_run {es : List SystemEvent} (ha : s.attempts[i]? = some a)
    (ht : tryRun System.step s es = .ok t) :
    t.attempts[i]? = some (run Attempt.apply a (es.flatMap (notifications i))) := by
  have hsimulates : Simulates System.step
      (fun a e => (.ok (Attempt.apply a e) : Except Fault Attempt))
      (fun _ e => notifications i e) (fun _ _ => True)
      (fun s a => s.attempts[i]? = some a) := by
    intro s a e t ha _ ht
    rw [tryRun_total]
    exact ⟨_, rfl, attempt_step ha ht⟩
  obtain ⟨b, hb, hattempt⟩ := hsimulates.tryRun ha
    (tryEachStep_of_forall_mem fun _ _ => trivial) ht
  rw [shown_of_ok (notifications i) ht, tryRun_total] at hb
  rw [hattempt, ← Except.ok.inj hb]

/-- The same for the input manager of the attempt. -/
theorem manager_run {es : List SystemEvent} (ha : s.attempts[i]? = some a)
    (ht : tryRun System.step s es = .ok t) :
    t.manager i = a.manager.map fun manager =>
      run ManagerEvent.apply manager ((es.flatMap (notifications i)).filter a.hears) := by
  unfold System.manager
  rw [attempt_run ha ht, Option.bind_some, Attempt.run_apply_manager]

end

/-! ### The smart screen -/

/-- The last attempt that has made an input manager. -/
def LastMade (s : System) (i : Nat) : Prop :=
  (s.manager i).isSome = true ∧ ∀ j, (s.manager j).isSome = true → j ≤ i

/-- The live smart screen shares the input manager of the current attempt, and the current attempt
is the last one that has made an input manager. Before there is a smart screen, there is no
attempt. -/
structure SharedManager (s : System) : Prop where
  unborn : s.process.avsSmartScreen = none → s.attempts = []
  current : ∀ i, s.current = some i ↔ LastMade s i
  member : ∀ p screen, s.liveScreen = some (p, screen) →
    screen.thunderInputManager = s.current.bind s.manager

section
variable {s t : System}

/-- Without an attempt there is no current one. -/
theorem SharedManager.current_of_unborn (h : SharedManager s)
    (hnone : s.process.avsSmartScreen = none) : s.current = none := by
  cases hcurrent : s.current with
  | none => rfl
  | some i =>
    have hmade := ((h.current i).mp hcurrent).1
    simp [System.manager, h.unborn hnone] at hmade

/-- An input manager belongs to an attempt. -/
theorem lt_of_manager {j : Nat} (h : (s.manager j).isSome = true) : j < s.attempts.length := by
  by_contra hge
  rw [System.manager, List.getElem?_eq_none (Nat.le_of_not_lt hge)] at h
  cases h

/-- The input managers after an attempt. -/
theorem manager_withAttempt (s : System) (p : Ptr) (w : Wired) (j : Nat) :
    (s.withAttempt p w).manager j = if j = s.attempts.length then w.made else s.manager j := by
  have hattempts : (s.withAttempt p w).attempts
      = s.attempts ++ [Attempt.mk w.registrations w.made] := rfl
  unfold System.manager
  rw [hattempts]
  by_cases hj : j = s.attempts.length
  · simp [hj]
  · rw [if_neg hj]
    obtain hlt | hgt := Nat.lt_or_gt_of_ne hj
    · rw [List.getElem?_append_left hlt]
    · -- There is no such attempt, neither before nor after.
      have hlength : (s.attempts ++ [Attempt.mk w.registrations w.made]).length ≤ j := by
        rw [List.length_append]
        exact hgt
      rw [List.getElem?_eq_none (Nat.le_of_lt hgt), List.getElem?_eq_none hlength]

/-- The input managers after one has been replaced. -/
theorem manager_withManager {i : Nat} {a : Attempt} (ha : s.attempts[i]? = some a)
    (manager : ThunderInputManager) (j : Nat) :
    (s.withManager i manager).manager j = if i = j then some manager else s.manager j := by
  unfold System.manager System.withManager
  simp only [List.getElem?_modify]
  by_cases hj : i = j
  · subst hj
    simp [ha]
  · simp [hj]

/-- An event that keeps the attempts, and after which a live smart screen is a new one or has the
input manager of the one before. -/
theorem SharedManager.of_attempts (h : SharedManager s) (hattempts : t.attempts = s.attempts)
    (hcurrent : t.current = s.current)
    (hglobal : t.process.avsSmartScreen = none → s.process.avsSmartScreen = none)
    (hlive : ∀ p after, t.liveScreen = some (p, after) →
      (s.process.avsSmartScreen = none ∧ after.thunderInputManager = none) ∨
      ∃ screen, s.liveScreen = some (p, screen) ∧
        after.thunderInputManager = screen.thunderInputManager) : SharedManager t := by
  have hmanager : t.manager = s.manager := by
    unfold System.manager
    rw [hattempts]
  refine ⟨fun hnone => hattempts.trans (h.unborn (hglobal hnone)), ?_, fun p after hafter => ?_⟩
  · unfold LastMade
    rw [hcurrent, hmanager]
    exact h.current
  · rw [hcurrent, hmanager]
    -- A new smart screen has no input manager, as no attempt has been made yet.
    obtain ⟨hnone, hnew⟩ | ⟨screen, hscreen, hkeep⟩ := hlive p after hafter
    · rw [hnew, h.current_of_unborn hnone]
      rfl
    · exact hkeep.trans (h.member p screen hscreen)

/-- A server message touches no smart screen. -/
theorem SharedManager.serverMsg (h : SharedManager s) (hI : s.process.registry.Identified)
    {message : Text} {length : Nat}
    (ht : s.onProcess (s.process.avsServerMsg message length) = .ok t) : SharedManager t := by
  obtain ⟨process, hserver, rfl⟩ := System.onProcess_ok.mp ht
  have hvoice := avsServerMsg_voicePart hI hserver
  refine h.of_attempts rfl rfl (fun hnone => ?_) fun p after hafter => ?_
  · exact (congrArg VoicePart.avsSmartScreen hvoice).symm.trans hnone
  · rw [liveScreen_of_voicePart (s := s) hvoice] at hafter
    exact Or.inr ⟨after, hafter, rfl⟩

/-- A call may make a new smart screen, and it may delete the live one. -/
theorem SharedManager.call (h : SharedManager s) (hI : s.process.registry.Identified) {c : Call}
    (ht : s.step (.call c) = .ok t) : SharedManager t := by
  have hop := call_voicePart hI ht
  obtain ⟨process, -, rfl⟩ := System.onProcess_ok.mp ht
  refine h.of_attempts rfl rfl (fun hnone => ?_) fun p after hafter => ?_
  · -- No operation takes the global back.
    obtain ⟨hglobal, -⟩ | ⟨hunborn, -⟩ | ⟨q, found, hq, hbecomes⟩ := screens_cases hop
    · exact hglobal.symm.trans hnone
    · exact hunborn
    · exact hbecomes.avsSmartScreen.symm.trans hnone
  · obtain ⟨hp, hscreen⟩ := System.liveScreen_eq_some.mp hafter
    refine (live_of_step hop hp hscreen).imp_right fun ⟨screen, hq, hfound, hkeep⟩ => ?_
    exact ⟨screen, System.liveScreen_eq_some.mpr ⟨hq, hfound⟩, hkeep⟩

/-- An attempt leaves `m_thunderInputManager` alone and makes none, or it has made the one that is
there now. -/
theorem SharedManager.withAttempt (h : SharedManager s) {p : Ptr} {screen : SmartScreen}
    {env : InitEnv} {w : Wired} (hlive : s.liveScreen = some (p, screen))
    (hw : Settled env screen.thunderInputManager w) : SharedManager (s.withAttempt p w) := by
  have hborn : (s.withAttempt p w).process.avsSmartScreen ≠ none := by
    simp [System.withAttempt, (System.liveScreen_eq_some.mp hlive).1]
  have hafter := System.liveScreen_withAttempt hlive w
  -- The new attempt comes behind the others.
  have hbehind : s.manager s.attempts.length = none := by simp [System.manager]
  cases hw with
  | untouched manager handler registrations =>
    have hcurrent : (s.withAttempt p w).current = s.current :=
      if_neg (by rw [handler]; exact Bool.false_ne_true)
    have hmanager : (s.withAttempt p w).manager = s.manager := by
      funext j
      have hmade : w.made = none := if_neg (by rw [handler]; exact Bool.false_ne_true)
      rw [manager_withAttempt, hmade]
      split
      · next hj => rw [hj, hbehind]
      · rfl
    refine ⟨fun hnone => absurd hnone hborn, ?_, fun q found hfound => ?_⟩
    · unfold LastMade
      rw [hcurrent, hmanager]
      exact h.current
    · obtain ⟨rfl, rfl⟩ := Prod.mk.inj (Option.some.inj (hafter.symm.trans hfound))
      rw [hcurrent, hmanager, manager]
      exact h.member p screen hlive
  | made manager handler =>
    have hcurrent : (s.withAttempt p w).current = some s.attempts.length := if_pos handler
    have hnew : (s.withAttempt p w).manager s.attempts.length = some (.new env.ioParse) := by
      rw [manager_withAttempt, if_pos rfl, Wired.made, if_pos handler]
      exact manager
    have hlast : LastMade (s.withAttempt p w) s.attempts.length := by
      refine ⟨by rw [hnew]; rfl, fun j hj => ?_⟩
      have hlt := lt_of_manager hj
      rw [show (s.withAttempt p w).attempts.length = s.attempts.length + 1 from
        List.length_append] at hlt
      exact Nat.le_of_lt_succ hlt
    refine ⟨fun hnone => absurd hnone hborn, fun i => ?_, fun q found hfound => ?_⟩
    · rw [hcurrent, Option.some.injEq]
      exact ⟨fun heq => heq ▸ hlast, fun hi => Nat.le_antisymm (hi.2 _ hlast.1) (hlast.2 _ hi.1)⟩
    · obtain ⟨rfl, rfl⟩ := Prod.mk.inj (Option.some.inj (hafter.symm.trans hfound))
      rw [hcurrent, manager, Option.bind_some, hnew]

/-- A replaced input manager is shared as before. -/
theorem SharedManager.withManager (h : SharedManager s) {i : Nat} {a : Attempt}
    (ha : s.attempts[i]? = some a) (hmade : a.manager.isSome = true)
    (manager : ThunderInputManager) : SharedManager (s.withManager i manager) := by
  have hmanager := manager_withManager ha manager
  have hold : (s.manager i).isSome = true := by
    rw [System.manager, ha]
    exact hmade
  -- The attempts with an input manager are the same.
  have hsome : ∀ j, ((s.withManager i manager).manager j).isSome = (s.manager j).isSome := by
    intro j
    rw [hmanager]
    split
    · next hj => rw [← hj, hold]; rfl
    · rfl
  have hcurrent : (s.withManager i manager).current = s.current := rfl
  refine ⟨fun hnone => ?_, fun j => ?_, fun q found hfound => ?_⟩
  · -- There is an attempt, so there is a smart screen.
    obtain ⟨hkeep, -⟩ | ⟨-, p, screen, hlive, hreplaced⟩ := s.withManager_process i manager
    · rw [hkeep] at hnone
      rw [h.unborn hnone] at ha
      cases ha
    · rw [hreplaced] at hnone
      exact absurd hnone (by simp [(System.liveScreen_eq_some.mp hlive).1])
  · unfold LastMade
    simp only [hsome]
    exact h.current j
  · rw [hcurrent]
    obtain ⟨hkeep, hother⟩ | ⟨hmine, p, screen, hlive, hreplaced⟩ :=
      s.withManager_process i manager
    · -- The smart screen shares another one.
      have hfound : s.liveScreen = some (q, found) := by
        rw [System.liveScreen, hkeep] at hfound
        exact hfound
      have hne : s.current ≠ some i := by
        intro hmine
        rw [hother hmine] at hfound
        cases hfound
      rw [h.member q found hfound]
      cases hnow : s.current with
      | none => rfl
      | some j =>
        have hij : i ≠ j := fun heq => hne (by rw [hnow, heq])
        rw [Option.bind_some, Option.bind_some, hmanager, if_neg hij]
    · have hafter : (s.withManager i manager).liveScreen
          = some (p, { screen with thunderInputManager := some manager }) := by
        refine System.liveScreen_eq_some.mpr ⟨?_, ?_⟩
        · rw [hreplaced]
          exact (System.liveScreen_eq_some.mp hlive).1
        · rw [hreplaced]
          exact Function.update_self ..
      obtain ⟨rfl, rfl⟩ := Prod.mk.inj (Option.some.inj (hafter.symm.trans hfound))
      rw [hmine, Option.bind_some, hmanager, if_pos rfl]

/-- Every event of the system preserves the sharing. -/
theorem shared_step {e : SystemEvent} (hI : s.process.registry.Identified) (h : SharedManager s)
    (ht : s.step e = .ok t) : SharedManager t := by
  cases e with
  | call c => exact h.call hI ht
  | init env =>
    obtain ⟨-, rfl⟩ | ⟨p, screen, hp, hscreen, rfl⟩ := System.attemptInit_cases ht
    · exact h
    · exact h.withAttempt (System.liveScreen_eq_some.mpr ⟨hp, hscreen⟩)
        (initWired_settled env screen)
  | notify i e =>
    obtain ⟨-, rfl⟩ | ⟨manager, hlistener, hrest⟩ := System.notify_cases ht
    · exact h
    · obtain ⟨a, ha, -, hmade⟩ := System.listener_eq_some.mp hlistener
      -- The notification is handled first, and then the message is passed on.
      have hreplaced := h.withManager ha (by rw [hmade]; rfl) (e.apply manager)
      obtain ⟨-, rfl⟩ | ⟨msg, -, hserved⟩ := hrest
      · exact hreplaced
      · exact hreplaced.serverMsg (by rw [withManager_registry]; exact hI) hserved
  | vskMsg message length =>
    obtain ⟨-, rfl⟩ | ⟨-, hserved⟩ := System.vskMsg_cases ht
    · exact h
    · exact h.serverMsg hI hserved

end

/-- Before the first call there is nothing to share. -/
theorem shared_init : SharedManager System.init where
  unborn := fun _ => rfl
  current := by
    intro i
    constructor
    · intro h
      cases h
    · intro h
      cases h.1
  member := by
    intro p screen h
    cases h

/-- The states that the system reaches. -/
theorem shared_run {es : List SystemEvent} {t : System}
    (ht : tryRun System.step System.init es = .ok t) :
    t.process.registry.Identified ∧ SharedManager t :=
  tryRun_invariant (I := fun s => s.process.registry.Identified ∧ SharedManager s)
    (fun _ _ _ h hs => ⟨identified_system h.1 hs, shared_step h.1 h.2 hs⟩)
    ⟨Process.identified_init, shared_init⟩ ht

/-! ### From `Init` on -/

/-- The attempt on the live smart screen has made its entry, behind those of earlier attempts. -/
theorem attempts_of_init {s t : System} {env : InitEnv} {p : Ptr} {screen : SmartScreen}
    (hlive : s.liveScreen = some (p, screen)) (ht : s.step (.init env) = .ok t) :
    t.attempts[s.attempts.length]? = some
        { registrations := (initWired env (.entering screen)).2.registrations
          manager := (initWired env (.entering screen)).2.made } ∧
      ∀ (i : Nat) (a : Attempt), s.attempts[i]? = some a → t.attempts[i]? = some a := by
  constructor
  · obtain rfl := System.attemptInit_live hlive ht
    exact List.getElem?_concat_length ..
  · intro i a ha
    exact attempt_step ha ht

/-- When the input manager is registered with no object of an attempt, none of them reaches it,
whatever happens. -/
theorem listener_of_unregistered {s t : System} {i : Nat} {a : Attempt} {es : List SystemEvent}
    (ha : s.attempts[i]? = some a)
    (hnone : ∀ r ∈ a.registrations, r.observer ≠ .thunderInputManager)
    (ht : tryRun System.step s es = .ok t) (e : ManagerEvent) : t.listener i e = none := by
  have hlater := attempt_run ha ht
  -- The registrations are those of the attempt for good.
  have hregs := a.run_apply_registrations (es.flatMap (notifications i))
  have hnot : ¬ ({ subject := e.subject, observer := .thunderInputManager } : Registration)
      ∈ (run Attempt.apply a (es.flatMap (notifications i))).registrations := by
    rw [hregs]
    exact fun hmem => hnone _ hmem rfl
  rw [System.listener, hlater, Option.bind_some, Attempt.hears, decide_eq_false hnot]
  rfl

/-- After an attempt that returned true, its input manager has handled the notifications that it
hears. -/
theorem manager_run_of_true {s t u : System} {env : InitEnv} {p : Ptr} {screen : SmartScreen}
    {es : List SystemEvent} (hlive : s.liveScreen = some (p, screen))
    (htrue : (init env screen).1 = .ret true) (ht : s.step (.init env) = .ok t)
    (hu : tryRun System.step t es = .ok u) :
    u.manager s.attempts.length = some (run ManagerEvent.apply (.new env.ioParse)
      ((es.flatMap (notifications s.attempts.length)).filter heard)) := by
  obtain ⟨hnew, -⟩ := attempts_of_init hlive ht
  obtain ⟨hmade, -⟩ := initWired_made_of_true htrue
  obtain ⟨-, hregs⟩ := initWired_of_true htrue
  rw [hregs, hmade] at hnew
  exact manager_run hnew hu

/-- The states that the system reaches behind an attempt. -/
theorem shared_of_attempt {first es : List SystemEvent} {env : InitEnv} {before s t : System}
    (hfirst : tryRun System.step System.init first = .ok before)
    (hinit : before.step (.init env) = .ok s) (ht : tryRun System.step s es = .ok t) :
    SharedManager t := by
  have hwhole : tryRun System.step System.init (first ++ .init env :: es) = .ok t :=
    tryRun_append_ok.mpr ⟨before, hfirst, tryRun_cons_ok.mpr ⟨s, hinit, ht⟩⟩
  exact (shared_run hwhole).2

/-- From any state that the system reaches, an attempt of `Init` adds an input manager to those of
earlier attempts, and over every run from there on each of them handles the notifications of its
own objects and nothing else. When the attempt returned true, its input manager is new and
handles what is heard after a successful attempt. When it returned false, no notification of its
objects changes anything. The input managers of earlier attempts go on with what they are
registered for. `m_thunderInputManager` is that of the last attempt that has made one. The
events come one at a time, and each deletion is taken to complete. -/
theorem manager_hears (first es : List SystemEvent) (env : InitEnv) (p : Ptr)
    (screen : SmartScreen) {before s t : System}
    (hfirst : tryRun System.step System.init first = .ok before)
    (hlive : before.liveScreen = some (p, screen)) (hinit : before.step (.init env) = .ok s)
    (ht : tryRun System.step s es = .ok t) :
    ((init env screen).1 = .ret true →
      t.manager before.attempts.length = some (run ManagerEvent.apply (.new env.ioParse)
        ((es.flatMap (notifications before.attempts.length)).filter heard))) ∧
    ((init env screen).1 = .ret false →
      ∀ e, t.step (.notify before.attempts.length e) = .ok t) ∧
    (∀ (i : Nat) (a : Attempt), before.attempts[i]? = some a →
      t.manager i = a.manager.map fun manager =>
        run ManagerEvent.apply manager ((es.flatMap (notifications i)).filter a.hears)) ∧
    SharedManager t := by
  -- The entry of the new attempt, and those of the earlier ones.
  obtain ⟨hnew, hold⟩ := attempts_of_init hlive hinit
  refine ⟨fun htrue => manager_run_of_true hlive htrue hinit ht, fun hfalse e => ?_,
    fun i a ha => manager_run (hold i a ha) ht, shared_of_attempt hfirst hinit ht⟩
  have hlistener := listener_of_unregistered hnew (initWired_of_false hfalse) ht e
  show t.notify before.attempts.length e = .ok t
  rw [System.notify, hlistener]

/-- An attempt whose configuration file cannot be read. -/
def unreadableEnv : InitEnv := { fullEnv (smallConfig 1 ['6']) with configInFileGood := false }

/-- A successful attempt, and then one that fails at once. -/
def retriedStart : List SystemEvent :=
  [.call (.avsInitialize 1), .init (fullEnv (smallConfig 1 ['6']))]

/-- The law for a retry that fails at once: a logout still reaches the input manager of the first
attempt, and the objects of the second one reach nobody. -/
theorem manager_hears_retriedStart :
    ∃ t, tryRun System.step System.init
        (retriedStart ++ .init unreadableEnv :: [.notify 0 .onLogout]) = .ok t ∧
      (t.manager 0).map ThunderInputManager.limitedInteraction = some true ∧
      t.step (.notify 1 .onLogout) = .ok t := by
  have hsome : (tryRun System.step System.init
      (retriedStart ++ .init unreadableEnv :: [.notify 0 .onLogout])).toOption.isSome = true := by
    decide +kernel
  cases hrun : tryRun System.step System.init
      (retriedStart ++ .init unreadableEnv :: [.notify 0 .onLogout]) with
  | error f =>
    rw [hrun] at hsome
    cases hsome
  | ok t =>
    obtain ⟨before, hbefore, hrest⟩ := tryRun_append_ok.mp hrun
    obtain ⟨s, hs, ht⟩ := tryRun_cons_ok.mp hrest
    obtain ⟨screen, hlive, hfalse, a, ha, hlogout⟩ : ∃ screen,
        before.liveScreen = some (1, screen) ∧
        (init unreadableEnv screen).1 = .ret false ∧ ∃ a, before.attempts[0]? = some a ∧
        (a.manager.map fun manager => run ManagerEvent.apply manager
          (([.notify 0 .onLogout].flatMap (notifications 0)).filter a.hears)).map
            ThunderInputManager.limitedInteraction = some true := by
      obtain rfl := Except.ok.inj hbefore
      exact ⟨_, rfl, rfl, _, rfl, by decide +kernel⟩
    -- So the attempt that fails is the second one.
    have hlength : before.attempts.length = 1 := by
      obtain rfl := Except.ok.inj hbefore
      rfl
    obtain ⟨-, hnobody, hearlier, -⟩ := manager_hears retriedStart [.notify 0 .onLogout]
      unreadableEnv 1 screen hbefore hlive hs ht
    rw [hlength] at hnobody
    exact ⟨t, rfl, by rw [hearlier 0 a ha]; exact hlogout, hnobody hfalse .onLogout⟩

end Proofs

end XrSpeechAvs
