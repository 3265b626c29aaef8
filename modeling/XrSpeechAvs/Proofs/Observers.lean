import XrSpeechAvs.Impl.Observers
import XrSpeechAvs.Proofs.VoiceToApps

/-!
# `XrSpeechAvs.Proofs.Observers`: who is registered after an attempt

`initWired` is `Init` with its registrations. `initWired_projects` says that it is `Init`
when the registrations are forgotten, so what is known about the members and the outcome of
`Init` holds of it too.

The registrations stand between the tests of `Init`. `wireLines` has both in program order,
and `initWired_logs` says that they are right. So an attempt registers an initial part of
`allRegistrations`.

The input manager is registered last, behind the last test that returns false. An attempt
that returns false has registered it nowhere, also when it has made one
(`init_registrations`). After an attempt that returns true it hears five of the seven
notifications that it handles (`heard`). Template cards and changes of the capabilities never
reach it, since `Init` does not register it with these two subjects.
-/

set_option autoImplicit false

namespace XrSpeechAvs.Proofs

open XrSpeechAvs.Impl
open XrSpeechAvs.Lib

/-! ### `Init` without its registrations -/

/-- Code on the members projects to itself. -/
theorem onScreen_projects {α : Type} (m : InitM α) :
    Projects Wired.screen (onScreen m) m := Projects.onPart (fun _ _ => rfl) m

/-- The GUI part without its registrations. -/
theorem wireGui_projects (env : InitEnv) (appConfig : AppConfig) :
    Projects Wired.screen (wireGui env appConfig) (initGui env appConfig) := by
  unfold wireGui initGui
  refine Projects.bind (onScreen_projects _) fun _ => ?_
  refine Projects.bind (onScreen_projects _) fun _ => ?_
  refine Projects.bind (onScreen_projects _) fun _ => ?_
  refine Projects.bind (onScreen_projects _) fun _ => ?_
  refine Projects.bind (onScreen_projects _) fun _ => ?_
  refine Projects.bind (onScreen_projects _) fun _ => ?_
  refine Projects.bind (onScreen_projects _) fun _ => ?_
  refine Projects.bind (onScreen_projects _) fun _ => ?_
  refine Projects.skip (fun _ => rfl) ?_
  refine Projects.bind (onScreen_projects _) fun _ => ?_
  refine Projects.bind (onScreen_projects _) fun _ => ?_
  refine Projects.bind (onScreen_projects _) fun capabilitiesDelegate => ?_
  -- The last assignment has two registrations behind it.
  intro w
  exact ⟨rfl, rfl⟩

/-- The client part without its registrations. -/
theorem wireClient_projects (env : InitEnv) :
    Projects Wired.screen (wireClient env) (initClient env) := by
  unfold wireClient initClient
  refine Projects.bind (onScreen_projects _) fun _ => ?_
  -- A registration is skipped, and every other line is a line of `initClient`.
  iterate 10 refine Projects.skip (fun _ => rfl) ?_
  refine Projects.bind (onScreen_projects _) fun _ => ?_
  refine Projects.bind (onScreen_projects _) fun _ => ?_
  refine Projects.bind (onScreen_projects _) fun _ => ?_
  refine Projects.skip (fun _ => rfl) ?_
  refine Projects.bind (onScreen_projects _) fun _ => ?_
  refine Projects.bind (onScreen_projects _) fun _ => ?_
  refine Projects.skip (fun _ => rfl) ?_
  refine Projects.bind (onScreen_projects _) fun _ => ?_
  iterate 3 refine Projects.skip (fun _ => rfl) ?_
  refine Projects.bind (onScreen_projects _) fun _ => ?_
  refine Projects.skip (fun _ => rfl) ?_
  refine Projects.bind (onScreen_projects _) fun _ => ?_
  iterate 4 refine Projects.skip (fun _ => rfl) ?_
  exact onScreen_projects _

/-- With its registrations forgotten, the attempt is `Init`. -/
theorem initWired_projects (env : InitEnv) :
    Projects Wired.screen (initWired env) (init env) := by
  unfold initWired init
  refine Projects.bind (onScreen_projects _) fun _ => ?_
  refine Projects.bind (onScreen_projects _) fun appConfig => ?_
  refine Projects.bind (onScreen_projects _) fun _ => ?_
  refine Projects.bind (wireGui_projects env appConfig) fun _ => ?_
  refine Projects.bind (onScreen_projects _) fun _ => ?_
  refine Projects.bind (onScreen_projects _) fun _ => ?_
  refine Projects.bind (wireClient_projects env) fun _ => ?_
  exact Projects.ret true

/-! ### The lines of the registrations -/

/-- A line of `Init`, seen from its registrations. -/
abbrev WireLine := Line Bool InitFault Unit Registration

/-- The list that the registrations go into. -/
def registered (_ : Unit) (w : Wired) : List Registration := w.registrations

/-- A line that registers an observer. -/
def registers (subject : Subject) (observer : Observer) : WireLine :=
  .add () [{ subject := subject, observer := observer }]

/-- A line that returns false when `b` does not hold. -/
def wireCheck (b : Bool) : WireLine := .guard (.check b false)

/-- A line that faults when `b` does not hold. -/
def wireNeed (b : Bool) (f : InitFault) : WireLine := .guard (.need b f)

/-- The tests of a part that registers nothing. -/
def testsOf (lines : List InitLine) : List WireLine := (guards lines).map .guard

/-- The lines of `wireGui`. -/
def wireGuiLines (env : InitEnv) (appConfig : AppConfig) : List WireLine :=
  [wireCheck env.appLocaleManager.isSome, wireCheck env.appCustDataManager.isSome,
    wireCheck env.guiClient.isSome,
    wireNeed (stol env.longBits (appConfig.getString CONTENT_CACHE_REUSE_PERIOD_IN_SECONDS_KEY
      DEFAULT_CONTENT_CACHE_REUSE_PERIOD_IN_SECONDS)).isSome .uncaughtException,
    wireNeed (stol env.longBits (appConfig.getString CONTENT_CACHE_MAX_SIZE_KEY
      DEFAULT_CONTENT_CACHE_MAX_SIZE)).isSome .uncaughtException,
    wireCheck env.appDevInfo.isSome, registers .guiClient .appUI,
    wireCheck env.delAuth.isSome, wireCheck env.capabilitiesDelegate.isSome,
    registers .delAuth .appUI, registers .capabilitiesDelegate .appUI]

/-- The lines of `wireClient` up to its last test that returns false. -/
def wireClientLines (env : InitEnv) : List WireLine :=
  [wireCheck env.client.isSome, registers .speakerManager .appUI,
    registers .notifications .appUI, registers .templateRuntime .guiManager,
    registers .alexaPresentation .guiManager, registers .alexaDialogState .guiManager,
    registers .audioPlayer .guiManager, registers .audioPlayer .aplClientBridge,
    registers .callState .guiManager, registers .focusManagers .guiManager,
    registers .audioInputProcessor .guiManager, wireCheck env.shutdownManager.isSome,
    registers .delAuth .guiClient, wireNeed env.registrationManager.isSome .nullDereference,
    registers .registrationManager .guiClient, registers .capabilitiesDelegate .guiClient,
    registers .doNotDisturbSetting .guiClient, wireCheck env.guiClientStarts]

/-- The lines that register the input manager. -/
def wireManagerLines (env : InitEnv) : List WireLine :=
  [registers .delAuth .thunderInputManager,
    wireNeed env.registrationManagerAgain.isSome .nullDereference,
    registers .registrationManager .thunderInputManager,
    registers .message .thunderInputManager, registers .alexaDialogState .thunderInputManager,
    registers .audioPlayer .thunderInputManager]

/-- The lines in front of those for the input manager, after the configuration entry. -/
def wireFrontLines (env : InitEnv) (appConfig : AppConfig) (pool : List Obj) :
    List WireLine :=
  testsOf (playersLines env (appConfig.child SAMPLE_APP_CONFIG_KEY) pool)
    ++ (wireGuiLines env appConfig ++ (testsOf (networkLines env)
    ++ (testsOf (voiceLines env) ++ wireClientLines env)))

/-- The lines of an attempt, for the pool at the entry. -/
def wireLines (env : InitEnv) (pool : List Obj) : List WireLine :=
  testsOf (configLines env) ++ match env.configEntry with
    | none => [wireCheck false]
    | some appConfig => wireFrontLines env appConfig pool
        ++ (wireManagerLines env ++ [.guard (.check false true)])

/-! ### The lines are right -/

section
variable (w : Wired)

/-- A test of `Init` that does not look at the members. -/
@[simp] theorem onScreen_returnUnless (b r : Bool) :
    onScreen (Script.returnUnless b r) = Script.returnUnless b r := by
  funext w
  cases b <;> rfl

/-- A need of `Init` that does not look at the members. -/
@[simp] theorem onScreen_need (b : Bool) (f : InitFault) :
    onScreen (Script.need b f) = Script.need b f := by
  funext w
  cases b <;> rfl

/-- An assignment to the members. -/
theorem onScreen_modify (g : SmartScreen → SmartScreen) :
    onScreen (Script.modify g) = Script.modify fun w => { w with screen := g w.screen } := rfl

/-- A test that looks at the members. -/
theorem onScreen_withState {α : Type} (f : SmartScreen → InitM α) :
    onScreen (Script.withState f) = Script.withState fun w => onScreen (f w.screen) := rfl

/-- The value of an option. -/
@[simp] theorem onScreen_orReturn {α : Type} (p : Option α) (r : Bool) :
    onScreen (Script.orReturn p r) = Script.orReturn p r := by
  funext w
  cases p <;> rfl

/-- A part of `Init` that registers nothing. -/
theorem onScreen_logs {m : InitM Unit} {lines : List InitLine}
    (h : (m w.screen).1 = verdict (guards lines)) :
    Logs registered (onScreen m) w (testsOf lines) :=
  Logs.of_leaves h fun _ => rfl

/-- A registration, and then the rest. -/
theorem register_then {subject : Subject} {observer : Observer} {n : WiredM Unit}
    {ls : List WireLine}
    (h : Logs registered n { w with
      registrations := w.registrations ++ [{ subject := subject, observer := observer }] } ls) :
    Logs registered (register subject observer >>= fun _ => n) w
      (registers subject observer :: ls) :=
  Logs.add_then (fun _ => rfl) h

/-- A registration at the end. -/
theorem register_last (subject : Subject) (observer : Observer) :
    Logs registered (register subject observer) w [registers subject observer] :=
  Logs.add_last fun _ => rfl

/-- The GUI part has its lines. -/
theorem wireGui_logs (env : InitEnv) (appConfig : AppConfig) :
    Logs registered (wireGui env appConfig) w (wireGuiLines env appConfig) := by
  unfold wireGui
  simp only [onScreen_returnUnless, onScreen_need, onScreen_modify, onScreen_orReturn]
  refine Logs.check_then fun _ => Logs.check_then fun _ => ?_
  refine Logs.modify_then (fun _ => rfl) ?_
  refine Logs.check_then fun _ => Logs.need_then fun _ => Logs.need_then fun _ => ?_
  refine Logs.modify_then (fun _ => rfl) ?_
  refine Logs.check_then fun _ => register_then _ ?_
  refine Logs.check_then fun _ => Logs.modify_then (fun _ => rfl) ?_
  refine Logs.orReturn_then fun _ _ => Logs.modify_then (fun _ => rfl) ?_
  exact register_then _ (register_last _ _ _)

/-- The client part has its lines, with a `GUIManager`. -/
theorem wireClient_logs (env : InitEnv) (manager : Obj)
    (h : w.screen.guiManager = some manager) :
    Logs registered (wireClient env) w (wireClientLines env ++ wireManagerLines env) := by
  unfold wireClient
  simp only [onScreen_returnUnless, onScreen_need, onScreen_modify, onScreen_withState]
  refine Logs.check_then fun _ => ?_
  iterate 10 refine register_then _ ?_
  refine Logs.withState_then (Logs.need_of_holds (by rw [h]; rfl) ?_)
  refine Logs.modify_then (fun _ => rfl) (Logs.check_then fun _ => ?_)
  refine Logs.modify_then (fun _ => rfl) (Logs.modify_then (fun _ => rfl) ?_)
  -- `ThunderInputManager::create` refuses a null `GUIManager` only.
  have hcreate : (ThunderInputManager.create w.screen.guiManager env.ioParse).isSome = true := by
    rw [h]
    rfl
  refine Logs.withState_then (Logs.check_of_holds hcreate (register_then _ ?_))
  refine Logs.need_then fun _ => ?_
  iterate 3 refine register_then _ ?_
  refine Logs.check_then fun _ => register_then _ (Logs.need_then fun _ => ?_)
  iterate 4 refine register_then _ ?_
  exact Logs.modify_last fun _ => rfl

/-- The parts of an attempt after the test of the configuration entry. -/
def wireBody (env : InitEnv) (appConfig : AppConfig) : WiredM Unit := do
  onScreen (initPlayers env (appConfig.child SAMPLE_APP_CONFIG_KEY))
  wireGui env appConfig
  onScreen (initNetwork env)
  onScreen (initVoice env)
  wireClient env

/-- The parts behind the configuration entry have their lines, for the pool at the entry. -/
theorem wireBody_logs (env : InitEnv) (appConfig : AppConfig) :
    Logs registered (wireBody env appConfig) w
      (wireFrontLines env appConfig w.screen.audioMediaPlayerPool ++ wireManagerLines env) := by
  have hnest : wireFrontLines env appConfig w.screen.audioMediaPlayerPool
      ++ wireManagerLines env
      = testsOf (playersLines env (appConfig.child SAMPLE_APP_CONFIG_KEY)
          w.screen.audioMediaPlayerPool)
        ++ (wireGuiLines env appConfig ++ (testsOf (networkLines env)
        ++ (testsOf (voiceLines env) ++ (wireClientLines env ++ wireManagerLines env)))) := by
    simp only [wireFrontLines, List.append_assoc]
  rw [hnest]
  unfold wireBody
  apply Logs.seq (onScreen_logs w (initPlayers_logs env _ w.screen).leaves)
  intro _
  apply Logs.seq (wireGui_logs _ env appConfig)
  intro _
  apply Logs.seq (onScreen_logs _ (initNetwork_logs env _).leaves)
  intro hnetwork
  -- The network part has passed, so there is a stream.
  rw [testsOf, guards_map_guard] at hnetwork
  obtain ⟨stream, hstream⟩ := stream_of_network hnetwork
  apply Logs.seq (onScreen_logs _ (initVoice_logs env _ stream hstream).leaves)
  intro hvoice
  -- The handler was bound, so there is a `GUIManager`.
  have hmanager : env.guiManager.isSome = true := by
    simpa [testsOf, voiceLines, check, Guard.holds] using hvoice
  obtain ⟨manager, hmanager⟩ := Option.isSome_iff_exists.mp hmanager
  apply wireClient_logs _ env manager
  show (initVoice env _).2.guiManager = some manager
  rw [initVoice_run env _ stream hstream]
  exact hmanager

/-- An attempt leaves at the first of its lines that fails, and it has made the registrations
before that line. -/
theorem initWired_logs (env : InitEnv) :
    Logs registered (initWired env) w (wireLines env w.screen.audioMediaPlayerPool) := by
  unfold initWired wireLines
  apply Logs.seq (onScreen_logs w (initConfig_logs env w.screen).leaves)
  intro _
  rw [onScreen_orReturn]
  cases env.configEntry with
  | none => exact ⟨rfl, fun k => (List.append_nil _).symm⟩
  | some appConfig =>
    have hbody := wireBody_logs (onScreen (initConfig env) w).2 env appConfig
    rw [show (onScreen (initConfig env) w).2.screen.audioMediaPlayerPool
      = w.screen.audioMediaPlayerPool from initConfig_pool env w.screen] at hbody
    -- The attempt ends with a return after the last part of its body.
    have hlast := Logs.seq hbody fun _ => Logs.return_last true
    unfold wireBody at hlast
    simp only [Script.bind_assoc, List.append_assoc] at hlast
    exact ⟨hlast.leaves, hlast.adds⟩

end

/-! ### The registrations of an attempt -/

/-- The registrations of an attempt that comes to its end, in program order. -/
def allRegistrations : List Registration :=
  [⟨.guiClient, .appUI⟩, ⟨.delAuth, .appUI⟩, ⟨.capabilitiesDelegate, .appUI⟩,
    ⟨.speakerManager, .appUI⟩, ⟨.notifications, .appUI⟩, ⟨.templateRuntime, .guiManager⟩,
    ⟨.alexaPresentation, .guiManager⟩, ⟨.alexaDialogState, .guiManager⟩,
    ⟨.audioPlayer, .guiManager⟩, ⟨.audioPlayer, .aplClientBridge⟩, ⟨.callState, .guiManager⟩,
    ⟨.focusManagers, .guiManager⟩, ⟨.audioInputProcessor, .guiManager⟩,
    ⟨.delAuth, .guiClient⟩, ⟨.registrationManager, .guiClient⟩,
    ⟨.capabilitiesDelegate, .guiClient⟩, ⟨.doNotDisturbSetting, .guiClient⟩,
    ⟨.delAuth, .thunderInputManager⟩, ⟨.registrationManager, .thunderInputManager⟩,
    ⟨.message, .thunderInputManager⟩, ⟨.alexaDialogState, .thunderInputManager⟩,
    ⟨.audioPlayer, .thunderInputManager⟩]

/-- The registrations in front of those of the input manager. -/
def frontRegistrations : List Registration := allRegistrations.take 17

/-- Tests register nothing. -/
@[simp] theorem additions_testsOf (lines : List InitLine) :
    additions () (testsOf lines) = [] := additions_map_guard () _

/-- The registrations in the lines in front of those for the input manager. -/
theorem additions_wireFrontLines (env : InitEnv) (appConfig : AppConfig) (pool : List Obj) :
    additions () (wireFrontLines env appConfig pool) = frontRegistrations := by
  simp only [wireFrontLines, additions_append, additions_testsOf, List.nil_append]
  rfl

/-- No observer of the front is the input manager. -/
theorem frontRegistrations_observer :
    ∀ r ∈ frontRegistrations, r.observer ≠ .thunderInputManager := by
  intro r hr
  simp only [frontRegistrations, allRegistrations, List.take_succ_cons, List.take_zero,
    List.mem_cons, List.not_mem_nil, or_false] at hr
  rcases hr with rfl | rfl | rfl | rfl | rfl | rfl | rfl | rfl | rfl | rfl | rfl | rfl | rfl |
    rfl | rfl | rfl | rfl <;> simp

/-- The tests in front of the registrations of the input manager. -/
def ReachesWires (env : InitEnv) (pool : List Obj) : Prop :=
  passes (guards (configLines env)) = true ∧ ∃ appConfig, env.configEntry = some appConfig ∧
    passes (guards (wireFrontLines env appConfig pool)) = true

/-- The tests of an attempt are those of `Init`. -/
theorem guards_wireLines (env : InitEnv) (appConfig : AppConfig) (pool : List Obj) :
    guards (wireFrontLines env appConfig pool ++ wireManagerLines env)
      = guards (bodyLines env appConfig pool) := by
  have hclient : guards (clientLines env)
      = guards (wireClientLines env) ++ guards (wireManagerLines env) := rfl
  have hgui : guards (guiLines env appConfig) = guards (wireGuiLines env appConfig) := rfl
  simp only [wireFrontLines, bodyLines, testsOf, guards_append, guards_map_guard, hclient, hgui,
    List.append_assoc]

/-- An attempt that returns true comes to the registrations of the input manager. -/
theorem reachesWires_of_true {env : InitEnv} {w : Wired}
    (h : (initWired env w).1 = .ret true) : ReachesWires env w.screen.audioMediaPlayerPool := by
  rw [(initWired_projects env w).1] at h
  obtain ⟨hconfig, appConfig, hentry, hbody⟩ := (init_true_iff env w.screen).mp h
  rw [← guards_wireLines, guards_append, passes_append, Bool.and_eq_true] at hbody
  exact ⟨hconfig, appConfig, hentry, hbody.1⟩

/-- The end of an attempt: one test between the first registration of the input manager and
the others. -/
theorem wireManagerLines_end (env : InitEnv) :
    verdict (guards (wireManagerLines env ++ [.guard (.check false true)]))
        = (if env.registrationManagerAgain.isSome then .ret true else .fault .nullDereference) ∧
      frontRegistrations ++ added () (wireManagerLines env ++ [.guard (.check false true)])
        = if env.registrationManagerAgain.isSome then allRegistrations
          else allRegistrations.take 18 := by
  unfold wireManagerLines
  cases env.registrationManagerAgain with
  | none => exact ⟨rfl, rfl⟩
  | some manager => exact ⟨rfl, rfl⟩

/-- An attempt that comes there makes all registrations and returns true, or it stops at the
second use of the registration manager. -/
theorem initWired_of_reached {env : InitEnv} {w : Wired}
    (h : ReachesWires env w.screen.audioMediaPlayerPool) :
    (initWired env w).1
        = (if env.registrationManagerAgain.isSome then .ret true else .fault .nullDereference) ∧
      (initWired env w).2.registrations = w.registrations ++
        if env.registrationManagerAgain.isSome then allRegistrations
        else allRegistrations.take 18 := by
  obtain ⟨hconfig, appConfig, hentry, hfront⟩ := h
  have hlogs := initWired_logs w env
  have hlines : wireLines env w.screen.audioMediaPlayerPool
      = testsOf (configLines env) ++ (wireFrontLines env appConfig w.screen.audioMediaPlayerPool
        ++ (wireManagerLines env ++ [.guard (.check false true)])) := by
    rw [wireLines, hentry]
  have hconfig' : passes (guards (testsOf (configLines env))) = true := by
    rw [testsOf, guards_map_guard]
    exact hconfig
  have hfirst : added () (testsOf (configLines env)) = [] := added_map_guard () _
  have hadded : added () (wireFrontLines env appConfig w.screen.audioMediaPlayerPool)
      = frontRegistrations := by
    rw [added_of_passes () hfront, additions_wireFrontLines]
  rw [hlines] at hlogs
  constructor
  · -- Only the test of the registration manager is left.
    rw [hlogs.leaves, guards_append, verdict_append, if_pos hconfig', guards_append,
      verdict_append, if_pos hfront]
    exact (wireManagerLines_end env).1
  · have hadds : (initWired env w).2.registrations = w.registrations ++ _ := hlogs.adds ()
    rw [hadds, added_append, hfirst, List.nil_append, if_pos hconfig', added_append, hadded,
      if_pos hfront, (wireManagerLines_end env).2]

/-- An attempt that does not come there registers an initial part of the front. -/
theorem initWired_of_not_reached {env : InitEnv} {w : Wired}
    (h : ¬ ReachesWires env w.screen.audioMediaPlayerPool) :
    ∃ new, (initWired env w).2.registrations = w.registrations ++ new ∧
      new <+: frontRegistrations := by
  have hadds : (initWired env w).2.registrations = w.registrations ++ _ :=
    (initWired_logs w env).adds ()
  refine ⟨_, hadds, ?_⟩
  rw [wireLines, added_append, show added () (testsOf (configLines env)) = [] from
    added_map_guard () _, List.nil_append]
  -- The attempt leaves at the configuration, or within the front.
  by_cases hconfig : passes (guards (testsOf (configLines env))) = true
  · rw [if_pos hconfig]
    cases hentry : env.configEntry with
    | none => exact List.nil_prefix
    | some appConfig =>
      show added () (wireFrontLines env appConfig _ ++ _) <+: _
      rw [testsOf, guards_map_guard] at hconfig
      -- Some test of the front fails, or the attempt would have come to the end of it.
      have hfront : ¬ passes (guards (wireFrontLines env appConfig
          w.screen.audioMediaPlayerPool)) = true :=
        fun hpass => h ⟨hconfig, appConfig, hentry, hpass⟩
      rw [added_append, if_neg hfront, List.append_nil,
        ← additions_wireFrontLines env appConfig w.screen.audioMediaPlayerPool]
      exact added_prefix () _
  · rw [if_neg hconfig]
    exact List.nil_prefix

/-- What an attempt registers, by how it leaves: an initial part of `allRegistrations`, all of
them, or none of the input manager. -/
theorem registrations_by_result (env : InitEnv) (w : Wired) :
    ∃ new, (initWired env w).2.registrations = w.registrations ++ new ∧
      new <+: allRegistrations ∧
      ((initWired env w).1 = .ret true → new = allRegistrations) ∧
      ((initWired env w).1 = .ret false → ∀ r ∈ new, r.observer ≠ .thunderInputManager) := by
  by_cases hreach : ReachesWires env w.screen.audioMediaPlayerPool
  · obtain ⟨hout, hregs⟩ := initWired_of_reached hreach
    -- Behind the front only the second registration manager can be missing, and that is a fault.
    cases hagain : env.registrationManagerAgain.isSome with
    | true =>
      rw [hagain, if_pos rfl] at hout hregs
      refine ⟨_, hregs, List.prefix_refl _, fun _ => rfl, ?_⟩
      intro hfalse
      rw [hout] at hfalse
      cases hfalse
    | false =>
      rw [hagain, if_neg Bool.false_ne_true] at hout hregs
      refine ⟨_, hregs, List.take_prefix _ _, ?_, ?_⟩
      · intro htrue
        rw [hout] at htrue
        cases htrue
      · intro hfalse
        rw [hout] at hfalse
        cases hfalse
  · -- In the front the input manager is not made yet.
    obtain ⟨new, hregs, hfirst⟩ := initWired_of_not_reached hreach
    refine ⟨new, hregs, hfirst.trans (List.take_prefix _ _), ?_, ?_⟩
    · intro htrue
      exact absurd (reachesWires_of_true htrue) hreach
    · intro _ r hr
      exact frontRegistrations_observer r (hfirst.subset hr)

/-- For every environment and every state at the entry, however the attempt leaves: it does
what `Init` does, and it registers an initial part of `allRegistrations`. That is all of them
when it returns true. When it returns false, the input manager is registered nowhere. -/
theorem init_registrations (env : InitEnv) (w : Wired) :
    ((initWired env w).1, (initWired env w).2.screen) = init env w.screen ∧
    ∃ new, (initWired env w).2.registrations = w.registrations ++ new ∧
      new <+: allRegistrations ∧
      ((initWired env w).1 = .ret true → new = allRegistrations) ∧
      ((initWired env w).1 = .ret false → ∀ r ∈ new, r.observer ≠ .thunderInputManager) := by
  obtain ⟨hleaves, hscreen⟩ := initWired_projects env w
  exact ⟨by rw [hleaves, hscreen], registrations_by_result env w⟩

/-! ### What the input manager hears -/

/-- The notifications that reach the input manager after an attempt that returned true. -/
def heard (e : ManagerEvent) : Bool :=
  decide ({ subject := e.subject, observer := .thunderInputManager } ∈ allRegistrations)

/-- Template cards and changes of the capabilities are not heard, and everything else is. -/
theorem heard_eq (e : ManagerEvent) : heard e = match e with
    | .renderTemplateCard _ => false
    | .onCapabilitiesStateChange _ => false
    | _ => true := by
  cases e <;> rfl

/-- An attempt that returns true has made a new input manager. -/
theorem thunderInputManager_of_true {env : InitEnv} {s : SmartScreen}
    (h : (init env s).1 = .ret true) :
    (init env s).2.thunderInputManager = some (.new env.ioParse) := by
  obtain ⟨hreach, manager, hmanager⟩ := reachesVoice_of_true h
  obtain ⟨-, appConfig, -, hbody⟩ := (init_true_iff env s).mp h
  -- The tests of the client are among those that have passed.
  simp only [bodyLines, clientLines, check, need, guards_append, passes_append, guards_guard,
    guards_nil, passes_cons, passes_nil, Guard.holds, Bool.and_eq_true] at hbody
  obtain ⟨-, -, -, -, hclient, hshutdown, -⟩ := hbody
  have hgui : env.guiManager.isSome = true := by
    rw [hmanager]
    rfl
  exact (init_vta s env).manager_new ⟨hreach, hgui, hclient, hshutdown⟩

/-- An attempt that returns true leaves a new input manager and all registrations. -/
theorem initWired_of_true {env : InitEnv} {screen : SmartScreen}
    (h : (init env screen).1 = .ret true) :
    (initWired env (.entering screen)).2.screen.thunderInputManager = some (.new env.ioParse) ∧
      (initWired env (.entering screen)).2.registrations = allRegistrations := by
  obtain ⟨hleaves, hscreen⟩ := initWired_projects env (.entering screen)
  obtain ⟨new, hregs, -, htrue, -⟩ := registrations_by_result env (.entering screen)
  refine ⟨?_, ?_⟩
  · rw [hscreen]
    exact thunderInputManager_of_true h
  · rw [hregs, htrue (hleaves.trans h)]
    rfl

/-- An attempt that returns false has registered the input manager nowhere. -/
theorem initWired_of_false {env : InitEnv} {screen : SmartScreen}
    (h : (init env screen).1 = .ret false) :
    ∀ r ∈ (initWired env (.entering screen)).2.registrations,
      r.observer ≠ .thunderInputManager := by
  obtain ⟨hleaves, -⟩ := initWired_projects env (.entering screen)
  obtain ⟨new, hregs, -, -, hfalse⟩ := registrations_by_result env (.entering screen)
  rw [hregs]
  exact hfalse (hleaves.trans h)

end XrSpeechAvs.Proofs
