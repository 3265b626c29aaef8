import XrSpeechAvs.Lib.Run
import XrSpeechAvs.Proofs.InitLines

/-!
# `XrSpeechAvs.Proofs.InitMembers`: the members after an attempt

`Init` assigns members as it goes and takes nothing back when it fails later. So a member
holds after an attempt what the assignments before the failing test have made of it:

* the lists have grown by the additions before that test (`init_logs`), attempt after
  attempt (`attempts_lists`);
* the members of the voice path are those of the entry until `Init` comes to `initVoice`,
  and new ones from there on (`init_of_not_reached`, `init_of_reached`).

`init_members` puts this together. After an attempt that returns true, the interaction
handler is bound to the new `GUIManager`. `failed_attempt_keeps_members` is an attempt that
fails and leaves the members of a ready smart screen.
-/

set_option autoImplicit false

namespace XrSpeechAvs.Proofs

open XrSpeechAvs.Impl
open XrSpeechAvs.Lib

/-- The members that only the last two parts of `Init` assign. -/
structure LateMembers where
  vWriter : Option Writer
  aspInputInteractionHandler : Option InteractionHandler
  thunderVoiceHandler : Option ThunderVoiceHandler
  guiManager : Option Obj
  thunderInputManager : Option ThunderInputManager
  vta : VoiceToApps

/-- The late members of a smart screen. -/
def late (s : SmartScreen) : LateMembers where
  vWriter := s.vWriter
  aspInputInteractionHandler := s.aspInputInteractionHandler
  thunderVoiceHandler := s.thunderVoiceHandler
  guiManager := s.guiManager
  thunderInputManager := s.thunderInputManager
  vta := s.vta

/-! ### The parts that keep the late members -/

/-- The configuration part assigns no late member. -/
theorem initConfig_keeps (env : InitEnv) : Keeps late (initConfig env) := by
  refine Keeps.bind (Keeps.returnUnless _ _) fun _ => ?_
  refine Keeps.bind (Keeps.returnUnless _ _) fun _ => ?_
  refine Keeps.bind (Keeps.need _ _) fun _ => ?_
  refine Keeps.bind (Keeps.returnUnless _ _) fun _ => ?_
  refine Keeps.bind (Keeps.modify fun _ => rfl) fun _ => ?_
  refine Keeps.bind (Keeps.need _ _) fun _ => ?_
  exact Keeps.bind (Keeps.modify fun _ => rfl) fun _ => Keeps.returnUnless _ _

/-- A new player is no late member. -/
theorem createMediaPlayer_keeps (interfaces : Option ApplicationMediaInterfaces)
    {assign : Obj → SmartScreen → SmartScreen}
    (h : ∀ player s, late (assign player s) = late s) :
    Keeps late (createMediaPlayer interfaces assign) := by
  refine Keeps.bind (Keeps.orReturn _ _) fun i => ?_
  exact Keeps.bind (Keeps.modify fun _ => rfl) fun _ => Keeps.modify fun s => h _ s

/-- The players of the pool are no late members. -/
theorem createAudioPlayers_keeps (env : InitEnv) (index left : Nat) :
    Keeps late (createAudioPlayers env index left) := by
  induction left generalizing index with
  | zero => exact Keeps.pure ()
  | succ left ih =>
    refine Keeps.bind (createMediaPlayer_keeps _ ?_) fun _ => ih (index + 1)
    exact fun _ _ => rfl

/-- The players are no late members. -/
theorem initPlayers_keeps (env : InitEnv) (config : ConfigurationNode) :
    Keeps late (initPlayers env config) := by
  refine Keeps.bind (createMediaPlayer_keeps _ ?_) fun _ => ?_
  · exact fun _ _ => rfl
  -- The player of the speaker comes first, then the loop, then the five other players.
  refine Keeps.bind (createAudioPlayers_keeps env _ _) fun _ => ?_
  refine Keeps.bind (Keeps.withState fun _ => Keeps.need _ _) fun _ => ?_
  refine Keeps.bind (Keeps.returnUnless _ _) fun _ => ?_
  refine Keeps.bind (createMediaPlayer_keeps _ ?_) fun _ => ?_
  · exact fun _ _ => rfl
  refine Keeps.bind (createMediaPlayer_keeps _ ?_) fun _ => ?_
  · exact fun _ _ => rfl
  refine Keeps.bind (createMediaPlayer_keeps _ ?_) fun _ => ?_
  · exact fun _ _ => rfl
  refine Keeps.bind (createMediaPlayer_keeps _ ?_) fun _ => createMediaPlayer_keeps _ ?_
  · exact fun _ _ => rfl
  · exact fun _ _ => rfl

/-- The GUI part assigns no late member. -/
theorem initGui_keeps (env : InitEnv) (appConfig : AppConfig) :
    Keeps late (initGui env appConfig) := by
  refine Keeps.bind (Keeps.returnUnless _ _) fun _ => ?_
  refine Keeps.bind (Keeps.returnUnless _ _) fun _ => ?_
  refine Keeps.bind (Keeps.modify fun _ => rfl) fun _ => ?_
  refine Keeps.bind (Keeps.returnUnless _ _) fun _ => ?_
  refine Keeps.bind (Keeps.need _ _) fun _ => Keeps.bind (Keeps.need _ _) fun _ => ?_
  refine Keeps.bind (Keeps.modify fun _ => rfl) fun _ => ?_
  refine Keeps.bind (Keeps.returnUnless _ _) fun _ => ?_
  refine Keeps.bind (Keeps.returnUnless _ _) fun _ => ?_
  refine Keeps.bind (Keeps.modify fun _ => rfl) fun _ => ?_
  exact Keeps.bind (Keeps.orReturn _ _) fun _ => Keeps.modify fun _ => rfl

/-- The network part assigns nothing. -/
theorem initNetwork_keeps (env : InitEnv) : Keeps late (initNetwork env) := by
  refine Keeps.bind (Keeps.returnUnless _ _) fun _ => ?_
  refine Keeps.bind (Keeps.returnUnless _ _) fun _ => ?_
  refine Keeps.bind (Keeps.returnUnless _ _) fun _ => ?_
  refine Keeps.bind (Keeps.returnUnless _ _) fun _ => ?_
  exact Keeps.bind (Keeps.returnUnless _ _) fun _ => Keeps.returnUnless _ _

/-- The members of the voice path. -/
structure VoiceMembers where
  vWriter : Option Writer
  aspInputInteractionHandler : Option InteractionHandler
  thunderVoiceHandler : Option ThunderVoiceHandler
  guiManager : Option Obj

/-- The voice path is among the late members. -/
def LateMembers.voice (l : LateMembers) : VoiceMembers where
  vWriter := l.vWriter
  aspInputInteractionHandler := l.aspInputInteractionHandler
  thunderVoiceHandler := l.thunderVoiceHandler
  guiManager := l.guiManager

/-- The members of the voice path of a smart screen. -/
def voice (s : SmartScreen) : VoiceMembers := (late s).voice

/-- The last part sets nothing of the voice path. -/
theorem initClient_keeps (env : InitEnv) : Keeps voice (initClient env) := by
  refine Keeps.bind (Keeps.returnUnless _ _) fun _ => ?_
  refine Keeps.bind (Keeps.withState fun _ => Keeps.need _ _) fun _ => ?_
  refine Keeps.bind (Keeps.modify fun _ => rfl) fun _ => ?_
  refine Keeps.bind (Keeps.returnUnless _ _) fun _ => ?_
  refine Keeps.bind (Keeps.modify fun _ => rfl) fun _ => ?_
  refine Keeps.bind (Keeps.withState fun _ => Keeps.returnUnless _ _) fun _ => ?_
  refine Keeps.bind (Keeps.need _ _) fun _ => Keeps.bind (Keeps.returnUnless _ _) fun _ => ?_
  exact Keeps.bind (Keeps.need _ _) fun _ => Keeps.modify fun _ => rfl

/-! ### The way to the voice path -/

/-- The parts between the test of the configuration entry and `initVoice`. -/
def initFront (env : InitEnv) (appConfig : AppConfig) : InitM Unit := do
  initPlayers env (appConfig.child SAMPLE_APP_CONFIG_KEY)
  initGui env appConfig
  initNetwork env

/-- The lines of `initFront`. -/
def frontLines (env : InitEnv) (appConfig : AppConfig) (pool : List Obj) : List InitLine :=
  playersLines env (appConfig.child SAMPLE_APP_CONFIG_KEY) pool
    ++ (guiLines env appConfig ++ networkLines env)

/-- The parts from `initVoice` on. -/
def initRest (env : InitEnv) : InitM Unit := do
  initVoice env
  initClient env
  Script.ret true

/-- `Init` comes to `initVoice`. -/
def ReachesVoice (env : InitEnv) (pool : List Obj) : Prop :=
  passes (guards (configLines env)) = true ∧
    ∃ appConfig, env.configEntry = some appConfig ∧
      passes (guards (frontLines env appConfig pool)) = true

/-- The three parts in front of `initVoice` have their lines one after another. -/
theorem initFront_logs (env : InitEnv) (appConfig : AppConfig) (s : SmartScreen) :
    Logs MemberList.of (initFront env appConfig) s
      (frontLines env appConfig s.audioMediaPlayerPool) := by
  refine Logs.seq (initPlayers_logs env _ s) fun _ => ?_
  exact Logs.seq (initGui_logs env appConfig _) fun _ => initNetwork_logs env _

/-- They assign no late member. -/
theorem initFront_keeps (env : InitEnv) (appConfig : AppConfig) :
    Keeps late (initFront env appConfig) :=
  Keeps.bind (initPlayers_keeps env _) fun _ =>
    Keeps.bind (initGui_keeps env appConfig) fun _ => initNetwork_keeps env

/-- After the test of the configuration entry, `Init` is `initFront` and then `initRest`. -/
theorem init_of_config {env : InitEnv} {s : SmartScreen} {appConfig : AppConfig}
    (hconfig : passes (guards (configLines env)) = true)
    (hentry : env.configEntry = some appConfig) :
    init env s = (initFront env appConfig >>= fun _ => initRest env) (initConfig env s).2 := by
  have hnext := next_of_passes (initConfig_logs env s).leaves hconfig
  unfold init
  rw [Script.bind_of_next _ hnext, hentry]
  simp only [initFront, initRest, Script.bind_assoc]
  rfl

/-- An attempt that comes to `initVoice` has a stream, and its late members are still those
of the entry. -/
theorem init_of_reached {env : InitEnv} {s : SmartScreen}
    (h : ReachesVoice env s.audioMediaPlayerPool) :
    ∃ stream t, env.sharedDataStream = some stream ∧ late t = late s ∧
      init env s = initRest env t := by
  obtain ⟨hconfig, appConfig, hentry, hfront⟩ := h
  rw [init_of_config hconfig hentry]
  -- The front goes on, because all of its tests hold.
  have hlogs := initFront_logs env appConfig (initConfig env s).2
  rw [initConfig_pool env s] at hlogs
  rw [Script.bind_of_next _ (next_of_passes hlogs.leaves hfront)]
  simp only [frontLines, guards_append, passes_append, Bool.and_eq_true] at hfront
  obtain ⟨-, -, hnetwork⟩ := hfront
  obtain ⟨stream, hstream⟩ := stream_of_network hnetwork
  refine ⟨stream, _, hstream, ?_, rfl⟩
  exact (initFront_keeps env appConfig _).trans (initConfig_keeps env s)

/-- An attempt that fails before `initVoice` leaves the late members as they were. -/
theorem init_of_not_reached {env : InitEnv} {s : SmartScreen}
    (h : ¬ ReachesVoice env s.audioMediaPlayerPool) : late (init env s).2 = late s := by
  have hkeep : late (initConfig env s).2 = late s := initConfig_keeps env s
  -- The attempt fails in the first part, at the entry, or in the front.
  by_cases hconfig : passes (guards (configLines env)) = true
  · cases hentry : env.configEntry with
    | none =>
      have hnext := next_of_passes (initConfig_logs env s).leaves hconfig
      unfold init
      rw [Script.bind_of_next _ hnext, hentry]
      exact hkeep
    | some appConfig =>
      rw [init_of_config hconfig hentry]
      have hlogs := initFront_logs env appConfig (initConfig env s).2
      rw [initConfig_pool env s] at hlogs
      have hfront : ¬ passes (guards (frontLines env appConfig s.audioMediaPlayerPool)) = true :=
        fun hpass => h ⟨hconfig, appConfig, hentry, hpass⟩
      rw [bind_of_not_passes hlogs.leaves hfront]
      exact (initFront_keeps env appConfig _).trans hkeep
  · unfold init
    rw [bind_of_not_passes (initConfig_logs env s).leaves hconfig]
    exact hkeep

/-! ### The members after an attempt -/

/-- The voice path that `initVoice` sets up, on a stream. -/
def newVoice (stream : AudioInputStream) (guiManager : Option Obj) : VoiceMembers where
  vWriter := stream.createWriter
  aspInputInteractionHandler := some { interactionManager := guiManager }
  thunderVoiceHandler := some
    { audioInputStream := stream
      writer := stream.createWriter
      isInitialized := stream.createWriter.isSome }
  guiManager := guiManager

/-- The voice path stays once `initVoice` has set it. -/
theorem initRest_voice {env : InitEnv} {stream : AudioInputStream} (t : SmartScreen)
    (h : env.sharedDataStream = some stream) :
    voice (initRest env t).2 = newVoice stream env.guiManager := by
  -- What follows `initVoice` sets nothing of the voice path.
  have hrest : ∀ _ : Unit,
      Keeps voice (initClient env >>= fun _ => Script.ret true : InitM Unit) :=
    fun _ => Keeps.bind (initClient_keeps env) fun _ => Keeps.ret true
  have hbind : voice (initRest env t).2 = voice (initVoice env t).2 :=
    proj_bind_of_keeps hrest t
  rw [hbind, initVoice_run env t stream h]
  rfl

/-- An attempt that returns true came to `initVoice`, and there was a `GUIManager`. -/
theorem reachesVoice_of_true {env : InitEnv} {s : SmartScreen}
    (h : (init env s).1 = .ret true) :
    ReachesVoice env s.audioMediaPlayerPool ∧ ∃ manager, env.guiManager = some manager := by
  obtain ⟨hconfig, appConfig, hentry, hbody⟩ := (init_true_iff env s).mp h
  simp only [bodyLines, guards_append, passes_append, Bool.and_eq_true] at hbody
  obtain ⟨hplayers, hgui, hnetwork, hvoice, -⟩ := hbody
  refine ⟨⟨hconfig, appConfig, hentry, ?_⟩, ?_⟩
  · simp only [frontLines, guards_append, passes_append, hplayers, hgui, hnetwork,
      Bool.and_self]
  · simp only [voiceLines, check, guards, passes_cons, Guard.holds, passes_nil,
      Bool.and_true] at hvoice
    exact Option.isSome_iff_exists.mp hvoice

/-- The smart screen after one attempt. -/
def attempt (s : SmartScreen) (env : InitEnv) : SmartScreen := (init env s).2

/-- What an attempt makes of the members, however it leaves.

* The lists grow by the additions before the failing test.
* The voice path is that of the entry, unless `Init` comes to `initVoice`.
* From there on it is a new one: the interaction handler holds the result of
  `GUIManager::create`, and `v_writer` is the writer of the new voice handler.
* An attempt that returns true has bound the handler to the new `GUIManager`, and it has a
  writer if the stream gave one. -/
structure AttemptMembers (s : SmartScreen) (env : InitEnv) : Prop where
  lists : ∀ k : MemberList,
    k.of (attempt s env) = k.of s ++ added k (initLines env s.audioMediaPlayerPool)
  voice_kept : ¬ ReachesVoice env s.audioMediaPlayerPool → voice (attempt s env) = voice s
  voice_new : ReachesVoice env s.audioMediaPlayerPool →
    ∃ stream, env.sharedDataStream = some stream ∧
      voice (attempt s env) = newVoice stream env.guiManager
  bound : (init env s).1 = .ret true → ∃ manager, env.guiManager = some manager ∧
    (attempt s env).guiManager = some manager ∧
    (attempt s env).aspInputInteractionHandler = some { interactionManager := some manager }
  writer : (init env s).1 = .ret true → ∀ stream writer,
    env.sharedDataStream = some stream → stream.createWriter = some writer →
    (attempt s env).vWriter = some writer

/-- One attempt, from any state. -/
theorem attemptMembers (s : SmartScreen) (env : InitEnv) : AttemptMembers s env := by
  have hnew : ReachesVoice env s.audioMediaPlayerPool →
      ∃ stream, env.sharedDataStream = some stream ∧
        voice (attempt s env) = newVoice stream env.guiManager := by
    intro hreach
    -- What stands behind `initVoice` assigns no voice member.
    obtain ⟨stream, t, hstream, -, hinit⟩ := init_of_reached hreach
    refine ⟨stream, hstream, ?_⟩
    unfold attempt
    rw [hinit]
    exact initRest_voice t hstream
  refine ⟨(init_logs env s).adds, fun hnot => ?_, hnew, fun htrue => ?_, fun htrue => ?_⟩
  · exact congrArg LateMembers.voice (init_of_not_reached hnot)
  · -- An attempt that returned true has found a `GUIManager`.
    obtain ⟨hreach, manager, hmanager⟩ := reachesVoice_of_true htrue
    obtain ⟨stream, -, hvoice⟩ := hnew hreach
    rw [hmanager] at hvoice
    exact ⟨manager, hmanager, congrArg VoiceMembers.guiManager hvoice,
      congrArg VoiceMembers.aspInputInteractionHandler hvoice⟩
  · intro stream writer hstream hwriter
    -- It has come to `initVoice`, with the stream of the environment.
    obtain ⟨stream', hstream', hvoice⟩ := hnew (reachesVoice_of_true htrue).1
    obtain rfl : stream = stream' := Option.some.inj (hstream.symm.trans hstream')
    rw [← hwriter]
    exact congrArg VoiceMembers.vWriter hvoice

/-- What the attempts `envs` add to the list `k`, one after another. -/
def addedOver (k : MemberList) : SmartScreen → List InitEnv → List Obj
  | _, [] => []
  | s, env :: envs =>
    added k (initLines env s.audioMediaPlayerPool) ++ addedOver k (attempt s env) envs

/-- Over any number of attempts the lists only grow. -/
theorem attempts_lists (k : MemberList) (s : SmartScreen) (envs : List InitEnv) :
    k.of (run attempt s envs) = k.of s ++ addedOver k s envs := by
  induction envs generalizing s with
  | nil => exact (List.append_nil _).symm
  | cons env envs ih =>
    rw [run_cons, ih, (attemptMembers s env).lists k, List.append_assoc]
    rfl

/-- For every configuration, everything that the SDK returns, and any number of attempts
one after another: each attempt makes of the members what `AttemptMembers` says, and the
lists hold the additions of all of them. -/
theorem init_members (s : SmartScreen) (envs : List InitEnv) :
    EachStep attempt AttemptMembers s envs ∧
      ∀ k : MemberList, k.of (run attempt s envs) = k.of s ++ addedOver k s envs :=
  ⟨eachStep_of_forall attemptMembers s envs, fun k => attempts_lists k s envs⟩

/-- The client is missing, so the attempt returns false. The player that it made is in the
pool, and a second attempt adds another one. The smart screen has a writer and a bound
handler, as after a success. -/
theorem failed_attempt_keeps_members :
    (init { fullEnv (smallConfig 1 ['6']) with client := none } .new).1 = .ret false ∧
    (attempt .new { fullEnv (smallConfig 1 ['6']) with client := none }).audioMediaPlayerPool
      = [100] ∧
    (run attempt .new [{ fullEnv (smallConfig 1 ['6']) with client := none },
      { fullEnv (smallConfig 1 ['6']) with client := none }]).audioMediaPlayerPool
      = [100, 100] ∧
    (attempt .new { fullEnv (smallConfig 1 ['6']) with client := none }).vWriter
      = some ⟨31⟩ ∧
    (attempt .new { fullEnv (smallConfig 1 ['6']) with
      client := none }).aspInputInteractionHandler = some ⟨some 32⟩ := by
  refine ⟨rfl, rfl, rfl, rfl, rfl⟩

end XrSpeechAvs.Proofs
