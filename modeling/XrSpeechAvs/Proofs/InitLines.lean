import XrSpeechAvs.Impl.Init

/-!
# `XrSpeechAvs.Proofs.InitLines`: `SmartScreen::Init` as a list of lines

Three things happen along `Init`: a test that may end it, an addition to one of two lists
(the player pool, and the objects to shut down), and an assignment to another member. The
first two are the `initLines` of an attempt, in program order. `init_logs` says that they
are right: `Init` leaves at the first test that fails, and each list grows by the additions
before it. Nothing is ever taken back.

The tests depend on the environment, and on whether the pool had a player at the entry.
-/

set_option autoImplicit false

namespace XrSpeechAvs.Proofs

open XrSpeechAvs.Impl
open XrSpeechAvs.Lib

/-- The member lists that `Init` adds to. -/
inductive MemberList where
  | audioMediaPlayerPool
  | shutdownRequiredList
  deriving DecidableEq, Repr

/-- The list of a smart screen. -/
def MemberList.of : MemberList → SmartScreen → List Obj
  | .audioMediaPlayerPool, s => s.audioMediaPlayerPool
  | .shutdownRequiredList, s => s.shutdownRequiredList

/-- A line of `Init`. -/
abbrev InitLine := Line Bool InitFault MemberList Obj

/-- A `check` line: `Init` returns false when `b` does not hold. -/
def check (b : Bool) : InitLine := .guard (.check b false)

/-- A `need` line: `Init` faults when `b` does not hold. -/
def need (b : Bool) (f : InitFault) : InitLine := .guard (.need b f)

/-- The lines of one media player. `toPool` is what the assignment of the player adds to the
pool. -/
def playerLines (interfaces : Option ApplicationMediaInterfaces) (toPool : Obj → List Obj) :
    List InitLine :=
  [check interfaces.isSome,
    .add .shutdownRequiredList (interfaces.elim [] ApplicationMediaInterfaces.requiresShutdown),
    .add .audioMediaPlayerPool (interfaces.elim [] fun i => toPool i.mediaPlayer)]

/-- The lines of `initConfig`. -/
def configLines (env : InitEnv) : List InitLine :=
  [check env.configInFileGood, check env.ssConfigGood,
    need env.avsBuilder.isSome .nullDereference, check env.avsBuilder.isSome,
    .add .shutdownRequiredList env.componentShutdown,
    need env.avsAppFactory.isSome .nullDereference, check env.sdkInit.isSome]

/-- The lines of the pool loop. -/
def poolLines (env : InitEnv) (index : Nat) : (left : Nat) → List InitLine
  | 0 => []
  | left + 1 =>
    playerLines (env.audioMediaInterfaces index) (fun player => [player])
      ++ poolLines env (index + 1) left

/-- The lines of `initPlayers`, for the pool at the entry. The first player of the pool is
there when the pool had one, or when the loop makes one. -/
def playersLines (env : InitEnv) (config : ConfigurationNode) (pool : List Obj) :
    List InitLine :=
  playerLines env.speakerInterface (fun _ => [])
    ++ (poolLines env 0 (poolSize config).toNat
    ++ (need (!pool.isEmpty || decide (0 < poolSize config)) .emptyPool
      :: check (appAudioPlayerFactory env).isSome
      :: (playerLines env.notificationInterface (fun _ => [])
    ++ (playerLines env.btInterface (fun _ => [])
    ++ (playerLines env.rtInterface (fun _ => [])
    ++ (playerLines env.alertInterface (fun _ => [])
    ++ playerLines env.appSystemAudioInterface (fun _ => [])))))))

/-- The lines of `initGui`. -/
def guiLines (env : InitEnv) (appConfig : AppConfig) : List InitLine :=
  [check env.appLocaleManager.isSome, check env.appCustDataManager.isSome,
    check env.guiClient.isSome,
    need (stol env.longBits (appConfig.getString CONTENT_CACHE_REUSE_PERIOD_IN_SECONDS_KEY
      DEFAULT_CONTENT_CACHE_REUSE_PERIOD_IN_SECONDS)).isSome .uncaughtException,
    need (stol env.longBits (appConfig.getString CONTENT_CACHE_MAX_SIZE_KEY
      DEFAULT_CONTENT_CACHE_MAX_SIZE)).isSome .uncaughtException,
    check env.appDevInfo.isSome, check env.delAuth.isSome,
    check env.capabilitiesDelegate.isSome,
    .add .shutdownRequiredList env.capabilitiesDelegate.toList]

/-- The lines of `initNetwork`. -/
def networkLines (env : InitEnv) : List InitLine :=
  [check env.appICMonitor.isSome, check env.appCtxtManager.isSome,
    check env.appGWMStorage.isSome, check env.appGWManager.isSome,
    check env.appSyncFactory.isSome, check env.sharedDataStream.isSome]

/-- The lines of `initVoice`. The tests of the two handlers hold, so what is left is the
test of the `GUIManager` that the interaction handler is bound to. -/
def voiceLines (env : InitEnv) : List InitLine := [check env.guiManager.isSome]

/-- The lines of `initClient`. The `GUIManager` is there, and so is the input manager. -/
def clientLines (env : InitEnv) : List InitLine :=
  [check env.client.isSome, check env.shutdownManager.isSome,
    need env.registrationManager.isSome .nullDereference, check env.guiClientStarts,
    need env.registrationManagerAgain.isSome .nullDereference]

/-- The lines between the test of the configuration entry and the last return. -/
def bodyLines (env : InitEnv) (appConfig : AppConfig) (pool : List Obj) : List InitLine :=
  playersLines env (appConfig.child SAMPLE_APP_CONFIG_KEY) pool
    ++ (guiLines env appConfig ++ (networkLines env ++ (voiceLines env ++ clientLines env)))

/-- The lines of `Init`, for the pool at the entry. The last one returns true. -/
def initLines (env : InitEnv) (pool : List Obj) : List InitLine :=
  configLines env ++ match env.configEntry with
    | none => [check false]
    | some appConfig => bodyLines env appConfig pool ++ [.guard (.check false true)]

/-! ### The parts -/

/-- The configuration part has its lines. -/
theorem initConfig_logs (env : InitEnv) (s : SmartScreen) :
    Logs MemberList.of (initConfig env) s (configLines env) := by
  refine Logs.check_then fun _ => Logs.check_then fun _ => Logs.need_then fun _ =>
    Logs.check_then fun _ => ?_
  refine Logs.add_then (fun k => by cases k <;> simp [MemberList.of]) ?_
  exact Logs.need_then fun _ => Logs.modify_then (fun k => by cases k <;> rfl)
    (Logs.check _ _)

/-- A media player: the test, its objects to shut down, and what its assignment adds to the
pool. -/
theorem createMediaPlayer_logs {assign : Obj → SmartScreen → SmartScreen}
    {toPool : Obj → List Obj}
    (hpool : ∀ player s, (assign player s).audioMediaPlayerPool
      = s.audioMediaPlayerPool ++ toPool player)
    (hshutdown : ∀ player s, (assign player s).shutdownRequiredList = s.shutdownRequiredList)
    (interfaces : Option ApplicationMediaInterfaces) (s : SmartScreen) :
    Logs MemberList.of (createMediaPlayer interfaces assign) s
      (playerLines interfaces toPool) := by
  cases interfaces with
  -- The test fails, and nothing behind it is reached.
  | none => exact ⟨rfl, fun k => (List.append_nil _).symm⟩
  | some i =>
    refine ⟨rfl, fun k => ?_⟩
    cases k with
    | audioMediaPlayerPool =>
      show (assign i.mediaPlayer _).audioMediaPlayerPool = _
      -- The assignment adds to the pool what `toPool` says.
      rw [hpool]
      simp [playerLines, check, Guard.holds, MemberList.of]
    | shutdownRequiredList =>
      show (assign i.mediaPlayer _).shutdownRequiredList = _
      -- The objects to shut down are added in front of the assignment.
      rw [hshutdown]
      simp [playerLines, check, Guard.holds, MemberList.of]

/-- A media player that does not go into the pool. -/
theorem otherPlayer_logs {assign : Obj → SmartScreen → SmartScreen}
    (h : ∀ player s k, MemberList.of k (assign player s) = MemberList.of k s)
    (interfaces : Option ApplicationMediaInterfaces) (s : SmartScreen) :
    Logs MemberList.of (createMediaPlayer interfaces assign) s
      (playerLines interfaces fun _ => []) :=
  createMediaPlayer_logs
    (fun player s => (h player s .audioMediaPlayerPool).trans (List.append_nil _).symm)
    (fun player s => h player s .shutdownRequiredList) interfaces s

/-- The pool loop logs the players that it makes. -/
theorem createAudioPlayers_logs (env : InitEnv) (index left : Nat) (s : SmartScreen) :
    Logs MemberList.of (createAudioPlayers env index left) s (poolLines env index left) := by
  induction left generalizing index s with
  | zero => exact Logs.done ()
  | succ left ih =>
    refine Logs.seq (createMediaPlayer_logs ?_ ?_ _ s) fun _ => ih (index + 1) _
    · exact fun _ _ => rfl
    · exact fun _ _ => rfl

/-- A player that is not for the pool adds nothing to it. -/
theorem added_playerLines (interfaces : Option ApplicationMediaInterfaces) :
    added .audioMediaPlayerPool (playerLines interfaces fun _ => []) = [] := by
  cases interfaces <;> simp [playerLines, check, Guard.holds]

/-- A pool loop that passes its tests has made all of its players. -/
theorem length_added_poolLines (env : InitEnv) (index left : Nat)
    (h : passes (guards (poolLines env index left)) = true) :
    (added .audioMediaPlayerPool (poolLines env index left)).length = left := by
  induction left generalizing index with
  | zero => rfl
  | succ left ih =>
    have hsplit : poolLines env index (left + 1)
        = playerLines (env.audioMediaInterfaces index) (fun player => [player])
          ++ poolLines env (index + 1) left := rfl
    rw [hsplit, guards_append, passes_append, Bool.and_eq_true] at h
    obtain ⟨hfirst, hrest⟩ := h
    rw [hsplit, added_append, hfirst, if_pos rfl, List.length_append, ih (index + 1) hrest]
    -- The first player was made, because its test passed.
    cases hi : env.audioMediaInterfaces index with
    | none =>
      rw [hi] at hfirst
      cases hfirst
    | some i =>
      have hone : added MemberList.audioMediaPlayerPool
          (playerLines (some i) fun player => [player]) = [i.mediaPlayer] := by
        simp [playerLines, check, Guard.holds]
      rw [hone, List.length_singleton]
      omega

/-- After the speaker and the loop, the pool has a first player when it had one at the entry
or when the loop was not empty. -/
theorem isEmpty_pool_append (pool players : List Obj) (size : Int)
    (h : players.length = size.toNat) :
    (!(pool ++ players).isEmpty) = (!pool.isEmpty || decide (0 < size)) := by
  cases pool with
  | cons player pool => rfl
  | nil =>
    have hiff : players ≠ [] ↔ 0 < size := by
      rw [← List.length_pos_iff, h]
      omega
    cases players with
    | nil => simpa using hiff
    | cons player players => simpa using hiff

/-- The players have their lines, for the pool at the entry. -/
theorem initPlayers_logs (env : InitEnv) (config : ConfigurationNode) (s : SmartScreen) :
    Logs MemberList.of (initPlayers env config) s
      (playersLines env config s.audioMediaPlayerPool) := by
  unfold initPlayers playersLines
  -- The speaker leaves the pool as it was at the entry.
  have hspeak : Logs MemberList.of (createMediaPlayer env.speakerInterface fun player s =>
      { s with speakMediaPlayer := some player }) s
      (playerLines env.speakerInterface fun _ => []) :=
    otherPlayer_logs (fun player s k => by cases k <;> rfl) _ s
  have hpool := hspeak.adds .audioMediaPlayerPool
  rw [added_playerLines, List.append_nil] at hpool
  refine Logs.seq hspeak fun _ => ?_
  generalize ((createMediaPlayer env.speakerInterface fun player s =>
    { s with speakMediaPlayer := some player }) s).2 = t at hpool ⊢
  -- The loop adds its players to that pool.
  have hloop := createAudioPlayers_logs env 0 (poolSize config).toNat t
  have hafter := hloop.adds .audioMediaPlayerPool
  rw [hpool] at hafter
  refine Logs.seq hloop fun hpass => ?_
  generalize (createAudioPlayers env 0 (poolSize config).toNat t).2 = u at hafter ⊢
  -- The first player of the pool that the loop has left.
  have hfirst : (!u.audioMediaPlayerPool.isEmpty)
      = (!s.audioMediaPlayerPool.isEmpty || decide (0 < poolSize config)) :=
    (congrArg (fun pool => !List.isEmpty pool) hafter).trans
      (isEmpty_pool_append _ _ _ (length_added_poolLines env 0 _ hpass))
  rw [← hfirst]
  refine Logs.withState_then (Logs.need_then fun _ => Logs.check_then fun _ => ?_)
  -- The five players behind the pool go into members of their own.
  refine Logs.seq (otherPlayer_logs ?_ _ _) fun _ => ?_
  · exact fun player s k => by cases k <;> rfl
  refine Logs.seq (otherPlayer_logs ?_ _ _) fun _ => ?_
  · exact fun player s k => by cases k <;> rfl
  refine Logs.seq (otherPlayer_logs ?_ _ _) fun _ => ?_
  · exact fun player s k => by cases k <;> rfl
  refine Logs.seq (otherPlayer_logs ?_ _ _) fun _ => otherPlayer_logs ?_ _ _
  · exact fun player s k => by cases k <;> rfl
  · exact fun player s k => by cases k <;> rfl

/-- The GUI part has its lines. -/
theorem initGui_logs (env : InitEnv) (appConfig : AppConfig) (s : SmartScreen) :
    Logs MemberList.of (initGui env appConfig) s (guiLines env appConfig) := by
  refine Logs.check_then fun _ => Logs.check_then fun _ => ?_
  refine Logs.modify_then (fun k => by cases k <;> rfl) ?_
  refine Logs.check_then fun _ => Logs.need_then fun _ => Logs.need_then fun _ => ?_
  refine Logs.modify_then (fun k => by cases k <;> rfl) ?_
  refine Logs.check_then fun _ => Logs.check_then fun _ => ?_
  refine Logs.modify_then (fun k => by cases k <;> rfl) ?_
  -- The delegate is tested, and then added to the objects to shut down.
  cases hdelegate : env.capabilitiesDelegate with
  | none => exact ⟨rfl, fun k => (List.append_nil _).symm⟩
  | some delegate =>
    refine ⟨rfl, fun k => ?_⟩
    cases k with
    | audioMediaPlayerPool => exact (List.append_nil _).symm
    | shutdownRequiredList => rfl

/-- The network part has its lines. -/
theorem initNetwork_logs (env : InitEnv) (s : SmartScreen) :
    Logs MemberList.of (initNetwork env) s (networkLines env) :=
  Logs.check_then fun _ => Logs.check_then fun _ => Logs.check_then fun _ =>
    Logs.check_then fun _ => Logs.check_then fun _ => Logs.check _ _

/-- The members that `initVoice` sets, on a stream. The interaction handler is bound to what
`GUIManager::create` returned. -/
def withVoice (s : SmartScreen) (stream : AudioInputStream) (guiManager : Option Obj) :
    SmartScreen :=
  { s with
    aspInputInteractionHandler := some { interactionManager := guiManager }
    thunderVoiceHandler := some
      { audioInputStream := stream
        writer := stream.createWriter
        isInitialized := stream.createWriter.isSome }
    vWriter := stream.createWriter
    guiManager := guiManager }

/-- With a stream, `initVoice` sets its members, and it returns when there is no
`GUIManager`. -/
theorem initVoice_run (env : InitEnv) (s : SmartScreen) (stream : AudioInputStream)
    (h : env.sharedDataStream = some stream) :
    initVoice env s
      = (verdict (guards (voiceLines env)), withVoice s stream env.guiManager) := by
  unfold initVoice
  rw [h, ThunderVoiceHandler.create_of_isCompatible stream appAudioFormat
    isCompatible_appAudioFormat]
  cases hg : env.guiManager with
  | none => simp only [voiceLines, hg]; rfl
  | some manager => simp only [voiceLines, hg]; rfl

/-- The voice part has its lines, on a stream. -/
theorem initVoice_logs (env : InitEnv) (s : SmartScreen) (stream : AudioInputStream)
    (h : env.sharedDataStream = some stream) :
    Logs MemberList.of (initVoice env) s (voiceLines env) := by
  refine ⟨by rw [initVoice_run env s stream h], fun k => ?_⟩
  rw [initVoice_run env s stream h]
  have hnone : added k (voiceLines env) = [] := by
    simp [voiceLines, check]
  rw [hnone, List.append_nil]
  cases k <;> rfl

/-- The client part has its lines, with a `GUIManager`. -/
theorem initClient_logs (env : InitEnv) (s : SmartScreen) (manager : Obj)
    (h : s.guiManager = some manager) :
    Logs MemberList.of (initClient env) s (clientLines env) := by
  refine Logs.check_then fun _ => Logs.withState_then (Logs.need_of_holds (by rw [h]; rfl) ?_)
  refine Logs.modify_then (fun k => by cases k <;> rfl) (Logs.check_then fun _ => ?_)
  refine Logs.modify_then (fun k => by cases k <;> rfl) ?_
  -- `ThunderInputManager::create` refuses a null `GUIManager` only.
  have hcreate : (ThunderInputManager.create s.guiManager env.ioParse).isSome = true := by
    rw [h]
    rfl
  refine Logs.withState_then (Logs.check_of_holds hcreate ?_)
  refine Logs.need_then fun _ => Logs.check_then fun _ => Logs.need_then fun _ => ?_
  exact Logs.modify_last fun k => by cases k <;> rfl

/-! ### The whole of `Init` -/

/-- The parts after the test of the configuration entry. -/
def initBody (env : InitEnv) (appConfig : AppConfig) : InitM Unit := do
  initPlayers env (appConfig.child SAMPLE_APP_CONFIG_KEY)
  initGui env appConfig
  initNetwork env
  initVoice env
  initClient env

/-- The last test of `initNetwork` is the one of the stream. -/
theorem stream_of_network {env : InitEnv}
    (h : passes (guards (networkLines env)) = true) :
    ∃ stream, env.sharedDataStream = some stream := by
  simp [networkLines, check, Guard.holds] at h
  exact Option.isSome_iff_exists.mp h.2.2.2.2.2

/-- The parts behind the configuration entry have the lines of the body. -/
theorem initBody_logs (env : InitEnv) (appConfig : AppConfig) (s : SmartScreen) :
    Logs MemberList.of (initBody env appConfig) s
      (bodyLines env appConfig s.audioMediaPlayerPool) := by
  refine Logs.seq (initPlayers_logs env _ s) fun _ => ?_
  refine Logs.seq (initGui_logs env appConfig _) fun _ => ?_
  refine Logs.seq (initNetwork_logs env _) fun hnetwork => ?_
  -- The network part has passed, so there is a stream.
  obtain ⟨stream, hstream⟩ := stream_of_network hnetwork
  refine Logs.seq (initVoice_logs env _ stream hstream) fun hvoice => ?_
  -- The handler was bound, so there is a `GUIManager`.
  obtain ⟨manager, hmanager⟩ : ∃ manager, env.guiManager = some manager := by
    simp [voiceLines, check, Guard.holds] at hvoice
    exact Option.isSome_iff_exists.mp hvoice
  refine initClient_logs env _ manager ?_
  rw [initVoice_run env _ stream hstream]
  exact hmanager

/-- The first part leaves the pool alone. -/
theorem initConfig_pool (env : InitEnv) (s : SmartScreen) :
    (initConfig env s).2.audioMediaPlayerPool = s.audioMediaPlayerPool := by
  have hadds := (initConfig_logs env s).adds .audioMediaPlayerPool
  have hnone : added MemberList.audioMediaPlayerPool (configLines env) = [] := by
    simp [configLines, check, need]
  rw [hnone, List.append_nil] at hadds
  exact hadds

/-- `Init` leaves at the first of its lines that fails, and its lists grow by the additions
before that line. -/
theorem init_logs (env : InitEnv) (s : SmartScreen) :
    Logs MemberList.of (init env) s (initLines env s.audioMediaPlayerPool) := by
  refine Logs.seq (initConfig_logs env s) fun hconfig => ?_
  cases hentry : env.configEntry with
  | none => exact ⟨rfl, fun k => (List.append_nil _).symm⟩
  | some appConfig =>
    have hbody := initBody_logs env appConfig (initConfig env s).2
    rw [initConfig_pool env s] at hbody
    -- `Init` ends with a return after the last part of its body.
    have hinit : Logs MemberList.of (initBody env appConfig >>= fun _ => Script.ret true)
        (initConfig env s).2 (bodyLines env appConfig s.audioMediaPlayerPool
          ++ [.guard (.check false true)]) := Logs.seq hbody fun _ => Logs.return_last true
    unfold initBody at hinit
    simp only [Script.bind_assoc] at hinit
    exact ⟨hinit.leaves, hinit.adds⟩

/-- How `Init` leaves, by the verdicts of its lines. -/
theorem init_leaves (env : InitEnv) (s : SmartScreen) :
    (init env s).1 = verdict (guards (initLines env s.audioMediaPlayerPool)) :=
  (init_logs env s).leaves

/-! ### The return at the end -/

/-- A missing player makes `Init` return false. -/
theorem returnsOnly_playerLines (interfaces : Option ApplicationMediaInterfaces)
    (toPool : Obj → List Obj) : ReturnsOnly false (guards (playerLines interfaces toPool)) := by
  simp [playerLines, check]

/-- A missing player of the pool makes `Init` return false. -/
theorem returnsOnly_poolLines (env : InitEnv) (index left : Nat) :
    ReturnsOnly false (guards (poolLines env index left)) := by
  induction left generalizing index with
  | zero => exact returnsOnly_nil false
  | succ left ih =>
    show ReturnsOnly false (guards (playerLines _ _ ++ poolLines env (index + 1) left))
    rw [guards_append, returnsOnly_append]
    exact ⟨returnsOnly_playerLines _ _, ih (index + 1)⟩

/-- No test of the body returns true. -/
theorem returnsOnly_bodyLines (env : InitEnv) (appConfig : AppConfig) (pool : List Obj) :
    ReturnsOnly false (guards (bodyLines env appConfig pool)) := by
  simp [bodyLines, playersLines, guiLines, networkLines, voiceLines, clientLines, check, need,
    returnsOnly_playerLines, returnsOnly_poolLines]

/-- `Init` returns true exactly when all of its tests hold. -/
theorem init_true_iff (env : InitEnv) (s : SmartScreen) :
    (init env s).1 = .ret true ↔ passes (guards (configLines env)) = true ∧
      ∃ appConfig, env.configEntry = some appConfig ∧
        passes (guards (bodyLines env appConfig s.audioMediaPlayerPool)) = true := by
  rw [init_leaves, initLines, guards_append, verdict_append]
  -- Only the last line returns true, so every line in front of it has to pass.
  by_cases hconfig : passes (guards (configLines env)) = true
  · rw [if_pos hconfig]
    cases hentry : env.configEntry with
    | none => simp [check]
    | some appConfig =>
      show verdict (guards (bodyLines env appConfig _ ++ _)) = _ ↔ _
      rw [guards_append, verdict_append]
      by_cases hbody : passes (guards (bodyLines env appConfig s.audioMediaPlayerPool)) = true
      · simp [hconfig, hbody]
      · have hne : verdict (guards (bodyLines env appConfig s.audioMediaPlayerPool))
            ≠ .ret true := verdict_ne_ret (returnsOnly_bodyLines env appConfig _) (by decide)
        simp [hbody, hne]
  · rw [if_neg hconfig]
    have hne : verdict (guards (configLines env)) ≠ .ret true :=
      verdict_ne_ret (r := false) (by simp [configLines, check, need]) (by decide)
    simp [hconfig, hne]

/-! ### A complete environment -/

/-- A configuration whose pool size and cache period are as given. Nothing else is set. -/
def smallConfig (size : Int) (period : Text) : AppConfig where
  ints := fun _ => none
  strings := fun key =>
    if key = CONTENT_CACHE_REUSE_PERIOD_IN_SECONDS_KEY then some period else none
  child := fun _ =>
    { ints := fun key => if key = AUDIO_MEDIAPLAYER_POOL_SIZE_KEY then some size else none
      strings := fun _ => none }

/-- An environment in which nothing is missing. -/
def fullEnv (appConfig : AppConfig) : InitEnv where
  configInFileGood := true
  ssConfigGood := true
  avsBuilder := some 1
  componentShutdown := [2]
  avsAppFactory := some 3
  sdkInit := some 4
  configEntry := some appConfig
  speakerInterface := some ⟨5, [6]⟩
  audioMediaInterfaces := fun index => some ⟨100 + index, [200 + index]⟩
  fingerprintHasValue := true
  pooledFactoryWithFingerprint := some 7
  pooledFactory := some 8
  notificationInterface := some ⟨9, [10]⟩
  btInterface := some ⟨11, [12]⟩
  rtInterface := some ⟨13, [14]⟩
  alertInterface := some ⟨15, [16]⟩
  appSystemAudioInterface := some ⟨17, [18]⟩
  appLocaleManager := some 19
  appCustDataManager := some 20
  guiClient := some 21
  longBits := 32
  aplClientBridge := fun _ => some 22
  appDevInfo := some 23
  delAuth := some 24
  capabilitiesDelegate := some 25
  appICMonitor := some 26
  appCtxtManager := some 27
  appGWMStorage := some 28
  appGWManager := some 29
  appSyncFactory := some 30
  sharedDataStream := some ⟨some ⟨31⟩⟩
  guiManager := some 32
  client := some 33
  shutdownManager := some 34
  ioParse := 0
  registrationManager := some 35
  registrationManagerAgain := some 36
  guiClientStarts := true

end XrSpeechAvs.Proofs
