import XrSpeechAvs.Proofs.CacheNumbers
import XrSpeechAvs.Proofs.InitFaults

/-!
# `XrSpeechAvs.Proofs.InitOutcome`: when `Init` succeeds, and when a retry can

`init_complete_iff` has everything that an attempt of `Init` needs to return true, as one
list of conditions on the environment and the pool at the entry (`Complete`).

The pool is all that an attempt sees of earlier ones. It looks at it once, where it takes the
first player. A configured pool size of zero or below makes no player. Then a first attempt
faults, and an attempt that finds the players of an earlier one goes on.
`retry_outcome_iff` says that this is the only difference.
-/

set_option autoImplicit false

namespace XrSpeechAvs.Proofs

open XrSpeechAvs.Impl
open XrSpeechAvs.Lib

/-! ### What a successful attempt needs -/

/-- None of these is null. -/
def Present (objs : List (Option Obj)) : Prop := ∀ obj ∈ objs, obj.isSome = true

/-- The configuration has a number that fits into a `long` for the key, or the default is
one. -/
def HasNumber (env : InitEnv) (appConfig : AppConfig) (key : String) (default : Text) : Prop :=
  ∃ n : Numeral, n.text = appConfig.getString key default ∧ FitsLong env.longBits n.value

/-- Everything that an attempt needs to return true, for the pool at the entry. -/
structure Complete (env : InitEnv) (pool : List Obj) (appConfig : AppConfig) : Prop where
  files : env.configInFileGood = true ∧ env.ssConfigGood = true
  sdk : Present [env.avsBuilder, env.avsAppFactory, env.sdkInit]
  entry : env.configEntry = some appConfig
  speaker : env.speakerInterface.isSome = true
  loop : ∀ index < (poolSize (appConfig.child SAMPLE_APP_CONFIG_KEY)).toNat,
    (env.audioMediaInterfaces index).isSome = true
  firstPlayer : pool ≠ [] ∨ 0 < poolSize (appConfig.child SAMPLE_APP_CONFIG_KEY)
  factory : (appAudioPlayerFactory env).isSome = true
  players : ∀ interfaces ∈ [env.notificationInterface, env.btInterface, env.rtInterface,
    env.alertInterface, env.appSystemAudioInterface], interfaces.isSome = true
  gui : Present [env.appLocaleManager, env.appCustDataManager, env.guiClient, env.appDevInfo,
    env.delAuth, env.capabilitiesDelegate]
  cachePeriod : HasNumber env appConfig CONTENT_CACHE_REUSE_PERIOD_IN_SECONDS_KEY
    DEFAULT_CONTENT_CACHE_REUSE_PERIOD_IN_SECONDS
  cacheSize : HasNumber env appConfig CONTENT_CACHE_MAX_SIZE_KEY DEFAULT_CONTENT_CACHE_MAX_SIZE
  network : Present [env.appICMonitor, env.appCtxtManager, env.appGWMStorage, env.appGWManager,
    env.appSyncFactory]
  stream : env.sharedDataStream.isSome = true
  guiManager : env.guiManager.isSome = true
  client : Present [env.client, env.shutdownManager, env.registrationManager,
    env.registrationManagerAgain]
  starts : env.guiClientStarts = true

/-- Nothing is missing in the empty list. -/
@[simp] theorem present_nil : Present [] := by
  intro obj hobj
  cases hobj

/-- Nothing is missing when the first object is there and none of the rest is missing. -/
@[simp] theorem present_cons (obj : Option Obj) (objs : List (Option Obj)) :
    Present (obj :: objs) ↔ obj.isSome = true ∧ Present objs := List.forall_mem_cons

/-- The number is there when `stol` reads one. -/
theorem hasNumber_iff (env : InitEnv) (appConfig : AppConfig) (key : String) (default : Text) :
    HasNumber env appConfig key default ↔
      (stol env.longBits (appConfig.getString key default)).isSome = true := by
  rw [Option.isSome_iff_exists]
  constructor
  · rintro ⟨n, htext, hfits⟩
    exact ⟨n.value, stol_eq_some_iff.mpr ⟨n, htext, rfl, hfits⟩⟩
  · rintro ⟨value, hvalue⟩
    obtain ⟨n, htext, rfl, hfits⟩ := stol_eq_some_iff.mp hvalue
    exact ⟨n, htext, hfits⟩

/-- The tests of the first part. -/
theorem passes_configLines (env : InitEnv) : passes (guards (configLines env)) = true ↔
    (env.configInFileGood = true ∧ env.ssConfigGood = true) ∧
      Present [env.avsBuilder, env.avsAppFactory, env.sdkInit] := by
  simp [configLines, check, need, Guard.holds, and_assoc]

/-- The test of one player. -/
theorem passes_playerLines (interfaces : Option ApplicationMediaInterfaces)
    (toPool : Obj → List Obj) :
    passes (guards (playerLines interfaces toPool)) = interfaces.isSome := by
  simp [playerLines, check, Guard.holds]

/-- The tests of the players. -/
theorem passes_playersLines (env : InitEnv) (config : ConfigurationNode) (pool : List Obj) :
    passes (guards (playersLines env config pool)) = true ↔
      env.speakerInterface.isSome = true ∧
      (∀ index < (poolSize config).toNat, (env.audioMediaInterfaces index).isSome = true) ∧
      (pool ≠ [] ∨ 0 < poolSize config) ∧ (appAudioPlayerFactory env).isSome = true ∧
      ∀ interfaces ∈ [env.notificationInterface, env.btInterface, env.rtInterface,
        env.alertInterface, env.appSystemAudioInterface], interfaces.isSome = true := by
  have hloop := passes_poolLines env 0 (poolSize config).toNat
  simp only [Nat.zero_add] at hloop
  have hpool : (!pool.isEmpty || decide (0 < poolSize config)) = true
      ↔ pool ≠ [] ∨ 0 < poolSize config := by
    cases pool <;> simp
  simp only [playersLines, check, need, guards_append, guards_guard, passes_append, passes_cons,
    passes_playerLines, Guard.holds, Bool.and_eq_true, hloop, hpool, List.forall_mem_cons,
    List.not_mem_nil, false_imp_iff, implies_true, and_true]

/-- The tests of the GUI client. -/
theorem passes_guiLines (env : InitEnv) (appConfig : AppConfig) :
    passes (guards (guiLines env appConfig)) = true ↔
      Present [env.appLocaleManager, env.appCustDataManager, env.guiClient, env.appDevInfo,
        env.delAuth, env.capabilitiesDelegate] ∧
      HasNumber env appConfig CONTENT_CACHE_REUSE_PERIOD_IN_SECONDS_KEY
        DEFAULT_CONTENT_CACHE_REUSE_PERIOD_IN_SECONDS ∧
      HasNumber env appConfig CONTENT_CACHE_MAX_SIZE_KEY DEFAULT_CONTENT_CACHE_MAX_SIZE := by
  simp only [hasNumber_iff, guiLines, check, need, guards, passes_cons, passes_nil, Guard.holds,
    Bool.and_eq_true, present_cons, present_nil, and_true]
  tauto

/-- The tests of the connection objects. -/
theorem passes_networkLines (env : InitEnv) : passes (guards (networkLines env)) = true ↔
    Present [env.appICMonitor, env.appCtxtManager, env.appGWMStorage, env.appGWManager,
      env.appSyncFactory] ∧ env.sharedDataStream.isSome = true := by
  simp [networkLines, check, Guard.holds, and_assoc]

/-- The tests of the client. -/
theorem passes_clientLines (env : InitEnv) : passes (guards (clientLines env)) = true ↔
    Present [env.client, env.shutdownManager, env.registrationManager,
      env.registrationManagerAgain] ∧ env.guiClientStarts = true := by
  simp only [clientLines, check, need, guards, passes_cons, passes_nil, Guard.holds,
    Bool.and_eq_true, present_cons, present_nil, and_true]
  tauto

/-- For every environment and every smart screen, an attempt returns true exactly when
everything is there and the two texts of the content cache are numbers. -/
theorem init_complete_iff (env : InitEnv) (s : SmartScreen) :
    (init env s).1 = .ret true ↔
      ∃ appConfig, Complete env s.audioMediaPlayerPool appConfig := by
  have hvoice : passes (guards (voiceLines env)) = true ↔ env.guiManager.isSome = true := by
    simp [voiceLines, check, Guard.holds]
  -- An attempt returns true when all its tests pass. What is left is to sort them.
  rw [init_true_iff, passes_configLines]
  simp only [bodyLines, guards_append, passes_append, Bool.and_eq_true, passes_playersLines,
    passes_guiLines, passes_networkLines, passes_clientLines, hvoice]
  constructor
  · rintro ⟨⟨hfiles, hsdk⟩, appConfig, hentry, ⟨hspeaker, hloop, hfirst, hfactory, hplayers⟩,
      ⟨hgui, hperiod, hsize⟩, ⟨hnetwork, hstream⟩, hmanager, hclient, hstarts⟩
    exact ⟨appConfig, hfiles, hsdk, hentry, hspeaker, hloop, hfirst, hfactory, hplayers, hgui,
      hperiod, hsize, hnetwork, hstream, hmanager, hclient, hstarts⟩
  · rintro ⟨appConfig, h⟩
    exact ⟨⟨h.files, h.sdk⟩, appConfig, h.entry,
      ⟨h.speaker, h.loop, h.firstPlayer, h.factory, h.players⟩,
      ⟨h.gui, h.cachePeriod, h.cacheSize⟩, ⟨h.network, h.stream⟩, h.guiManager, h.client,
      h.starts⟩

/-! ### A retry -/

/-- The tests in front of the first player. -/
def guardsToPool (env : InitEnv) (appConfig : AppConfig) : List (Guard Bool InitFault) :=
  guards (configLines env) ++ (guards (playerLines env.speakerInterface fun _ => [])
    ++ guards (poolLines env 0 (poolSize (appConfig.child SAMPLE_APP_CONFIG_KEY)).toNat))

/-- The tests behind the first player. -/
def guardsFromPool (env : InitEnv) (appConfig : AppConfig) : List (Guard Bool InitFault) :=
  guards (check (appAudioPlayerFactory env).isSome
      :: (playerLines env.notificationInterface (fun _ => [])
    ++ (playerLines env.btInterface (fun _ => []) ++ (playerLines env.rtInterface (fun _ => [])
    ++ (playerLines env.alertInterface (fun _ => [])
    ++ playerLines env.appSystemAudioInterface (fun _ => []))))))
    ++ (guards (guiLines env appConfig) ++ (guards (networkLines env)
    ++ (guards (voiceLines env) ++ (guards (clientLines env) ++ [.check false true]))))

/-- The first player is one test among the others. -/
theorem guards_initLines {env : InitEnv} {appConfig : AppConfig}
    (h : env.configEntry = some appConfig) (pool : List Obj) :
    guards (initLines env pool) = guardsToPool env appConfig
      ++ .need (!pool.isEmpty || decide (0 < poolSize (appConfig.child SAMPLE_APP_CONFIG_KEY)))
        .emptyPool :: guardsFromPool env appConfig := by
  rw [initLines, h]
  simp only [guardsToPool, guardsFromPool, bodyLines, playersLines, need, check, guards_append,
    guards_guard, guards_nil, List.append_assoc, List.cons_append]

/-- The tests of a player never read the pool. -/
theorem neverFaults_playerLines (interfaces : Option ApplicationMediaInterfaces)
    (toPool : Obj → List Obj) :
    NeverFaults .emptyPool (guards (playerLines interfaces toPool)) := by
  simp [playerLines, check]

/-- The loop that fills the pool never reads its front. -/
theorem neverFaults_poolLines (env : InitEnv) (index left : Nat) :
    NeverFaults .emptyPool (guards (poolLines env index left)) := by
  induction left generalizing index with
  | zero => exact neverFaults_nil _
  | succ left ih =>
    show NeverFaults _ (guards (playerLines _ _ ++ poolLines env (index + 1) left))
    rw [guards_append, neverFaults_append]
    exact ⟨neverFaults_playerLines _ _, ih (index + 1)⟩

/-- No test in front of the first player faults like it. -/
theorem neverFaults_guardsToPool (env : InitEnv) (appConfig : AppConfig) :
    NeverFaults .emptyPool (guardsToPool env appConfig) := by
  simp [guardsToPool, configLines, check, need, neverFaults_playerLines, neverFaults_poolLines]

/-- No test behind it does. -/
theorem neverFaults_guardsFromPool (env : InitEnv) (appConfig : AppConfig) :
    NeverFaults .emptyPool (guardsFromPool env appConfig) := by
  simp [guardsFromPool, guiLines, networkLines, voiceLines, clientLines, check, need,
    neverFaults_playerLines]

/-- The tests end as they do on an empty pool, unless they would fault on that one and the pool
is not empty. -/
theorem verdict_pool_iff (env : InitEnv) (pool : List Obj) :
    verdict (guards (initLines env pool)) = verdict (guards (initLines env [])) ↔
      pool = [] ∨ verdict (guards (initLines env [])) ≠ .fault .emptyPool := by
  cases hentry : env.configEntry with
  | none =>
    -- The attempt does not come to the pool.
    have hsame : ∀ pool, guards (initLines env pool)
        = guards (configLines env) ++ [.check false false] := by
      intro pool
      rw [initLines, hentry, guards_append]
      rfl
    have hnever : NeverFaults .emptyPool (guards (configLines env) ++ [.check false false]) := by
      simp [configLines, check, need]
    rw [hsame, hsame]
    exact iff_of_true rfl (Or.inr (verdict_ne_fault hnever))
  | some appConfig =>
    rw [guards_initLines hentry, guards_initLines hentry]
    have hmono := verdict_need_mono_iff (neverFaults_guardsToPool env appConfig)
      (neverFaults_guardsFromPool env appConfig)
      (decide (0 < poolSize (appConfig.child SAMPLE_APP_CONFIG_KEY)))
      (!pool.isEmpty)
    have hpool : (!pool.isEmpty) = false ↔ pool = [] := by
      simp
    rw [hpool] at hmono
    exact hmono

/-- An attempt leaves like a first one that does not fault on the empty pool. -/
theorem outcome_of_first {env : InitEnv} (h : (init env .new).1 ≠ .fault .emptyPool)
    (s : SmartScreen) : (init env s).1 = (init env .new).1 := by
  rw [init_leaves] at h
  rw [init_leaves, init_leaves]
  exact (verdict_pool_iff env s.audioMediaPlayerPool).mpr (Or.inr h)

end XrSpeechAvs.Proofs
