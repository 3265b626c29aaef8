import XrSpeechAvs.Proofs.InitLines

/-!
# `XrSpeechAvs.Proofs.InitFaults`: when `SmartScreen::Init` ends

`Init` tests most of what the SDK returns before it uses it. It uses the rest first: the
builder is used above its test, the factory and the registration manager are never tested,
the first player of the pool is read whether there is one or not, and `std::stol` throws on
a text that is no number.

`InitSafe` says when none of this happens, in terms of the configuration and of what the
SDK returns.

* `faultFree_initLines`: the needs of `Init` are met exactly when it is `InitSafe`.
* `init_decides_iff`: `Init` then ends with true or false, and only then. It ends with true
  only when everything was there.
* `init_does_not_decide`: inputs on which it ends otherwise.
-/

set_option autoImplicit false

namespace XrSpeechAvs.Proofs

open XrSpeechAvs.Impl
open XrSpeechAvs.Lib

/-! ### What `Init` gets hold of on its way -/

/-- `Init` comes to the first player of the pool. Everything before it was there, and the
loop has made all of its players. -/
def ReachesPool (env : InitEnv) (appConfig : AppConfig) : Prop :=
  passes (guards (configLines env)) = true ∧ env.configEntry = some appConfig ∧
    env.speakerInterface.isSome = true ∧
    ∀ index < (poolSize (appConfig.child SAMPLE_APP_CONFIG_KEY)).toNat,
      (env.audioMediaInterfaces index).isSome = true

/-- `Init` comes to the texts of the content cache. -/
def ReachesCache (env : InitEnv) (appConfig : AppConfig) (pool : List Obj) : Prop :=
  passes (guards (configLines env)) = true ∧ env.configEntry = some appConfig ∧
    passes (guards (playersLines env (appConfig.child SAMPLE_APP_CONFIG_KEY) pool)) = true ∧
    env.appLocaleManager.isSome = true ∧ env.appCustDataManager.isSome = true ∧
    env.guiClient.isSome = true

/-- `Init` comes to the registration manager of the client. -/
def ReachesRegistration (env : InitEnv) (appConfig : AppConfig) (pool : List Obj) : Prop :=
  passes (guards (configLines env)) = true ∧ env.configEntry = some appConfig ∧
    passes (guards (playersLines env (appConfig.child SAMPLE_APP_CONFIG_KEY) pool)) = true ∧
    passes (guards (guiLines env appConfig)) = true ∧
    passes (guards (networkLines env)) = true ∧ env.guiManager.isSome = true ∧
    env.client.isSome = true ∧ env.shutdownManager.isSome = true

/-- The text of a key of the content cache is a number that `std::stol` accepts. -/
def CacheNumber (env : InitEnv) (appConfig : AppConfig) (key : String) (default : Text) :
    Prop := (stol env.longBits (appConfig.getString key default)).isSome = true

/-- Whatever `Init` uses without a test is there when `Init` comes to it. -/
structure InitSafe (env : InitEnv) (pool : List Obj) : Prop where
  builder : env.configInFileGood = true → env.ssConfigGood = true →
    env.avsBuilder.isSome = true
  factory : env.configInFileGood = true → env.ssConfigGood = true →
    env.avsBuilder.isSome = true → env.avsAppFactory.isSome = true
  firstPlayer : ∀ appConfig, ReachesPool env appConfig →
    pool ≠ [] ∨ 0 < poolSize (appConfig.child SAMPLE_APP_CONFIG_KEY)
  cachePeriod : ∀ appConfig, ReachesCache env appConfig pool →
    CacheNumber env appConfig CONTENT_CACHE_REUSE_PERIOD_IN_SECONDS_KEY
      DEFAULT_CONTENT_CACHE_REUSE_PERIOD_IN_SECONDS
  cacheSize : ∀ appConfig, ReachesCache env appConfig pool →
    CacheNumber env appConfig CONTENT_CACHE_MAX_SIZE_KEY DEFAULT_CONTENT_CACHE_MAX_SIZE
  registrationManager : ∀ appConfig, ReachesRegistration env appConfig pool →
    env.registrationManager.isSome = true
  registrationManagerAgain : ∀ appConfig, ReachesRegistration env appConfig pool →
    env.guiClientStarts = true → env.registrationManagerAgain.isSome = true

/-! ### The needs of each part -/

/-- The builder is needed behind the two files, and the factory behind the builder. -/
theorem faultFree_configLines (env : InitEnv) :
    FaultFree (guards (configLines env)) ↔
      (env.configInFileGood = true → env.ssConfigGood = true →
        env.avsBuilder.isSome = true) ∧
      (env.configInFileGood = true → env.ssConfigGood = true →
        env.avsBuilder.isSome = true → env.avsAppFactory.isSome = true) := by
  simp only [configLines, check, need, guards, FaultFree]
  tauto

/-- A player is tested and never needed. -/
theorem faultFree_playerLines (interfaces : Option ApplicationMediaInterfaces)
    (toPool : Obj → List Obj) : FaultFree (guards (playerLines interfaces toPool)) := by
  simp [playerLines, check, FaultFree]

/-- A player of the pool is tested and never needed. -/
theorem faultFree_poolLines (env : InitEnv) (index left : Nat) :
    FaultFree (guards (poolLines env index left)) := by
  induction left generalizing index with
  | zero => trivial
  | succ left ih =>
    show FaultFree (guards (playerLines _ _ ++ poolLines env (index + 1) left))
    rw [guards_append, faultFree_append]
    exact ⟨faultFree_playerLines _ _, fun _ => ih (index + 1)⟩

/-- The loop passes its tests when it makes each of its players. -/
theorem passes_poolLines (env : InitEnv) (index left : Nat) :
    passes (guards (poolLines env index left)) = true
      ↔ ∀ k < left, (env.audioMediaInterfaces (index + k)).isSome = true := by
  induction left generalizing index with
  | zero => simp [poolLines]
  | succ left ih =>
    have hsplit : poolLines env index (left + 1)
        = playerLines (env.audioMediaInterfaces index) (fun player => [player])
          ++ poolLines env (index + 1) left := rfl
    rw [hsplit, guards_append, passes_append, Bool.and_eq_true, ih]
    have hfirst : passes (guards (playerLines (env.audioMediaInterfaces index)
        fun player => [player])) = (env.audioMediaInterfaces index).isSome := by
      simp [playerLines, check, Guard.holds]
    rw [hfirst]
    -- The first player is the one at `index`, and the tail is about those behind it.
    constructor
    · rintro ⟨h0, h⟩ k hk
      cases k with
      | zero => exact h0
      | succ k =>
        have hk' := h k (by omega)
        rwa [Nat.add_right_comm] at hk'
    · intro h
      refine ⟨h 0 (by omega), fun k hk => ?_⟩
      have hk' := h (k + 1) (by omega)
      rwa [← Nat.add_assoc, Nat.add_right_comm] at hk'

/-- The front of the pool is read behind the loop that fills it, so the pool must not be empty
there. -/
theorem faultFree_playersLines (env : InitEnv) (config : ConfigurationNode)
    (pool : List Obj) :
    FaultFree (guards (playersLines env config pool)) ↔
      (env.speakerInterface.isSome = true →
        (∀ index < (poolSize config).toNat, (env.audioMediaInterfaces index).isSome = true) →
        pool ≠ [] ∨ 0 < poolSize config) := by
  have hspeak : passes (guards (playerLines env.speakerInterface fun _ => []))
      = env.speakerInterface.isSome := by
    simp [playerLines, check, Guard.holds]
  have hloop := passes_poolLines env 0 (poolSize config).toNat
  simp only [Nat.zero_add] at hloop
  -- The players after the pool have no need.
  have hpool : (!pool.isEmpty || decide (0 < poolSize config)) = true
      ↔ pool ≠ [] ∨ 0 < poolSize config := by
    cases pool <;> simp
  simp only [playersLines, guards_append, faultFree_append, faultFree_playerLines,
    faultFree_poolLines, hspeak, hloop, need, check, guards_guard, FaultFree, hpool, true_and,
    implies_true, and_true]

/-- The two numbers of the content cache are needed. -/
theorem faultFree_guiLines (env : InitEnv) (appConfig : AppConfig) :
    FaultFree (guards (guiLines env appConfig)) ↔
      (env.appLocaleManager.isSome = true → env.appCustDataManager.isSome = true →
        env.guiClient.isSome = true →
        CacheNumber env appConfig CONTENT_CACHE_REUSE_PERIOD_IN_SECONDS_KEY
          DEFAULT_CONTENT_CACHE_REUSE_PERIOD_IN_SECONDS ∧
        CacheNumber env appConfig CONTENT_CACHE_MAX_SIZE_KEY
          DEFAULT_CONTENT_CACHE_MAX_SIZE) := by
  simp only [guiLines, check, need, guards, FaultFree, CacheNumber, implies_true, and_true]

/-- The network part has tests only. -/
theorem faultFree_networkLines (env : InitEnv) : FaultFree (guards (networkLines env)) := by
  simp [networkLines, check, FaultFree]

/-- The voice part has tests only. -/
theorem faultFree_voiceLines (env : InitEnv) : FaultFree (guards (voiceLines env)) := by
  simp [voiceLines, check, FaultFree]

/-- The registration manager is needed twice. -/
theorem faultFree_clientLines (env : InitEnv) :
    FaultFree (guards (clientLines env)) ↔
      (env.client.isSome = true → env.shutdownManager.isSome = true →
        env.registrationManager.isSome = true ∧
        (env.guiClientStarts = true → env.registrationManagerAgain.isSome = true)) := by
  simp only [clientLines, check, need, guards, FaultFree, and_true]

/-! ### The whole of `Init` -/

/-- The needs of the body, each after the tests in front of it. -/
theorem faultFree_bodyLines (env : InitEnv) (appConfig : AppConfig) (pool : List Obj) :
    FaultFree (guards (bodyLines env appConfig pool)) ↔
      FaultFree (guards (playersLines env (appConfig.child SAMPLE_APP_CONFIG_KEY) pool)) ∧
      (passes (guards (playersLines env (appConfig.child SAMPLE_APP_CONFIG_KEY) pool)) = true →
        FaultFree (guards (guiLines env appConfig)) ∧
        (passes (guards (guiLines env appConfig)) = true →
          passes (guards (networkLines env)) = true → env.guiManager.isSome = true →
          FaultFree (guards (clientLines env)))) := by
  have hvoice : passes (guards (voiceLines env)) = env.guiManager.isSome := by
    simp [voiceLines, check, Guard.holds]
  simp only [bodyLines, guards_append, faultFree_append, hvoice, faultFree_networkLines,
    faultFree_voiceLines, true_and]

/-- `Init` meets its needs exactly when it is safe. -/
theorem faultFree_initLines (env : InitEnv) (pool : List Obj) :
    FaultFree (guards (initLines env pool)) ↔ InitSafe env pool := by
  rw [initLines, guards_append, faultFree_append, faultFree_configLines]
  cases hentry : env.configEntry with
  | none =>
    -- `Init` returns at the entry, so nothing behind it counts.
    have hno : ∀ appConfig, env.configEntry ≠ some appConfig := by simp [hentry]
    constructor
    · rintro ⟨⟨hbuilder, hfactory⟩, -⟩
      exact ⟨hbuilder, hfactory, fun c h => absurd h.2.1 (hno c),
        fun c h => absurd h.2.1 (hno c), fun c h => absurd h.2.1 (hno c),
        fun c h => absurd h.2.1 (hno c), fun c h => absurd h.2.1 (hno c)⟩
    · intro h
      exact ⟨⟨h.builder, h.factory⟩, fun _ hfalse => by cases hfalse⟩
  | some appConfig =>
    -- The return at the end is no need.
    have hreturn : FaultFree (guards (bodyLines env appConfig pool
        ++ [.guard (.check false true)])) ↔ FaultFree (guards (bodyLines env appConfig pool)) := by
      rw [guards_append, faultFree_append]
      exact and_iff_left fun _ hfalse => by cases hfalse
    show _ ∧ (_ → FaultFree (guards (bodyLines env appConfig pool ++ _))) ↔ _
    rw [hreturn, faultFree_bodyLines, faultFree_playersLines, faultFree_guiLines,
      faultFree_clientLines]
    have hsame : ∀ c, env.configEntry = some c → appConfig = c := by
      intro c hc
      exact Option.some.inj (hentry.symm.trans hc)
    constructor
    · rintro ⟨⟨hbuilder, hfactory⟩, hbody⟩
      refine ⟨hbuilder, hfactory, ?_, ?_, ?_, ?_, ?_⟩
      · rintro c ⟨hconfig, hc, hspeak, hloop⟩
        obtain rfl := hsame c hc
        exact (hbody hconfig).1 hspeak hloop
      · rintro c ⟨hconfig, hc, hplayers, hlocale, hcust, hgui⟩
        obtain rfl := hsame c hc
        exact (((hbody hconfig).2 hplayers).1 hlocale hcust hgui).1
      · rintro c ⟨hconfig, hc, hplayers, hlocale, hcust, hgui⟩
        obtain rfl := hsame c hc
        exact (((hbody hconfig).2 hplayers).1 hlocale hcust hgui).2
      · rintro c ⟨hconfig, hc, hplayers, hgui, hnetwork, hmanager, hclient, hshutdown⟩
        obtain rfl := hsame c hc
        exact (((hbody hconfig).2 hplayers).2 hgui hnetwork hmanager hclient hshutdown).1
      · rintro c ⟨hconfig, hc, hplayers, hgui, hnetwork, hmanager, hclient, hshutdown⟩
        obtain rfl := hsame c hc
        exact (((hbody hconfig).2 hplayers).2 hgui hnetwork hmanager hclient hshutdown).2
    · intro h
      refine ⟨⟨h.builder, h.factory⟩, fun hconfig => ⟨fun hspeak hloop => ?_,
        fun hplayers => ⟨fun hlocale hcust hgui => ?_,
          fun hgui hnetwork hmanager hclient hshutdown => ?_⟩⟩⟩
      · exact h.firstPlayer appConfig ⟨hconfig, hentry, hspeak, hloop⟩
      · exact ⟨h.cachePeriod appConfig ⟨hconfig, hentry, hplayers, hlocale, hcust, hgui⟩,
          h.cacheSize appConfig ⟨hconfig, hentry, hplayers, hlocale, hcust, hgui⟩⟩
      · have hreach : ReachesRegistration env appConfig pool :=
          ⟨hconfig, hentry, hplayers, hgui, hnetwork, hmanager, hclient, hshutdown⟩
        exact ⟨h.registrationManager appConfig hreach,
          h.registrationManagerAgain appConfig hreach⟩

/-- Everything that `Init` uses without a test in front is there. -/
structure AllThere (env : InitEnv) (pool : List Obj) : Prop where
  builder : env.avsBuilder.isSome = true
  factory : env.avsAppFactory.isSome = true
  entry : ∃ appConfig, env.configEntry = some appConfig ∧
    (pool ≠ [] ∨ 0 < poolSize (appConfig.child SAMPLE_APP_CONFIG_KEY)) ∧
    CacheNumber env appConfig CONTENT_CACHE_REUSE_PERIOD_IN_SECONDS_KEY
      DEFAULT_CONTENT_CACHE_REUSE_PERIOD_IN_SECONDS ∧
    CacheNumber env appConfig CONTENT_CACHE_MAX_SIZE_KEY DEFAULT_CONTENT_CACHE_MAX_SIZE
  registrationManager : env.registrationManager.isSome = true
  registrationManagerAgain : env.registrationManagerAgain.isSome = true

/-- An attempt that returns true has found everything. -/
theorem allThere_of_true {env : InitEnv} {s : SmartScreen} (h : (init env s).1 = .ret true) :
    AllThere env s.audioMediaPlayerPool := by
  obtain ⟨hconfig, appConfig, hentry, hbody⟩ := (init_true_iff env s).mp h
  simp only [bodyLines, guards_append, passes_append, Bool.and_eq_true] at hbody
  obtain ⟨hplayers, hgui, -, -, hclient⟩ := hbody
  -- Each part has passed, so each of its tests holds.
  simp only [configLines, check, need, guards, passes_cons, Guard.holds, passes_nil,
    Bool.and_eq_true] at hconfig
  obtain ⟨-, -, hbuilder, -, hfactory, -⟩ := hconfig
  simp only [playersLines, check, need, guards_append, guards_guard, passes_append, passes_cons,
    Guard.holds, Bool.and_eq_true, Bool.or_eq_true, Bool.not_eq_true', List.isEmpty_eq_false_iff,
    decide_eq_true_eq] at hplayers
  obtain ⟨-, -, hpool, -⟩ := hplayers
  simp only [guiLines, check, need, guards, passes_cons, Guard.holds, passes_nil,
    Bool.and_eq_true] at hgui
  obtain ⟨-, -, -, hperiod, hsize, -⟩ := hgui
  simp only [clientLines, check, need, guards, passes_cons, Guard.holds, passes_nil,
    Bool.and_eq_true] at hclient
  obtain ⟨-, -, hregistration, -, hagain, -⟩ := hclient
  exact ⟨hbuilder, hfactory, ⟨appConfig, hentry, hpool, hperiod, hsize⟩, hregistration, hagain⟩

/-- `Init` does not go on past its last return. -/
theorem init_ne_next (env : InitEnv) (s : SmartScreen) : (init env s).1 ≠ .next () := by
  rw [init_leaves, ne_eq, verdict_eq_next_iff, initLines, guards_append, passes_append]
  cases env.configEntry with
  | none => simp [check, Guard.holds]
  | some appConfig => simp [Guard.holds]

/-- `Init` ends with true or false, and with true only when everything was there. -/
def Decides (env : InitEnv) (s : SmartScreen) : Prop :=
  ∃ r, (init env s).1 = .ret r ∧ (r = true → AllThere env s.audioMediaPlayerPool)

/-- For every configuration, everything that the SDK returns, and every state at the entry:
`Init` ends with true or false, and with false when something it uses is missing, exactly
when it is `InitSafe`. -/
theorem init_decides_iff (env : InitEnv) (s : SmartScreen) :
    Decides env s ↔ InitSafe env s.audioMediaPlayerPool := by
  -- To decide is to leave without a fault, since `Init` does not go on past its end.
  rw [← faultFree_initLines, ← verdict_ne_fault_iff, ← init_leaves]
  constructor
  · rintro ⟨r, hr, -⟩ f
    rw [hr]
    exact fun hfault => by cases hfault
  · intro h
    cases hr : (init env s).1 with
    | next u => exact absurd hr (init_ne_next env s)
    | fault f => exact absurd hr (h f)
    | ret r =>
      refine ⟨r, hr, ?_⟩
      rintro rfl
      exact allThere_of_true hr

/-! ### Inputs on which `Init` does not end -/

/-- A pool size of zero, a cache period that is no number, a builder that is null, a factory
that is null, and a client without a registration manager. -/
theorem init_does_not_decide :
    (init (fullEnv (smallConfig 0 ['6'])) .new).1 = .fault .emptyPool ∧
    (init (fullEnv (smallConfig 1 ['x'])) .new).1 = .fault .uncaughtException ∧
    (init { fullEnv (smallConfig 1 ['6']) with avsBuilder := none } .new).1
      = .fault .nullDereference ∧
    (init { fullEnv (smallConfig 1 ['6']) with avsAppFactory := none } .new).1
      = .fault .nullDereference ∧
    (init { fullEnv (smallConfig 1 ['6']) with registrationManager := none } .new).1
      = .fault .nullDereference ∧
    (init (fullEnv (smallConfig 1 ['6'])) .new).1 = .ret true := by
  refine ⟨?_, ?_, ?_, ?_, ?_, ?_⟩ <;> rfl

end XrSpeechAvs.Proofs
