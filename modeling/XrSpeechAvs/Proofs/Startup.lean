import Mathlib.Data.Set.Basic
import XrSpeechAvs.Impl.Initialize
import XrSpeechAvs.Proofs.InitLines

/-!
# `XrSpeechAvs.Proofs.Startup`: the verdict of `Initialize`

`Initialize` threads one status through four tests, and `InitSDKLogs` computes a part of
it. Its `return status` is compiled out with the block before it, so `InitSDKLogs` always
reports success. A log level that is no level then passes as a good one: the logs are not
set up, and `Init` is called.

* `initSDKLogs_lawful_iff` is the law of `InitSDKLogs` alone.
* `initialize_lawful_iff` is the law of `Initialize` for all three strings.
* `unknown_level_passes` is a level name against it.

The SDK is taken to return `UNKNOWN` exactly for the texts that are not the name of another
level, and the empty text is no name.
-/

set_option autoImplicit false

namespace XrSpeechAvs.Proofs

open XrSpeechAvs.Impl
open XrSpeechAvs.Lib

section
variable {Level : Type} [DecidableEq Level] (sdk : LoggerSdk Level)

/-- `InitSDKLogs` reports success and has set the level and installed the sink, or it
reports a failure and has done neither. -/
def LogsLaw (logLevel : Text) (s : Startup Level) : Prop :=
  let run := initSDKLogs sdk logLevel s
  (run.1 = true ∧ ∃ level, run.2.loggerCalls = s.loggerCalls ++ [.setLevel level, .installSink])
    ∨ (run.1 = false ∧ run.2.loggerCalls = s.loggerCalls)

/-- The law of `Initialize`. `Init` is called exactly for the name of a level and two
non-empty paths, the result is true exactly when `Init` was called and returned true, and
`InitSDKLogs` keeps its own law where it is called. -/
structure InitializeLaw (levelNames : Set Text) (env : Text → Text → InitEnv)
    (logLevel alexaClientConfig smartScreenConfig : Text) (s : Startup Level) : Prop where
  called : (SmartScreen.initializeWith sdk env logLevel alexaClientConfig smartScreenConfig
      s).2.initCalls = s.initCalls ++ [(alexaClientConfig, smartScreenConfig)]
    ↔ toUpper logLevel ∈ levelNames ∧ alexaClientConfig ≠ [] ∧ smartScreenConfig ≠ []
  returned : (SmartScreen.initializeWith sdk env logLevel alexaClientConfig smartScreenConfig
      s).1 = .ret true
    ↔ (SmartScreen.initializeWith sdk env logLevel alexaClientConfig smartScreenConfig
        s).2.initCalls = s.initCalls ++ [(alexaClientConfig, smartScreenConfig)] ∧
      (init (env alexaClientConfig smartScreenConfig) s.screen).1 = .ret true
  logs : logLevel ≠ [] → LogsLaw sdk logLevel s

/-- The logs leave the smart screen and the calls of `Init` alone. -/
theorem initSDKLogs_screen (logLevel : Text) (s : Startup Level) :
    (initSDKLogs sdk logLevel s).2.screen = s.screen ∧
      (initSDKLogs sdk logLevel s).2.initCalls = s.initCalls := by
  rw [initSDKLogs_run_eq]
  split <;> exact ⟨rfl, rfl⟩

/-- What `Initialize` does with `Init`: it is called, on the smart screen as it was, when
none of the strings is empty. Its outcome is then the result. -/
theorem initializeWith_init (env : Text → Text → InitEnv)
    (logLevel alexaClientConfig smartScreenConfig : Text) (s : Startup Level) :
    (logLevel ≠ [] ∧ alexaClientConfig ≠ [] ∧ smartScreenConfig ≠ [] ∧
      (SmartScreen.initializeWith sdk env logLevel alexaClientConfig smartScreenConfig s).1
        = (init (env alexaClientConfig smartScreenConfig) s.screen).1 ∧
      (SmartScreen.initializeWith sdk env logLevel alexaClientConfig smartScreenConfig
        s).2.initCalls = s.initCalls ++ [(alexaClientConfig, smartScreenConfig)]) ∨
    (¬ (logLevel ≠ [] ∧ alexaClientConfig ≠ [] ∧ smartScreenConfig ≠ []) ∧
      (SmartScreen.initializeWith sdk env logLevel alexaClientConfig smartScreenConfig s).1
        = .ret false ∧
      (SmartScreen.initializeWith sdk env logLevel alexaClientConfig smartScreenConfig
        s).2.initCalls = s.initCalls) := by
  rw [SmartScreen.initializeWith_run_eq]
  obtain ⟨hscreen, hcalls⟩ := initSDKLogs_screen sdk logLevel s
  by_cases h : logLevel ≠ [] ∧ alexaClientConfig ≠ [] ∧ smartScreenConfig ≠ []
  · refine Or.inl ⟨h.1, h.2.1, h.2.2, ?_⟩
    simp only [if_neg h.1, if_pos h, hscreen, hcalls, and_self]
  · refine Or.inr ⟨h, ?_⟩
    simp only [if_neg h]
    -- An empty level leaves before the logs, and the other strings are tested behind them.
    by_cases hlevel : logLevel = []
    · simp only [if_pos hlevel, and_self]
    · simp only [if_neg hlevel, hcalls, and_self]

variable {sdk} {levelNames : Set Text}

/-- `InitSDKLogs` keeps its law exactly for the names of levels, because it never reports a
failure. -/
theorem initSDKLogs_lawful_iff
    (hconvert : ∀ name, sdk.convertNameToLevel name = sdk.UNKNOWN ↔ name ∉ levelNames)
    (hempty : [] ∉ levelNames) (logLevel : Text) (s : Startup Level) :
    LogsLaw sdk logLevel s ↔ toUpper logLevel ∈ levelNames := by
  have hname : (toUpper logLevel ≠ [] ∧
      sdk.convertNameToLevel (toUpper logLevel) ≠ sdk.UNKNOWN)
        ↔ toUpper logLevel ∈ levelNames := by
    rw [Ne, Ne, hconvert, not_not]
    refine ⟨fun h => h.2, fun h => ⟨fun hnil => hempty ?_, h⟩⟩
    rw [← hnil]
    exact h
  unfold LogsLaw
  rw [initSDKLogs_run_eq]
  by_cases h : toUpper logLevel ∈ levelNames
  · rw [if_pos (hname.mpr h)]
    exact ⟨fun _ => h, fun _ => Or.inl ⟨rfl, _, rfl⟩⟩
  · rw [if_neg (fun hvalid => h (hname.mp hvalid))]
    refine ⟨fun hlaw => ?_, fun hmem => absurd hmem h⟩
    -- A success without the two calls, or a failure that was not reported.
    obtain ⟨-, level, hcalls⟩ | ⟨hfalse, -⟩ := hlaw
    · simp at hcalls
    · cases hfalse

/-- For every log level and every pair of paths: `Initialize` keeps its law exactly when the
log level is empty, or its upper-case form is the name of a level. -/
theorem initialize_lawful_iff
    (hconvert : ∀ name, sdk.convertNameToLevel name = sdk.UNKNOWN ↔ name ∉ levelNames)
    (hempty : [] ∉ levelNames) (env : Text → Text → InitEnv)
    (logLevel alexaClientConfig smartScreenConfig : Text) (s : Startup Level) :
    InitializeLaw sdk levelNames env logLevel alexaClientConfig smartScreenConfig s
      ↔ logLevel = [] ∨ toUpper logLevel ∈ levelNames := by
  have hlogs := initSDKLogs_lawful_iff hconvert hempty logLevel s
  constructor
  · intro h
    by_cases hlevel : logLevel = []
    · exact Or.inl hlevel
    · exact Or.inr (hlogs.mp (h.logs hlevel))
  · intro h
    -- The name of a level is not empty, so both cases say when the log level is empty.
    have hiff : logLevel ≠ [] ↔ toUpper logLevel ∈ levelNames := by
      rcases h with rfl | hname
      · exact ⟨fun hne => absurd rfl hne, fun hmem => absurd hmem hempty⟩
      · refine ⟨fun _ => hname, ?_⟩
        rintro - rfl
        exact hempty hname
    have hlaw : logLevel ≠ [] → LogsLaw sdk logLevel s := fun hne => hlogs.mpr (hiff.mp hne)
    rcases initializeWith_init sdk env logLevel alexaClientConfig smartScreenConfig s
      with ⟨hlevel, halexa, hsmart, hresult, hcalls⟩ | ⟨hnot, hresult, hcalls⟩
    · refine ⟨?_, ?_, hlaw⟩
      · exact ⟨fun _ => ⟨hiff.mp hlevel, halexa, hsmart⟩, fun _ => hcalls⟩
      · rw [hresult]
        exact ⟨fun htrue => ⟨hcalls, htrue⟩, fun hboth => hboth.2⟩
    · have hno : ¬ (SmartScreen.initializeWith sdk env logLevel alexaClientConfig
          smartScreenConfig s).2.initCalls
            = s.initCalls ++ [(alexaClientConfig, smartScreenConfig)] := by
        rw [hcalls]
        simp
      refine ⟨⟨fun hcalled => absurd hcalled hno, fun hall => ?_⟩, ?_, hlaw⟩
      · exact absurd ⟨hiff.mpr hall.1, hall.2⟩ hnot
      · have hfalse : Leaves.ret false ≠ (Leaves.ret true : Leaves Bool InitFault Unit) := by
          decide
        rw [hresult]
        exact ⟨fun htrue => absurd htrue hfalse, fun hcalled => absurd hcalled.1 hno⟩

end

/-- An SDK with one level besides `UNKNOWN`. -/
inductive SmallLevel where
  | INFO
  | UNKNOWN
  deriving DecidableEq

/-- The name of that level. -/
def infoName : Text := ['I', 'N', 'F', 'O']

/-- `convertNameToLevel` for that level. -/
def smallSdk : LoggerSdk SmallLevel where
  UNKNOWN := .UNKNOWN
  convertNameToLevel name := if name = infoName then .INFO else .UNKNOWN

/-- The small SDK knows one name of a log level. -/
theorem smallSdk_unknown_iff (name : Text) :
    smallSdk.convertNameToLevel name = smallSdk.UNKNOWN ↔ name ∉ ({infoName} : Set Text) := by
  show (if name = infoName then SmallLevel.INFO else .UNKNOWN) = .UNKNOWN ↔ ¬ name = infoName
  by_cases h : name = infoName <;> simp [h]

/-- The empty name is not the one that it knows. -/
theorem nil_not_infoName : [] ∉ ({infoName} : Set Text) := by
  intro h
  have hnil : [] = infoName := h
  cases hnil

/-- Everything is there under every two paths. -/
def smallEnv : Text → Text → InitEnv :=
  fun _ _ => fullEnv (smallConfig 1 DEFAULT_CONTENT_CACHE_REUSE_PERIOD_IN_SECONDS)

/-- The law for the log level `info`, in lower case. -/
theorem initialize_lawful_info :
    InitializeLaw smallSdk {infoName} smallEnv ['i', 'n', 'f', 'o'] ['a'] ['b'] { screen := {} } :=
  (initialize_lawful_iff smallSdk_unknown_iff nil_not_infoName smallEnv _ _ _ _).mpr
    (Or.inr rfl)

/-- The log level `foo` is no level. `InitSDKLogs` reports success without a call to the
logger, `Init` is called, and `Initialize` returns true. -/
theorem unknown_level_passes :
    initSDKLogs smallSdk ['f', 'o', 'o'] { screen := {} } = (true, { screen := {} }) ∧
    (SmartScreen.initializeWith smallSdk smallEnv ['f', 'o', 'o'] ['a'] ['b']
      { screen := {} }).1 = .ret true ∧
    (SmartScreen.initializeWith smallSdk smallEnv ['f', 'o', 'o'] ['a'] ['b']
      { screen := {} }).2.initCalls = [(['a'], ['b'])] ∧
    ¬ InitializeLaw smallSdk {infoName} smallEnv ['f', 'o', 'o'] ['a'] ['b']
      { screen := {} } := by
  have hcalls : (SmartScreen.initializeWith smallSdk smallEnv ['f', 'o', 'o'] ['a'] ['b']
      { screen := {} }).2.initCalls = [(['a'], ['b'])] := rfl
  refine ⟨rfl, rfl, hcalls, fun h => ?_⟩
  have hname : toUpper ['f', 'o', 'o'] = infoName := (h.called.mp hcalls).1
  exact absurd hname (by decide)

end XrSpeechAvs.Proofs
