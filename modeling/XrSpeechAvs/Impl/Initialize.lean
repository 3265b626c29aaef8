import XrSpeechAvs.Impl.Init

/-!
# `XrSpeechAvs.Impl.Initialize`: `SmartScreen::Initialize` and the SDK logs

`Initialize` takes three strings that the build defines: the log level and the paths of two
configuration files. It sets up the SDK logs, tests the strings, and calls `Init`.

The levels and `convertNameToLevel` belong to the SDK, so they are parameters (`LoggerSdk`).
The model keeps the calls that reach the logger, and the calls of `Init`.
-/

set_option autoImplicit false

namespace XrSpeechAvs.Impl

open XrSpeechAvs.Lib

variable {Level : Type}

/-- What the code uses of the SDK's log levels. -/
structure LoggerSdk (Level : Type) where
  UNKNOWN : Level
  convertNameToLevel : Text → Level

/-- A call that sets up the SDK logs. -/
inductive LoggerCall (Level : Type) where
  /-- `thunderLogger->setLevel(level)`. -/
  | setLevel (level : Level)
  /-- `LoggerSinkManager::instance().initialize(thunderLogger)`. -/
  | installSink
  deriving DecidableEq, Repr

/-- What `Initialize` acts on: the smart screen, and the calls it has made so far. -/
structure Startup (Level : Type) where
  screen : SmartScreen
  loggerCalls : List (LoggerCall Level) := []
  /-- The arguments of the calls of `Init`. -/
  initCalls : List (Text × Text) := []

/-- `std::transform` with `std::toupper`, in the C locale. -/
def toUpper (text : Text) : Text := text.map Char.toUpper

/-- `SmartScreen::InitSDKLogs`. -/
def initSDKLogs [DecidableEq Level] (sdk : LoggerSdk Level) (logLevel : Text)
    (s : Startup Level) : Bool × Startup Level :=
  let logLevelUpper := toUpper logLevel
  let (status, logLevelValue) :=
    if logLevelUpper.isEmpty = false then
      let logLevelValue := sdk.convertNameToLevel logLevelUpper
      (if sdk.UNKNOWN = logLevelValue then false else true, logLevelValue)
    else (false, sdk.UNKNOWN)
  let s := if status = true then
      { s with loggerCalls := s.loggerCalls ++ [.setLevel logLevelValue, .installSink] }
    else s
  -- `return status` stands under `#if 0`.
  (true, s)

/-- `SmartScreen::Initialize`, for the three strings of the build. `env` is what `Init`
finds under the two paths. -/
def SmartScreen.initializeWith [DecidableEq Level] (sdk : LoggerSdk Level)
    (env : Text → Text → InitEnv) (logLevel alexaClientConfig smartScreenConfig : Text)
    (s : Startup Level) : Leaves Bool InitFault Unit × Startup Level :=
  let (status, s) := if logLevel.isEmpty = true then (false, s) else initSDKLogs sdk logLevel s
  let status :=
    if status = true ∧ alexaClientConfig.isEmpty = true then false else status
  let status :=
    if status = true ∧ smartScreenConfig.isEmpty = true then false else status
  if status = true then
    let (outcome, screen) := init (env alexaClientConfig smartScreenConfig) s.screen
    (outcome, { s with
      screen := screen
      initCalls := s.initCalls ++ [(alexaClientConfig, smartScreenConfig)] })
  else (.ret status, s)

/-- `InitSDKLogs` on any string. It reports success, and it sets up the logs when the
upper-case name is the one of a level. -/
theorem initSDKLogs_run_eq [DecidableEq Level] (sdk : LoggerSdk Level) (logLevel : Text)
    (s : Startup Level) : initSDKLogs sdk logLevel s =
      (true, if toUpper logLevel ≠ [] ∧
          sdk.convertNameToLevel (toUpper logLevel) ≠ sdk.UNKNOWN then
        { s with loggerCalls := s.loggerCalls ++
          [.setLevel (sdk.convertNameToLevel (toUpper logLevel)), .installSink] }
        else s) := by
  unfold initSDKLogs
  by_cases hempty : toUpper logLevel = []
  · simp [hempty]
  · by_cases hunknown : sdk.UNKNOWN = sdk.convertNameToLevel (toUpper logLevel)
    · simp [hempty, ← hunknown]
    · simp [hempty, hunknown, Ne.symm hunknown]

/-- `Initialize` on any three strings: `Init` is called when none of them is empty. -/
theorem SmartScreen.initializeWith_run_eq [DecidableEq Level] (sdk : LoggerSdk Level)
    (env : Text → Text → InitEnv) (logLevel alexaClientConfig smartScreenConfig : Text)
    (s : Startup Level) :
    initializeWith sdk env logLevel alexaClientConfig smartScreenConfig s =
      (let logged := if logLevel = [] then s else (initSDKLogs sdk logLevel s).2
      if logLevel ≠ [] ∧ alexaClientConfig ≠ [] ∧ smartScreenConfig ≠ [] then
        ((init (env alexaClientConfig smartScreenConfig) logged.screen).1, { logged with
          screen := (init (env alexaClientConfig smartScreenConfig) logged.screen).2
          initCalls := logged.initCalls ++ [(alexaClientConfig, smartScreenConfig)] })
      else (.ret false, logged)) := by
  unfold initializeWith
  by_cases hlevel : logLevel = []
  · simp [hlevel]
  · simp only [initSDKLogs_run_eq]
    by_cases halexa : alexaClientConfig = [] <;> by_cases hsmart : smartScreenConfig = [] <;>
      simp [hlevel, halexa, hsmart]

end XrSpeechAvs.Impl
