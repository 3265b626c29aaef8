import XrSpeechAvs.Impl.SmartScreen
import XrSpeechAvs.Lib.Script

/-!
# `XrSpeechAvs.Impl.Init`: `SmartScreen::Init`

`Init` is one long function: about fifty calls into the SDKs, each followed by a null test
or not, with assignments to members in between. The model is a `Script` over the members,
cut into consecutive parts:

* `initConfig`: the two files, the builder, the factory and the SDK;
* `initPlayers`: the media players and the player pool;
* `initGui`: the GUI client, the download cache and the delegates;
* `initNetwork`: the connection objects and the shared data stream;
* `initVoice`: the interaction handler, the voice handler and the `GUIManager`;
* `initClient`: the smart screen client and the input manager.

What the SDK returns is a field of `InitEnv`, one for each call. Objects that `Init` only
passes on, and the observers it registers, are left out. A dereference of a null pointer, a
read of the first element of an empty pool and an uncaught exception are faults.
-/

set_option autoImplicit false

namespace XrSpeechAvs.Impl

open XrSpeechAvs.Lib

/-! ### The configuration -/

/-- A node of the configuration. A value that is missing, or of another type, is `none`. -/
structure ConfigurationNode where
  ints : String → Option Int
  strings : String → Option Text

/-- `ConfigurationNode::getInt` with a default. -/
def ConfigurationNode.getInt (self : ConfigurationNode) (key : String) (default : Int) :
    Int := (self.ints key).getD default

/-- `ConfigurationNode::getString` with a default. -/
def ConfigurationNode.getString (self : ConfigurationNode) (key : String)
    (default : Text) : Text := (self.strings key).getD default

/-- The root node, and its child nodes by key. -/
structure AppConfig extends ConfigurationNode where
  child : String → ConfigurationNode

/-- The key of the child node with the settings of the application. -/
def SAMPLE_APP_CONFIG_KEY : String := "sampleApp"

/-- The key of the size of the player pool. -/
def AUDIO_MEDIAPLAYER_POOL_SIZE_KEY : String := "audioMediaPlayerPoolSize"

/-- The default size of the player pool. -/
def AUDIO_MEDIAPLAYER_POOL_SIZE_DEFAULT : Int := 2

/-- The key of the period in which the content cache is reused. -/
def CONTENT_CACHE_REUSE_PERIOD_IN_SECONDS_KEY : String := "contentCacheReusePeriodInSeconds"

/-- The default period, as a text. -/
def DEFAULT_CONTENT_CACHE_REUSE_PERIOD_IN_SECONDS : Text := ['6', '0', '0']

/-- The key of the size of the content cache. -/
def CONTENT_CACHE_MAX_SIZE_KEY : String := "contentCacheMaxSize"

/-- The default size of the content cache, as a text. -/
def DEFAULT_CONTENT_CACHE_MAX_SIZE : Text := ['5', '0']

/-- The key of the number of concurrent downloads. -/
def MAX_NUMBER_OF_CONCURRENT_DOWNLOAD_CONFIGURATION_KEY : String :=
  "maxNumberOfConcurrentDownloads"

/-- The default number of concurrent downloads. -/
def DEFAULT_MAX_NUMBER_OF_CONCURRENT_DOWNLOAD : Int := 5

/-- `std::isspace` in the C locale. -/
def isSpace (c : Char) : Bool :=
  c = ' ' || c = '\t' || c = '\n' || c = '\r' || c.toNat = 11 || c.toNat = 12

/-- The value of a list of decimal digits. -/
def digitsValue (digits : Text) : Nat :=
  digits.foldl (fun acc c => 10 * acc + (c.toNat - '0'.toNat)) 0

/-- The sign of a number and the text after it. -/
def splitSign : Text → Bool × Text
  | '-' :: rest => (true, rest)
  | '+' :: rest => (false, rest)
  | text => (false, text)

/-- `std::stol` for a `long` of `longBits` bits. It skips white space, reads a sign and
decimal digits, and ignores what follows. `none` is an exception: `invalid_argument` when
there is no digit, `out_of_range` when the value does not fit. -/
def stol (longBits : Nat) (text : Text) : Option Int :=
  let (negative, rest) := splitSign (text.dropWhile isSpace)
  let digits := rest.takeWhile Char.isDigit
  if digits = [] then none
  else
    let value : Int := if negative then -(digitsValue digits : Int) else digitsValue digits
    if -2 ^ (longBits - 1) ≤ value ∧ value < 2 ^ (longBits - 1) then some value else none

/-- The number of concurrent downloads. A value below one is replaced by the default. -/
def maxConcDwls (appConfig : AppConfig) : Int :=
  let maxConcDwls := appConfig.getInt MAX_NUMBER_OF_CONCURRENT_DOWNLOAD_CONFIGURATION_KEY
    DEFAULT_MAX_NUMBER_OF_CONCURRENT_DOWNLOAD
  if 1 > maxConcDwls then DEFAULT_MAX_NUMBER_OF_CONCURRENT_DOWNLOAD else maxConcDwls

/-- The audio format that `Init` declares for the shared data stream. -/
def appAudioFormat : AudioFormat where
  sampleRateHz := 16000
  sampleSizeInBits := WORD_SIZE * 8
  numChannels := 1
  endianness := .LITTLE
  encoding := .LPCM

/-- The declared format is the one that the voice handler accepts. -/
theorem isCompatible_appAudioFormat : isCompatible appAudioFormat = true := rfl

/-! ### The environment of one attempt -/

/-- What `createApplicationMediaPlayer` returns: a player, and what it puts on the list of
objects to shut down. -/
structure ApplicationMediaInterfaces where
  mediaPlayer : Obj
  requiresShutdown : List Obj
  deriving DecidableEq, Repr

/-- What the files, the configuration and the SDK give to one attempt of `Init`, in the
order of the calls. -/
structure InitEnv where
  configInFileGood : Bool
  ssConfigGood : Bool
  avsBuilder : Option Obj
  /-- What `getComponent` adds to `m_shutdownRequiredList`. -/
  componentShutdown : List Obj
  avsAppFactory : Option Obj
  sdkInit : Option Obj
  configEntry : Option AppConfig
  speakerInterface : Option ApplicationMediaInterfaces
  /-- The player that the pool loop gets at each index. -/
  audioMediaInterfaces : Nat → Option ApplicationMediaInterfaces
  /-- Whether the fingerprint of the first player has a value. -/
  fingerprintHasValue : Bool
  /-- `PooledMediaPlayerFactory::create` with a fingerprint. -/
  pooledFactoryWithFingerprint : Option Obj
  /-- `PooledMediaPlayerFactory::create` without one. -/
  pooledFactory : Option Obj
  notificationInterface : Option ApplicationMediaInterfaces
  btInterface : Option ApplicationMediaInterfaces
  rtInterface : Option ApplicationMediaInterfaces
  alertInterface : Option ApplicationMediaInterfaces
  appSystemAudioInterface : Option ApplicationMediaInterfaces
  appLocaleManager : Option Obj
  appCustDataManager : Option Obj
  guiClient : Option Obj
  /-- The width of `long`. -/
  longBits : Nat
  /-- `AplClientBridge::create`, for a number of concurrent downloads. -/
  aplClientBridge : Int → Option Obj
  appDevInfo : Option Obj
  delAuth : Option Obj
  capabilitiesDelegate : Option Obj
  appICMonitor : Option Obj
  appCtxtManager : Option Obj
  appGWMStorage : Option Obj
  appGWManager : Option Obj
  appSyncFactory : Option Obj
  sharedDataStream : Option AudioInputStream
  guiManager : Option Obj
  client : Option Obj
  shutdownManager : Option Obj
  /-- What `vta.ioParse()` returns to the input manager. -/
  ioParse : Int
  /-- `client->getRegistrationManager()`, at its first and at its second call. -/
  registrationManager : Option Obj
  registrationManagerAgain : Option Obj
  guiClientStarts : Bool

/-- What goes wrong in an attempt that neither returns true nor false. -/
inductive InitFault where
  | nullDereference
  | emptyPool
  | uncaughtException
  deriving DecidableEq, Repr

/-- Code of `Init`: it may return a `bool` early, and it may fault. -/
abbrev InitM := Script SmartScreen Bool InitFault

/-! ### Steps on the members -/

namespace SmartScreen

/-- `aspInputInteractionHandler = InteractionHandler::Create()`: from here on `Start` and
`Stop` see a handler, which is not bound yet. -/
def publishInteractionHandler (self : SmartScreen) : SmartScreen :=
  { self with aspInputInteractionHandler := InteractionHandler.create }

/-- `m_guiManager = GUIManager::create(..)`, and the handler is bound to it. The result is
false when the handler refuses a null manager. -/
def bindInteractionHandler (self : SmartScreen) (guiManager : Option Obj) :
    Bool × SmartScreen :=
  let self := { self with guiManager := guiManager }
  match self.aspInputInteractionHandler with
  | some handler =>
    let (bound, handler) := handler.initializeWith self.guiManager
    (bound, { self with aspInputInteractionHandler := some handler })
  | none => (true, self)

end SmartScreen

/-- `createApplicationMediaPlayer`, its null test, and the assignment of the player. -/
def createMediaPlayer (interfaces : Option ApplicationMediaInterfaces)
    (assign : Obj → SmartScreen → SmartScreen) : InitM Unit := do
  let interfaces ← Script.orReturn interfaces false
  Script.modify fun s => { s with
    shutdownRequiredList := s.shutdownRequiredList ++ interfaces.requiresShutdown }
  Script.modify (assign interfaces.mediaPlayer)

/-! ### The parts of `Init` -/

/-- The two files, the builder, the factory and the SDK. The configuration entry is tested
by the caller. -/
def initConfig (env : InitEnv) : InitM Unit := do
  Script.returnUnless env.configInFileGood false
  Script.returnUnless env.ssConfigGood false
  -- `avsBuilder->withJsonStreams(jsonConfig)` stands before the null test of the builder.
  Script.need env.avsBuilder.isSome .nullDereference
  Script.returnUnless env.avsBuilder.isSome false
  Script.modify fun s => { s with
    shutdownRequiredList := s.shutdownRequiredList ++ env.componentShutdown }
  -- The factory is dereferenced and never tested.
  Script.need env.avsAppFactory.isSome .nullDereference
  Script.modify fun s => { s with sdkInit := env.sdkInit }
  Script.returnUnless env.sdkInit.isSome false

/-- The pool loop, from `index` on, for `left` more players. -/
def createAudioPlayers (env : InitEnv) (index : Nat) : (left : Nat) → InitM Unit
  | 0 => pure ()
  | left + 1 => do
    createMediaPlayer (env.audioMediaInterfaces index) fun player s =>
      { s with audioMediaPlayerPool := s.audioMediaPlayerPool ++ [player] }
    createAudioPlayers env (index + 1) left

/-- The configured pool size. It may be zero or negative. -/
def poolSize (config : ConfigurationNode) : Int :=
  config.getInt AUDIO_MEDIAPLAYER_POOL_SIZE_KEY AUDIO_MEDIAPLAYER_POOL_SIZE_DEFAULT

/-- The factory of the branch that the fingerprint selects. -/
def appAudioPlayerFactory (env : InitEnv) : Option Obj :=
  if env.fingerprintHasValue then env.pooledFactoryWithFingerprint else env.pooledFactory

/-- The media players and the player pool. -/
def initPlayers (env : InitEnv) (config : ConfigurationNode) : InitM Unit := do
  createMediaPlayer env.speakerInterface fun player s =>
    { s with speakMediaPlayer := some player }
  createAudioPlayers env 0 (poolSize config).toNat
  -- `(*(m_audioMediaPlayerPool.begin()))->getFingerprint()`
  Script.withState fun s => Script.need (!s.audioMediaPlayerPool.isEmpty) .emptyPool
  Script.returnUnless (appAudioPlayerFactory env).isSome false
  createMediaPlayer env.notificationInterface fun player s =>
    { s with notificationsMediaPlayer := some player }
  createMediaPlayer env.btInterface fun player s =>
    { s with bluetoothMediaPlayer := some player }
  createMediaPlayer env.rtInterface fun player s =>
    { s with ringtoneMediaPlayer := some player }
  createMediaPlayer env.alertInterface fun player s =>
    { s with alertsMediaPlayer := some player }
  createMediaPlayer env.appSystemAudioInterface fun player s =>
    { s with systemSoundMediaPlayer := some player }

/-- The GUI client, the download cache and the delegates. -/
def initGui (env : InitEnv) (appConfig : AppConfig) : InitM Unit := do
  Script.returnUnless env.appLocaleManager.isSome false
  Script.returnUnless env.appCustDataManager.isSome false
  Script.modify fun s => { s with guiClient := env.guiClient }
  Script.returnUnless env.guiClient.isSome false
  let cachePeriodInSeconds := appConfig.getString CONTENT_CACHE_REUSE_PERIOD_IN_SECONDS_KEY
    DEFAULT_CONTENT_CACHE_REUSE_PERIOD_IN_SECONDS
  let maxCacheSize := appConfig.getString CONTENT_CACHE_MAX_SIZE_KEY
    DEFAULT_CONTENT_CACHE_MAX_SIZE
  Script.need (stol env.longBits cachePeriodInSeconds).isSome .uncaughtException
  Script.need (stol env.longBits maxCacheSize).isSome .uncaughtException
  Script.modify fun s => { s with aplClientBridge := env.aplClientBridge (maxConcDwls appConfig) }
  Script.returnUnless env.appDevInfo.isSome false
  Script.returnUnless env.delAuth.isSome false
  Script.modify fun s => { s with capabilitiesDelegate := env.capabilitiesDelegate }
  let capabilitiesDelegate ← Script.orReturn env.capabilitiesDelegate false
  Script.modify fun s => { s with
    shutdownRequiredList := s.shutdownRequiredList ++ [capabilitiesDelegate] }

/-- The connection objects and the shared data stream. -/
def initNetwork (env : InitEnv) : InitM Unit := do
  Script.returnUnless env.appICMonitor.isSome false
  Script.returnUnless env.appCtxtManager.isSome false
  Script.returnUnless env.appGWMStorage.isSome false
  Script.returnUnless env.appGWManager.isSome false
  Script.returnUnless env.appSyncFactory.isSome false
  Script.returnUnless env.sharedDataStream.isSome false

/-- The interaction handler, the voice handler and the `GUIManager`. -/
def initVoice (env : InitEnv) : InitM Unit := do
  Script.modify SmartScreen.publishInteractionHandler
  Script.withState fun s => Script.returnUnless s.aspInputInteractionHandler.isSome false
  Script.modify fun s => { s with
    thunderVoiceHandler := ThunderVoiceHandler.create env.sharedDataStream appAudioFormat }
  -- `aspInput->startStreamingMicrophoneData()` stands before the null test of `aspInput`.
  Script.withState fun s => Script.need s.thunderVoiceHandler.isSome .nullDereference
  Script.modify fun s => { s with
    thunderVoiceHandler :=
      s.thunderVoiceHandler.map fun handler => handler.startStreamingMicrophoneData.2 }
  Script.modify fun s => { s with
    vWriter := s.thunderVoiceHandler.bind ThunderVoiceHandler.getWriteHandler }
  Script.withState fun s => Script.returnUnless s.thunderVoiceHandler.isSome false
  Script.withState fun s => do
    Script.modify fun _ => (s.bindInteractionHandler env.guiManager).2
    Script.returnUnless (s.bindInteractionHandler env.guiManager).1 false

/-- The smart screen client and the input manager. -/
def initClient (env : InitEnv) : InitM Unit := do
  Script.returnUnless env.client.isSome false
  -- `m_guiManager->setClient(client)`
  Script.withState fun s => Script.need s.guiManager.isSome .nullDereference
  Script.modify fun s => { s with shutdownManager := env.shutdownManager }
  Script.returnUnless env.shutdownManager.isSome false
  Script.modify fun s => { s with
    thunderInputManager := ThunderInputManager.create s.guiManager env.ioParse }
  Script.withState fun s => Script.returnUnless s.thunderInputManager.isSome false
  -- `client->getRegistrationManager()->addObserver(..)`, never tested.
  Script.need env.registrationManager.isSome .nullDereference
  Script.returnUnless env.guiClientStarts false
  Script.need env.registrationManagerAgain.isSome .nullDereference
  Script.modify fun s => { s with
    vta := s.vta.call (.handleSDKStateChangeNotification .VTA_INIT true false) }

/-- `SmartScreen::Init`. -/
def init (env : InitEnv) : InitM Unit := do
  initConfig env
  let appConfig ← Script.orReturn env.configEntry false
  let config := appConfig.child SAMPLE_APP_CONFIG_KEY
  initPlayers env config
  initGui env appConfig
  initNetwork env
  initVoice env
  initClient env
  Script.ret true

end XrSpeechAvs.Impl
