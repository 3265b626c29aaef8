import XrSpeechAvs.Impl.Init

/-!
# `XrSpeechAvs.Impl.Observers`: the observers that `Init` registers

`SmartScreen::Init` registers observers with the SDK objects that it has made, between its
tests. `initWired` is `Init` again, with these registrations and with the handler that the
constructor of the input manager sets for the messages of the video skill. The tests and the
assignments are those of `XrSpeechAvs.Impl.Init`.

An SDK object notifies the observers that are registered with it. `ManagerEvent` has the
seven notifications that the input manager handles. `XrSpeechAvs.System` delivers them.

An attempt registers observers with the objects that it has made, and it takes no registration
back. So an attempt that makes no object leaves those of an earlier attempt with their observers.
What `SmartScreenClient::create` does with the two lists of observers that it is given is not
part of the repository.
-/

set_option autoImplicit false

namespace XrSpeechAvs.Impl

open XrSpeechAvs.Lib

/-- What an observer is registered with. -/
inductive Subject where
  | guiClient
  | delAuth
  | capabilitiesDelegate
  | speakerManager
  | notifications
  | templateRuntime
  | alexaPresentation
  | alexaDialogState
  | audioPlayer
  | callState
  | focusManagers
  | audioInputProcessor
  | registrationManager
  | doNotDisturbSetting
  | message
  deriving DecidableEq, Repr

/-- The observers. -/
inductive Observer where
  | appUI
  | guiClient
  | guiManager
  | aplClientBridge
  | thunderInputManager
  deriving DecidableEq, Repr

/-- An observer at a subject. -/
structure Registration where
  subject : Subject
  observer : Observer
  deriving DecidableEq, Repr

/-- The smart screen, the registrations of the attempt, and whether `avs_server_msg` has been
set as the handler of the messages of the video skill. -/
structure Wired where
  screen : SmartScreen
  registrations : List Registration
  vskMsgHandler : Bool
  deriving DecidableEq, Repr

/-- Code of `Init` that also registers observers. -/
abbrev WiredM := Script Wired Bool InitFault

/-- Code on the members alone. -/
def onScreen {α : Type} (m : InitM α) : WiredM α :=
  Script.onPart Wired.screen (fun w screen => { w with screen := screen }) m

/-- Register an observer. -/
def register (subject : Subject) (observer : Observer) : WiredM Unit :=
  Script.modify fun w => { w with
    registrations := w.registrations ++ [{ subject := subject, observer := observer }] }

/-- `set_vsk_msg_handler(&avs_server_msg)`, in the constructor of the input manager. `create`
comes to the constructor when there is a `GUIManager`. -/
def setVskMsgHandler : WiredM Unit :=
  Script.modify fun w => { w with
    vskMsgHandler := w.vskMsgHandler || w.screen.guiManager.isSome }

/-- `initGui` with its registrations. -/
def wireGui (env : InitEnv) (appConfig : AppConfig) : WiredM Unit := do
  onScreen <| Script.returnUnless env.appLocaleManager.isSome false
  onScreen <| Script.returnUnless env.appCustDataManager.isSome false
  onScreen <| Script.modify fun s => { s with guiClient := env.guiClient }
  onScreen <| Script.returnUnless env.guiClient.isSome false
  let cachePeriodInSeconds := appConfig.getString CONTENT_CACHE_REUSE_PERIOD_IN_SECONDS_KEY
    DEFAULT_CONTENT_CACHE_REUSE_PERIOD_IN_SECONDS
  let maxCacheSize := appConfig.getString CONTENT_CACHE_MAX_SIZE_KEY
    DEFAULT_CONTENT_CACHE_MAX_SIZE
  onScreen <| Script.need (stol env.longBits cachePeriodInSeconds).isSome .uncaughtException
  onScreen <| Script.need (stol env.longBits maxCacheSize).isSome .uncaughtException
  onScreen <| Script.modify fun s =>
    { s with aplClientBridge := env.aplClientBridge (maxConcDwls appConfig) }
  onScreen <| Script.returnUnless env.appDevInfo.isSome false
  -- `m_guiClient->setObserver(appUI)`
  register .guiClient .appUI
  onScreen <| Script.returnUnless env.delAuth.isSome false
  onScreen <| Script.modify fun s => { s with capabilitiesDelegate := env.capabilitiesDelegate }
  let capabilitiesDelegate ← onScreen <| Script.orReturn env.capabilitiesDelegate false
  onScreen <| Script.modify fun s => { s with
    shutdownRequiredList := s.shutdownRequiredList ++ [capabilitiesDelegate] }
  register .delAuth .appUI
  register .capabilitiesDelegate .appUI

/-- `initClient` with its registrations. -/
def wireClient (env : InitEnv) : WiredM Unit := do
  onScreen <| Script.returnUnless env.client.isSome false
  register .speakerManager .appUI
  register .notifications .appUI
  register .templateRuntime .guiManager
  register .alexaPresentation .guiManager
  register .alexaDialogState .guiManager
  register .audioPlayer .guiManager
  register .audioPlayer .aplClientBridge
  register .callState .guiManager
  register .focusManagers .guiManager
  register .audioInputProcessor .guiManager
  onScreen <| Script.withState fun s => Script.need s.guiManager.isSome .nullDereference
  onScreen <| Script.modify fun s => { s with shutdownManager := env.shutdownManager }
  onScreen <| Script.returnUnless env.shutdownManager.isSome false
  setVskMsgHandler
  onScreen <| Script.modify fun s => { s with
    thunderInputManager := ThunderInputManager.create s.guiManager env.ioParse }
  onScreen <| Script.withState fun s => Script.returnUnless s.thunderInputManager.isSome false
  register .delAuth .guiClient
  onScreen <| Script.need env.registrationManager.isSome .nullDereference
  register .registrationManager .guiClient
  register .capabilitiesDelegate .guiClient
  -- `m_guiManager->setDoNotDisturbSettingObserver(m_guiClient)`
  register .doNotDisturbSetting .guiClient
  onScreen <| Script.returnUnless env.guiClientStarts false
  register .delAuth .thunderInputManager
  onScreen <| Script.need env.registrationManagerAgain.isSome .nullDereference
  register .registrationManager .thunderInputManager
  register .message .thunderInputManager
  register .alexaDialogState .thunderInputManager
  register .audioPlayer .thunderInputManager
  onScreen <| Script.modify fun s => { s with
    vta := s.vta.call (.handleSDKStateChangeNotification .VTA_INIT true false) }

/-- `SmartScreen::Init` with its registrations. -/
def initWired (env : InitEnv) : WiredM Unit := do
  onScreen (initConfig env)
  let appConfig ← onScreen <| Script.orReturn env.configEntry false
  let config := appConfig.child SAMPLE_APP_CONFIG_KEY
  onScreen (initPlayers env config)
  wireGui env appConfig
  onScreen (initNetwork env)
  onScreen (initVoice env)
  wireClient env
  Script.ret true

/-- The smart screen at the entry of an attempt. -/
def Wired.entering (screen : SmartScreen) : Wired where
  screen := screen
  registrations := []
  vskMsgHandler := false

/-- The input manager that the attempt has made, if it came to the constructor. The constructor
sets the handler, and nothing else does. -/
def Wired.made (w : Wired) : Option ThunderInputManager :=
  if w.vskMsgHandler then w.screen.thunderInputManager else none

/-! ### Notifications -/

/-- A notification that the input manager handles. -/
inductive ManagerEvent where
  | onLogout
  | onAuthStateChange (newState : AuthState)
  | onCapabilitiesStateChange (newState : CapabilitiesState)
  | onDialogUXStateChanged (newState : DialogUXState)
  | onPlayerActivityChanged (state : PlayerActivity)
  | renderTemplateCard (jsonPayload : Text)
  | receive (message : Text)
  deriving DecidableEq, Repr

namespace ManagerEvent

/-- Who notifies. -/
def subject : ManagerEvent → Subject
  | .onLogout => .registrationManager
  | .onAuthStateChange _ => .delAuth
  | .onCapabilitiesStateChange _ => .capabilitiesDelegate
  | .onDialogUXStateChanged _ => .alexaDialogState
  | .onPlayerActivityChanged _ => .audioPlayer
  | .renderTemplateCard _ => .templateRuntime
  | .receive _ => .message

/-- What the input manager makes of the notification. -/
def apply (manager : ThunderInputManager) : ManagerEvent → ThunderInputManager
  | .onLogout => manager.onLogout
  | .onAuthStateChange newState => manager.onAuthStateChange newState
  | .onCapabilitiesStateChange newState => manager.onCapabilitiesStateChange newState
  | .onDialogUXStateChanged newState => manager.onDialogUXStateChanged newState
  | .onPlayerActivityChanged state => manager.onPlayerActivityChanged state
  | .renderTemplateCard jsonPayload => manager.renderTemplateCard jsonPayload
  | .receive message => (manager.receive message).1

/-- What the input manager passes on to `avs_server_msg`. -/
def forwarded (manager : ThunderInputManager) : ManagerEvent → Option ServerMsg
  | .receive message => (manager.receive message).2
  | _ => none

end ManagerEvent

end XrSpeechAvs.Impl
