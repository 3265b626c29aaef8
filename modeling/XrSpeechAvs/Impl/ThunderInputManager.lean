import XrSpeechAvs.Impl.Sdk
import XrSpeechAvs.Lib.Atomic

/-!
# `XrSpeechAvs.Impl.ThunderInputManager`: the SDK's observer

The model of `ThunderInputManager.cpp`. The manager observes the SDK and passes what it
sees to its own `skillmapper::voiceToApps` object. That object is not part of the
repository. The model keeps the calls that were made on it, so that a law about their
order can be stated (`VoiceToApps.calls`).

The build enables `ENABLE_SMART_SCREEN_SUPPORT` and does not define `FILEAUDIO`. `receive`
returns the message that it passes on to `avs_server_msg`, since that function belongs to
another component.

`m_limitedInteraction` is an atomic flag. Its three observers are modelled as functions of
the manager, and `ObserverCall.access` lists the loads and stores that each of them makes.
-/

set_option autoImplicit false

namespace XrSpeechAvs.Impl

/-! ### `skillmapper::voiceToApps` -/

/-- `skillmapper::VoiceSDKState`. -/
inductive VoiceSDKState where
  | VTA_INIT
  | VTA_IDLE
  | VTA_LISTENING
  | VTA_EXPECTING
  | VTA_THINKING
  | VTA_SPEAKING
  deriving DecidableEq, Repr

/-- `skillmapper::AudioPlayerState`. -/
inductive AudioPlayerState where
  | IDLE
  | PLAYING
  | STOPPED
  | PAUSED
  | BUFFER_UNDERRUN
  | FINISHED
  | UNKNOWN
  deriving DecidableEq, Repr

/-- A call on a `voiceToApps` object. -/
inductive VtaCall where
  | ioParse (result : Int)
  | handleSDKStateChangeNotification (state : VoiceSDKState) (smartScreenEnabled : Bool)
      (audioPlaying : Bool)
  | handleAudioPlayerStateChangeNotification (state : AudioPlayerState)
  | curlCmdSendOnRcvMsg (message : Text)
  deriving DecidableEq, Repr

/-- A `voiceToApps` object: the calls made on it, oldest first. -/
structure VoiceToApps where
  calls : List VtaCall := []
  deriving DecidableEq, Repr

/-- One more call on the object. -/
def VoiceToApps.call (self : VoiceToApps) (c : VtaCall) : VoiceToApps :=
  { self with calls := self.calls ++ [c] }

/-- A call is the last one. -/
@[simp] theorem VoiceToApps.calls_call (self : VoiceToApps) (c : VtaCall) :
    (self.call c).calls = self.calls ++ [c] := rfl

/-! ### `ThunderInputManager` -/

/-- `avsCommon::avs::PlayerActivity`. `other` is a value outside the enumerators. -/
inductive PlayerActivity where
  | IDLE
  | PLAYING
  | STOPPED
  | PAUSED
  | BUFFER_UNDERRUN
  | FINISHED
  | other
  deriving DecidableEq, Repr

/-- `DialogUXStateObserverInterface::DialogUXState`. `other` is a value outside the
enumerators. -/
inductive DialogUXState where
  | IDLE
  | LISTENING
  | EXPECTING
  | THINKING
  | SPEAKING
  | FINISHED
  | other
  deriving DecidableEq, Repr

/-- `AuthObserverInterface::State`. `other` is a value other than the named one. -/
inductive AuthState where
  | UNRECOVERABLE_ERROR
  | other (value : Nat)
  deriving DecidableEq, Repr

/-- `CapabilitiesDelegateObserverInterface::State`. `other` is a value other than the named
one. -/
inductive CapabilitiesState where
  | FATAL_ERROR
  | other (value : Nat)
  deriving DecidableEq, Repr

/-- `ThunderInputManager`. -/
structure ThunderInputManager where
  vta : VoiceToApps
  vtaFlag : Int
  playerState : PlayerActivity
  limitedInteraction : Bool
  deriving DecidableEq, Repr

/-- A message for `avs_server_msg`: its characters and the length passed with them. -/
structure ServerMsg where
  message : Text
  length : Nat
  deriving DecidableEq, Repr

namespace ThunderInputManager

/-- The constructor parses the VoiceToApps LEDs. `ioParse` is what `vta.ioParse()`
returns. -/
def new (ioParse : Int) : ThunderInputManager :=
  { vta := ({} : VoiceToApps).call (.ioParse ioParse)
    vtaFlag := ioParse
    playerState := .IDLE
    limitedInteraction := false }

/-- `create` refuses a null `guiManager`. -/
def create (guiManager : Option Obj) (ioParse : Int) : Option ThunderInputManager :=
  match guiManager with
  | none => none
  | some _ => some (new ioParse)

/-- `isAudioPlaying`: playing, buffering or paused. -/
def isAudioPlaying (self : ThunderInputManager) : Bool :=
  self.playerState = .PLAYING || self.playerState = .BUFFER_UNDERRUN ||
    self.playerState = .PAUSED

/-- The `voiceToApps` state for a player activity. -/
def audioPlayerState : PlayerActivity → AudioPlayerState
  | .IDLE => .IDLE
  | .PLAYING => .PLAYING
  | .STOPPED => .STOPPED
  | .PAUSED => .PAUSED
  | .BUFFER_UNDERRUN => .BUFFER_UNDERRUN
  | .FINISHED => .FINISHED
  | .other => .UNKNOWN

/-- `onPlayerActivityChanged` notifies without a look at the flag. -/
def onPlayerActivityChanged (self : ThunderInputManager) (state : PlayerActivity) :
    ThunderInputManager :=
  { self with
    playerState := state
    vta := self.vta.call (.handleAudioPlayerStateChangeNotification (audioPlayerState state)) }

/-- The `voiceToApps` state for a dialog state. `FINISHED` and unknown values are not
mapped. -/
def voiceSDKState : DialogUXState → Option VoiceSDKState
  | .IDLE => some .VTA_IDLE
  | .LISTENING => some .VTA_LISTENING
  | .EXPECTING => some .VTA_EXPECTING
  | .THINKING => some .VTA_THINKING
  | .SPEAKING => some .VTA_SPEAKING
  | .FINISHED => none
  | .other => none

/-- `NotifyDialogUXStateChanged`. The test of `m_vtaFlag` at its start only logs. -/
def notifyDialogUXStateChanged (self : ThunderInputManager) (newState : DialogUXState) :
    ThunderInputManager :=
  match voiceSDKState newState with
  | some state =>
    { self with
      vta := self.vta.call
        (.handleSDKStateChangeNotification state true self.isAudioPlaying) }
  | none => self

/-- `onDialogUXStateChanged`. -/
def onDialogUXStateChanged (self : ThunderInputManager) (newState : DialogUXState) :
    ThunderInputManager :=
  self.notifyDialogUXStateChanged newState

/-- `renderTemplateCard` returns when the flag is zero. -/
def renderTemplateCard (self : ThunderInputManager) (jsonPayload : Text) :
    ThunderInputManager :=
  if self.vtaFlag = 0 then self
  else { self with vta := self.vta.call (.curlCmdSendOnRcvMsg jsonPayload) }

/-- The text that `receive` searches for:
`"namespace":"SpeechSynthesizer","name":"Speak"`. -/
def speakKey : Text :=
  ['"', 'n', 'a', 'm', 'e', 's', 'p', 'a', 'c', 'e', '"', ':',
    '"', 'S', 'p', 'e', 'e', 'c', 'h', 'S', 'y', 'n', 't', 'h', 'e', 's', 'i', 'z', 'e', 'r',
    '"', ',', '"', 'n', 'a', 'm', 'e', '"', ':', '"', 'S', 'p', 'e', 'a', 'k', '"']

/-- `message.find(key, 0) != npos`. -/
def contains (message key : Text) : Bool :=
  message.tails.any fun tail => key.isPrefixOf tail

/-- `receive` returns when the flag is zero. Otherwise it forwards a message that holds
`speakKey`, to its own object and to `avs_server_msg`. -/
def receive (self : ThunderInputManager) (message : Text) :
    ThunderInputManager × Option ServerMsg :=
  if self.vtaFlag = 0 then (self, none)
  else if contains message speakKey then
    ({ self with vta := self.vta.call (.curlCmdSendOnRcvMsg message) },
      some { message := message, length := message.length })
  else (self, none)

/-- `onLogout`. -/
def onLogout (self : ThunderInputManager) : ThunderInputManager :=
  { self with limitedInteraction := true }

/-- `onAuthStateChange`. The error is not read. -/
def onAuthStateChange (self : ThunderInputManager) (newState : AuthState) :
    ThunderInputManager :=
  { self with
    limitedInteraction := self.limitedInteraction || newState = .UNRECOVERABLE_ERROR }

/-- `onCapabilitiesStateChange`. The error and the endpoints are not read. -/
def onCapabilitiesStateChange (self : ThunderInputManager) (newState : CapabilitiesState) :
    ThunderInputManager :=
  { self with limitedInteraction := self.limitedInteraction || newState = .FATAL_ERROR }

end ThunderInputManager

/-! ### The atomic accesses of `m_limitedInteraction` -/

/-- A call that writes `m_limitedInteraction`, with the argument that it reads. -/
inductive ObserverCall where
  | onLogout
  | onAuthStateChange (newState : AuthState)
  | onCapabilitiesStateChange (newState : CapabilitiesState)
  deriving DecidableEq, Repr

namespace ObserverCall

/-- Run the call. -/
def apply (m : ThunderInputManager) : ObserverCall → ThunderInputManager
  | .onLogout => m.onLogout
  | .onAuthStateChange newState => m.onAuthStateChange newState
  | .onCapabilitiesStateChange newState => m.onCapabilitiesStateChange newState

/-- What the call does to the flag. `onLogout` stores. The other two load the flag for the
left side of `||`, and then they store the combined value. -/
def access : ObserverCall → Lib.Access Bool
  | .onLogout => .store true
  | .onAuthStateChange newState =>
    .update fun limited => limited || newState = .UNRECOVERABLE_ERROR
  | .onCapabilitiesStateChange newState =>
    .update fun limited => limited || newState = .FATAL_ERROR

/-- A logout, an `UNRECOVERABLE_ERROR` or a `FATAL_ERROR`. -/
def isLimiting : ObserverCall → Bool
  | .onLogout => true
  | .onAuthStateChange newState => newState = .UNRECOVERABLE_ERROR
  | .onCapabilitiesStateChange newState => newState = .FATAL_ERROR

/-- The two shapes of an access: a limiting store, or an update by `||`. -/
theorem access_eq (c : ObserverCall) :
    (c.access = .store true ∧ c.isLimiting = true) ∨
      c.access = .update (fun limited => limited || c.isLimiting) := by
  cases c with
  | onLogout => exact Or.inl ⟨rfl, rfl⟩
  | onAuthStateChange newState => exact Or.inr rfl
  | onCapabilitiesStateChange newState => exact Or.inr rfl

/-- A call sets the flag when it is limiting, and keeps it otherwise. -/
theorem apply_limitedInteraction (m : ThunderInputManager) (c : ObserverCall) :
    (c.apply m).limitedInteraction = (m.limitedInteraction || c.isLimiting) := by
  cases c with
  | onLogout => exact (Bool.or_true _).symm
  | onAuthStateChange newState => rfl
  | onCapabilitiesStateChange newState => rfl

end ObserverCall

end XrSpeechAvs.Impl
