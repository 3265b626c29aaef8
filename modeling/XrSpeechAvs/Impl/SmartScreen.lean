import XrSpeechAvs.Impl.ThunderInputManager
import XrSpeechAvs.Impl.ThunderVoiceHandler

/-!
# `XrSpeechAvs.Impl.SmartScreen`: the smart screen and its audio transmission

The model of `SmartScreen.h` and of the last part of `SmartScreen.cpp`: the members, and
`Start`, `Stop` and `Data`. `SmartScreen::Init` is in `XrSpeechAvs.Impl.Init`.

The members include those of the base class `SampleApplication` that `Init` assigns. Each
function takes what the SDK has been given so far and returns it with its own calls added.
-/

set_option autoImplicit false

namespace XrSpeechAvs.Impl

/-- The members of `SmartScreen`, and those of `SampleApplication` that `Init` assigns. -/
structure SmartScreen where
  vWriter : Option Writer := none
  aspInputInteractionHandler : Option InteractionHandler := none
  isStarted : Bool := false
  thunderInputManager : Option ThunderInputManager := none
  thunderVoiceHandler : Option ThunderVoiceHandler := none
  vta : VoiceToApps := {}
  sdkInit : Option Obj := none
  speakMediaPlayer : Option Obj := none
  audioMediaPlayerPool : List Obj := []
  notificationsMediaPlayer : Option Obj := none
  bluetoothMediaPlayer : Option Obj := none
  ringtoneMediaPlayer : Option Obj := none
  alertsMediaPlayer : Option Obj := none
  systemSoundMediaPlayer : Option Obj := none
  guiClient : Option Obj := none
  guiManager : Option Obj := none
  capabilitiesDelegate : Option Obj := none
  shutdownRequiredList : List Obj := []
  shutdownManager : Option Obj := none
  /-- What `m_guiClient` was given by `setAplClientBridge`. -/
  aplClientBridge : Option Obj := none
  deriving DecidableEq, Repr

namespace SmartScreen

/-- The constructor. -/
def new : SmartScreen := {}

/-- `Start`: the flag is set first, then the toggle is sent if there is a handler. -/
def start (self : SmartScreen) (sdk : Sdk) : SmartScreen × Sdk :=
  if self.isStarted = true then (self, sdk)
  else
    let self := { self with isStarted := true }
    match self.aspInputInteractionHandler with
    | some handler => (self, handler.holdToTalk sdk)
    | none => (self, sdk)

/-- `Stop`: the toggle is sent if there is a handler, then the flag is cleared. -/
def stop (self : SmartScreen) (sdk : Sdk) : SmartScreen × Sdk :=
  if self.isStarted = true then
    let sdk := match self.aspInputInteractionHandler with
      | some handler => handler.holdToTalk sdk
      | none => sdk
    ({ self with isStarted := false }, sdk)
  else (self, sdk)

/-- `Data`: the whole words of the frame are handed to the writer. `data` is the memory
from the pointer on, and `length` its number of valid bytes. The result of the write is
only logged. -/
def data (self : SmartScreen) (sdk : Sdk) (data : List Byte) (length : UInt16) : Sdk :=
  match self.vWriter with
  | some writer =>
    let nWords := length.toNat / writer.getWordSize
    sdk.write data nWords
  | none => sdk

/-- With a writer, the whole words of the frame are written. -/
theorem data_of_writer {self : SmartScreen} {writer : Writer}
    (h : self.vWriter = some writer) (sdk : Sdk) (bytes : List Byte) (length : UInt16) :
    self.data sdk bytes length = sdk.write bytes (length.toNat / WORD_SIZE) := by
  unfold data
  rw [h]
  rfl

/-- The SDK after one toggle through the handler of the smart screen. A missing handler
swallows the toggle, and so does a handler that is not bound. -/
def sendToggle (self : SmartScreen) (sdk : Sdk) : Sdk :=
  match self.aspInputInteractionHandler with
  | some handler => handler.holdToTalk sdk
  | none => sdk

/-- What a `Start` does, in both of its branches. -/
theorem start_eq (self : SmartScreen) (sdk : Sdk) :
    self.start sdk = if self.isStarted then (self, sdk)
      else ({ self with isStarted := true }, self.sendToggle sdk) := by
  unfold start sendToggle
  cases self.isStarted with
  | true => rfl
  | false => cases self.aspInputInteractionHandler <;> rfl

/-- What a `Stop` does, in both of its branches. -/
theorem stop_eq (self : SmartScreen) (sdk : Sdk) :
    self.stop sdk = if self.isStarted then
        ({ self with isStarted := false }, self.sendToggle sdk)
      else (self, sdk) := rfl

/-- After a `Start` the flag is set. -/
@[simp] theorem start_isStarted (self : SmartScreen) (sdk : Sdk) :
    (self.start sdk).1.isStarted = true := by
  rw [start_eq]
  cases h : self.isStarted <;> simp [h]

/-- After a `Stop` the flag is cleared. -/
@[simp] theorem stop_isStarted (self : SmartScreen) (sdk : Sdk) :
    (self.stop sdk).1.isStarted = false := by
  rw [stop_eq]
  cases h : self.isStarted <;> simp [h]

/-- A second `Start` has no further effect. -/
theorem start_start (self : SmartScreen) (sdk : Sdk) :
    (self.start sdk).1.start (self.start sdk).2 = self.start sdk := by
  rw [start_eq (self.start sdk).1, start_isStarted]
  rfl

/-- A second `Stop` has no further effect. -/
theorem stop_stop (self : SmartScreen) (sdk : Sdk) :
    (self.stop sdk).1.stop (self.stop sdk).2 = self.stop sdk := by
  rw [stop_eq (self.stop sdk).1, stop_isStarted]
  rfl

end SmartScreen

end XrSpeechAvs.Impl
