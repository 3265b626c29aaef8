import XrSpeechAvs.Impl.Sdk

/-!
# `XrSpeechAvs.Impl.ThunderVoiceHandler`: the interaction handler and the microphone

The model of `ThunderVoiceHandler.h` and `CompatibleAudioFormat.h`.

* `InteractionHandler` forwards a hold-to-talk to the manager it is bound to. A handler
  that is not bound yet drops it.
* `ThunderVoiceHandler` owns the writer of the shared data stream. It is also the
  microphone that `SmartScreen::Init` hands to the `GUIManager`.
-/

set_option autoImplicit false

namespace XrSpeechAvs.Impl

/-! ### `InteractionHandler` -/

/-- `InteractionHandler<GUIManager>`. -/
structure InteractionHandler where
  interactionManager : Option Obj
  deriving DecidableEq, Repr

namespace InteractionHandler

/-- `Create` makes a handler that is bound to no manager. -/
def create : Option InteractionHandler := some { interactionManager := none }

/-- `Initialize` binds the handler, and fails on a null manager. -/
def initializeWith (self : InteractionHandler) (interactionManager : Option Obj) :
    Bool × InteractionHandler :=
  match interactionManager with
  | some manager => (true, { self with interactionManager := some manager })
  | none => (false, self)

/-- `HoldToTalk` forwards the toggle to the manager, if there is one. -/
def holdToTalk (self : InteractionHandler) (sdk : Sdk) : Sdk :=
  match self.interactionManager with
  | some manager => sdk.handleHoldToTalk manager
  | none => sdk

end InteractionHandler

/-! ### `AudioFormatCompatibility` -/

/-- `AudioFormatCompatibility::IsCompatible`: the settings that are hardcoded into the
SDK. -/
def isCompatible (other : AudioFormat) : Bool :=
  if Encoding.LPCM ≠ other.encoding then false
  else if Endianness.LITTLE ≠ other.endianness then false
  else if 16000 ≠ other.sampleRateHz then false
  else if 16 ≠ other.sampleSizeInBits then false
  else if 1 ≠ other.numChannels then false
  else true

/-! ### `ThunderVoiceHandler` -/

/-- `ThunderVoiceHandler<GUIManager>`. -/
structure ThunderVoiceHandler where
  audioInputStream : AudioInputStream
  writer : Option Writer
  isInitialized : Bool
  deriving DecidableEq, Repr

namespace ThunderVoiceHandler

/-- `Initialize` takes a writer from the stream. It succeeds once, with a writer. -/
def initializeWriter (self : ThunderVoiceHandler) : Bool × ThunderVoiceHandler :=
  if self.isInitialized then (true, self)
  else
    let self := { self with writer := self.audioInputStream.createWriter }
    match self.writer with
    | none => (self.isInitialized, self)
    | some _ => (true, { self with isInitialized := true })

/-- `create` checks the stream and the format. A handler whose `Initialize` failed is
returned all the same: that failure is only logged. -/
def create (stream : Option AudioInputStream) (audioFormat : AudioFormat) :
    Option ThunderVoiceHandler :=
  match stream with
  | none => none
  | some stream =>
    if isCompatible audioFormat then
      let thunderVoiceHandler : ThunderVoiceHandler :=
        { audioInputStream := stream, writer := none, isInitialized := false }
      some thunderVoiceHandler.initializeWriter.2
    else none

/-- `stopStreamingMicrophoneData` reports success. -/
def stopStreamingMicrophoneData (self : ThunderVoiceHandler) : Bool × ThunderVoiceHandler :=
  (true, self)

/-- `startStreamingMicrophoneData` reports success. -/
def startStreamingMicrophoneData (self : ThunderVoiceHandler) : Bool × ThunderVoiceHandler :=
  (true, self)

/-- `isStreaming` is always true. -/
def isStreaming (_ : ThunderVoiceHandler) : Bool := true

/-- `GetWriteHandler` hands out the writer, null when there is none. -/
def getWriteHandler (self : ThunderVoiceHandler) : Option Writer := self.writer

/-- A handler created on a stream with a compatible format holds what `createWriter`
returned, and it is initialized exactly when that is a writer. -/
theorem create_of_isCompatible (stream : AudioInputStream) (audioFormat : AudioFormat)
    (h : isCompatible audioFormat = true) :
    create (some stream) audioFormat = some
      { audioInputStream := stream
        writer := stream.createWriter
        isInitialized := stream.createWriter.isSome } := by
  simp only [create, h, if_true, initializeWriter]
  cases stream.createWriter <;> rfl

end ThunderVoiceHandler

end XrSpeechAvs.Impl
