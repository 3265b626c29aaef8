import Mathlib.Logic.Function.Basic
import XrSpeechAvs.Impl.SmartScreen

/-!
# `XrSpeechAvs.Process`: the memory that the exported functions share

`AVS.cpp` and `avs_sdt.c` keep their state in globals: `AvsSmartScreen`, `avs_obj` and
`audio_buffer`. `Process` holds the three, and the two kinds of heap objects that the
pointers name. An object is live when its map has an entry. The result of an allocation is
an input of the allocating call.

To use or release an object that is not live is a `Fault`, and so is a copy past the end of
`audio_buffer`. A run stops at a fault, because the C code has no defined behaviour from
there on.
-/

set_option autoImplicit false

namespace XrSpeechAvs

open XrSpeechAvs.Impl

/-- The address of a heap object. -/
abbrev Ptr := Nat

/-- A session identifier. -/
abbrev Uuid := Nat

/-- Undefined behaviour. -/
inductive Fault where
  | useAfterFree (p : Ptr)
  | doubleFree (p : Ptr)
  | bufferOverflow
  deriving DecidableEq, Repr

/-! ### `avs_sdt.h` -/

/-- `avs_sdt_params_t`, without the `test_flag` that nothing reads. -/
structure AvsSdtParams where
  maskPii : Bool
  userData : Nat
  deriving DecidableEq, Repr

/-- `avs_sdt_stream_params_t`. The fields of type `double` are only set to whole
constants. -/
structure AvsSdtStreamParams where
  keywordSampleBegin : UInt32
  keywordSampleEnd : UInt32
  keywordDoa : UInt16
  keywordSensitivity : UInt16
  keywordSensitivityTriggered : UInt16
  keywordSensitivityHighSupport : Bool
  keywordSensitivityHighTriggered : Bool
  keywordSensitivityHigh : UInt16
  dynamicGain : Int
  signalNoiseRatio : Int
  linearConfidence : Int
  nonlinearConfidence : Int
  pushToTalk : Bool
  deriving DecidableEq, Repr

/-- The fields of `xrsr_keyword_detector_result_t` that the session begin reads. -/
structure DetectorResult where
  offsetBufBegin : UInt32
  offsetKwdBegin : UInt32
  offsetKwdEnd : UInt32
  doa : UInt16
  deriving DecidableEq, Repr

/-- A function pointer of the application. -/
abbrev Handler := Nat

/-- `avs_sdt_handlers_t`. A handler that is not set is `none`. -/
structure AvsSdtHandlers where
  sessionBegin : Option Handler := none
  sessionEnd : Option Handler := none
  streamBegin : Option Handler := none
  streamKwd : Option Handler := none
  streamEnd : Option Handler := none
  connected : Option Handler := none
  disconnected : Option Handler := none
  msg : Option Handler := none
  deriving DecidableEq, Repr

/-- The event that an application handler is called with. Pointers that the code passes on
are opaque numbers. -/
inductive AppEvent where
  | sessionBegin (uuid : Uuid) (src : Nat) (dstIndex : UInt32) (configOut : Nat)
      (streamParams : AvsSdtStreamParams) (timestamp : Nat)
  | sessionEnd (uuid : Uuid) (stats : Nat) (timestamp : Nat)
  | streamBegin (uuid : Uuid) (src : Nat) (timestamp : Nat)
  | streamKwd (uuid : Uuid) (timestamp : Nat)
  | streamEnd (uuid : Uuid) (stats : Nat) (timestamp : Nat)
  | connected (uuid : Uuid) (timestamp : Nat)
  | disconnected (uuid : Uuid) (retry : Bool) (timestamp : Nat)
  | msg (message : Text) (length : Nat)
  deriving DecidableEq, Repr

/-- A call of an application handler, made for the object `object`. -/
structure AppCall where
  object : Ptr
  handler : Handler
  event : AppEvent
  userData : Nat
  deriving DecidableEq, Repr

/-! ### `avs_sdt_private.h` and `avs_sdt.c` -/

/-- The identifier that `avs_sdt_create` writes into an object. -/
def AVS_SDT_IDENTIFIER : UInt32 := 0xC11FB9C2

/-- `avs_sdt_obj_t`, without `send` and `param` that nothing sets. -/
structure AvsSdtObj where
  identifier : UInt32
  handlers : AvsSdtHandlers
  maskPii : Bool
  userData : Nat
  deriving DecidableEq, Repr

/-- An object as `avs_sdt_create` fills it in: all zeros first, and then the parameters. -/
def AvsSdtObj.new (params : AvsSdtParams) : AvsSdtObj where
  identifier := AVS_SDT_IDENTIFIER
  handlers := {}
  maskPii := params.maskPii
  userData := params.userData

/-- The size of `audio_buffer`. -/
def AUDIO_BUFFER_SIZE : Nat := 3840

/-- `uint8_t audio_buffer[3840]`. -/
structure AudioBuffer where
  bytes : List Byte
  length_eq : bytes.length = AUDIO_BUFFER_SIZE

/-- A static array starts with zeros. -/
def AudioBuffer.zero : AudioBuffer where
  bytes := List.replicate AUDIO_BUFFER_SIZE 0
  length_eq := List.length_replicate

/-- `memcpy(audio_buffer, data, size)` for a `data` that fits. The bytes behind it stay. -/
def AudioBuffer.memcpy (self : AudioBuffer) (data : List Byte)
    (h : data.length ≤ AUDIO_BUFFER_SIZE) : AudioBuffer where
  bytes := data ++ self.bytes.drop data.length
  length_eq := by
    rw [List.length_append, List.length_drop, self.length_eq]
    omega

/-- An audio frame of the router: a pointer to `size` bytes. -/
structure Frame where
  data : List Byte
  size : UInt32
  size_eq : data.length = size.toNat

/-- The globals, the live objects, and what the SDK and the application have been given. -/
structure Process where
  screens : Ptr → Option SmartScreen
  avsSmartScreen : Option Ptr
  sdtObjs : Ptr → Option AvsSdtObj
  avsObj : Option Ptr
  audioBuffer : AudioBuffer
  sdk : Sdk
  /-- The calls of application handlers, oldest first. -/
  appCalls : List AppCall

namespace Process

/-- The process before the first call: no object, and null globals. -/
def init : Process where
  screens := fun _ => none
  avsSmartScreen := none
  sdtObjs := fun _ => none
  avsObj := none
  audioBuffer := .zero
  sdk := {}
  appCalls := []

end Process

end XrSpeechAvs
