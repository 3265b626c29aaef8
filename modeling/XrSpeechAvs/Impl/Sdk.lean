import XrSpeechAvs.Lib.Pairs

/-!
# `XrSpeechAvs.Impl.Sdk`: what the code uses of the Alexa SDKs

The Alexa client SDK and the smart screen SDK are not part of the repository. The model
keeps an SDK object as an identity, `Obj`, and it keeps what the SDK has been given: the
`handleHoldToTalk` calls that reached a `GUIManager`, and the words that were handed to
`Writer::write`. A factory of the SDK may return null, so its result is an `Option`.

The writer accepts every word that it is handed. Its word size is the one of its stream,
and `SmartScreen::Init` creates the stream with `WORD_SIZE`.
-/

set_option autoImplicit false

namespace XrSpeechAvs.Impl

open XrSpeechAvs.Lib (pairs)

/-- An SDK object behind a shared pointer, by its identity. -/
abbrev Obj := Nat

/-- One byte of audio. -/
abbrev Byte := UInt8

/-- One 16-bit word of audio, as its first and its second byte. -/
abbrev Word := Byte × Byte

/-- A `std::string`, one character for each byte. -/
abbrev Text := List Char

/-- The word size of the shared data stream, in bytes. -/
def WORD_SIZE : Nat := 2

/-- A writer of the shared data stream. -/
structure Writer where
  obj : Obj
  deriving DecidableEq, Repr

/-- The word size that `Writer::getWordSize` reports: the one of the stream. -/
def Writer.getWordSize (_ : Writer) : Nat := WORD_SIZE

/-- The shared data stream. `createWriter` is what the call of that name returns. -/
structure AudioInputStream where
  createWriter : Option Writer
  deriving DecidableEq, Repr

/-- The encodings of `AudioFormat`. -/
inductive Encoding where
  | LPCM
  | OPUS
  deriving DecidableEq, Repr

/-- The byte orders of `AudioFormat`. -/
inductive Endianness where
  | LITTLE
  | BIG
  deriving DecidableEq, Repr

/-- The fields of `AudioFormat` that `AudioFormatCompatibility` reads. -/
structure AudioFormat where
  sampleRateHz : Nat
  sampleSizeInBits : Nat
  numChannels : Nat
  endianness : Endianness
  encoding : Encoding
  deriving DecidableEq, Repr

/-- What the SDK has been given so far, oldest first. -/
structure Sdk where
  /-- The `GUIManager`s whose `handleHoldToTalk` was called, one entry for each call. -/
  holdToTalks : List Obj := []
  /-- The words that were handed to `Writer::write`. -/
  words : List Word := []
  deriving DecidableEq, Repr

namespace Sdk

/-- `GUIManager::handleHoldToTalk`. -/
def handleHoldToTalk (sdk : Sdk) (guiManager : Obj) : Sdk :=
  { sdk with holdToTalks := sdk.holdToTalks ++ [guiManager] }

/-- `Writer::write(data, nWords)`: the first `nWords` words of `data` enter the stream. -/
def write (sdk : Sdk) (data : List Byte) (nWords : Nat) : Sdk :=
  { sdk with words := sdk.words ++ pairs (data.take (nWords * WORD_SIZE)) }

/-- The number of `handleHoldToTalk` calls that reached `guiManager`. A null pointer got
none. -/
def holdToTalkCount (sdk : Sdk) : Option Obj → Nat
  | none => 0
  | some guiManager => sdk.holdToTalks.count guiManager

/-- Whether `guiManager` is talking. It starts as not talking, and each call flips it. -/
def talking (sdk : Sdk) (guiManager : Option Obj) : Bool :=
  decide (Odd (sdk.holdToTalkCount guiManager))

/-- A call on a `GUIManager` counts for it. -/
@[simp] theorem holdToTalkCount_handleHoldToTalk_self (sdk : Sdk) (g : Obj) :
    (sdk.handleHoldToTalk g).holdToTalkCount (some g) = sdk.holdToTalkCount (some g) + 1 := by
  simp [handleHoldToTalk, holdToTalkCount]

/-- A call on a `GUIManager` does not count for another one. -/
theorem holdToTalkCount_handleHoldToTalk_of_ne (sdk : Sdk) (g : Obj) (cur : Option Obj)
    (h : cur ≠ some g) :
    (sdk.handleHoldToTalk g).holdToTalkCount cur = sdk.holdToTalkCount cur := by
  cases cur with
  | none => rfl
  | some g' =>
    have hne : g ≠ g' := fun he => h (by rw [he])
    simp [handleHoldToTalk, holdToTalkCount, hne]

/-- A call flips the talk state of its `GUIManager`. -/
@[simp] theorem talking_handleHoldToTalk_self (sdk : Sdk) (g : Obj) :
    (sdk.handleHoldToTalk g).talking (some g) = !sdk.talking (some g) := by
  unfold talking
  rw [holdToTalkCount_handleHoldToTalk_self, ← decide_not]
  exact decide_eq_decide.mpr Nat.odd_add_one

end Sdk

end XrSpeechAvs.Impl
