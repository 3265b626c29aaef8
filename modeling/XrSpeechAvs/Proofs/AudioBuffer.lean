import XrSpeechAvs.Proofs.Framing
import XrSpeechAvs.Proofs.Lifecycle

/-!
# `XrSpeechAvs.Proofs.AudioBuffer`: the limits between a frame and the writer

Three limits meet on the path of a frame. Its size has 32 bits, `audio_buffer` has 3840
bytes, and the length that `Voice_Data` takes has 16 bits. `FrameLaw` says what a frame may
do: nothing at all, or a copy inside the buffer with its whole size handed on, and then
the words of its own bytes.

`avs_recv_audiodata` tests none of the limits. The law is met by the frames that fit the
buffer, and by no others. A size that the buffer holds is far below 2^16, so the cut of the
length adds no condition of its own.

* `avsRecvAudiodata_eq` splits the function at the call of `Voice_Data`.
* `frameLaw_iff` is the law for one frame.
* `frames_lawful_iff` is the law over every sequence of frames.
* `long_frame_overflows` is the shortest frame against the law.
-/

set_option autoImplicit false

namespace XrSpeechAvs.Proofs

open XrSpeechAvs.Impl
open XrSpeechAvs.Lib

/-- What `avs_recv_audiodata` hands to `Voice_Data`: the buffer after the copy, and the
length. -/
def voiceDataArgs (s : Process) (frame : Frame) : Except Fault (AudioBuffer × UInt16) :=
  if h : frame.data.length ≤ AUDIO_BUFFER_SIZE then
    .ok (s.audioBuffer.memcpy frame.data h, frame.size.toUInt16)
  else .error .bufferOverflow

/-- The function is the copy, and then `Voice_Data` on what it hands over. -/
theorem avsRecvAudiodata_eq (s : Process) (frame : Frame) :
    s.avsRecvAudiodata frame = (voiceDataArgs s frame).bind fun args =>
      ({ s with audioBuffer := args.1 } : Process).voiceData args.1.bytes args.2 := by
  unfold voiceDataArgs
  by_cases h : frame.data.length ≤ AUDIO_BUFFER_SIZE
  · rw [Process.avsRecvAudiodata_of_fits s frame h, dif_pos h]
    rfl
  · unfold Process.avsRecvAudiodata
    rw [dif_neg h, dif_neg h]
    rfl

/-- A frame is delivered: it is copied to the front of the buffer, all of its size is handed
on, and the writer is asked for the words of its bytes. Without an open stream nothing is
written. -/
structure Delivered (s : Process) (frame : Frame) (buffer : AudioBuffer) (length : UInt16)
    (t : Process) : Prop where
  handed : voiceDataArgs s frame = .ok (buffer, length)
  copied : buffer.bytes = frame.data ++ s.audioBuffer.bytes.drop frame.data.length
  whole : length.toNat = frame.size.toNat
  result : s.avsRecvAudiodata frame = .ok t
  written : StreamOpen s → t.sdk.words = s.sdk.words ++ pairs frame.data
  count : (pairs frame.data).length = frame.size.toNat / WORD_SIZE
  silent : ¬ StreamOpen s → t.sdk.words = s.sdk.words

/-- What a frame may do: nothing, or a delivery. -/
def FrameLaw (s : Process) (frame : Frame) : Prop :=
  s.avsRecvAudiodata frame = .ok s ∨ ∃ buffer length t, Delivered s frame buffer length t

/-- A frame that fits is handed over with its whole size. -/
theorem voiceDataArgs_of_fits (s : Process) (frame : Frame)
    (h : frame.data.length ≤ AUDIO_BUFFER_SIZE) :
    voiceDataArgs s frame = .ok (s.audioBuffer.memcpy frame.data h, frame.size.toUInt16) :=
  dif_pos h

/-- A frame that does not fit is copied over the end of the buffer. -/
theorem avsRecvAudiodata_of_long (s : Process) (frame : Frame)
    (h : ¬ frame.data.length ≤ AUDIO_BUFFER_SIZE) :
    s.avsRecvAudiodata frame = .error .bufferOverflow := by
  rw [avsRecvAudiodata_eq, voiceDataArgs, dif_neg h]
  rfl

/-- A call on the smart screen writes nothing when no stream is open. -/
theorem voiceData_of_not_open {s t : Process} (hs : ¬ StreamOpen s) {bytes : List Byte}
    {length : UInt16} (h : s.voiceData bytes length = .ok t) : t.sdk.words = s.sdk.words := by
  obtain ⟨-, rfl⟩ | ⟨p, screen, hp, hscreen, rfl⟩ := Process.withSmartScreen_cases h
  · rfl
  · show (screen.data s.sdk bytes length).words = s.sdk.words
    unfold SmartScreen.data
    cases hwriter : screen.vWriter with
    | none => rfl
    | some writer => exact absurd ⟨p, screen, writer, hp, hscreen, hwriter⟩ hs

/-- A frame that fits succeeds when the global is right, and keeps it right. -/
theorem avsRecvAudiodata_ok {s : Process} (hs : ScreenOk s) (frame : Frame)
    (h : frame.data.length ≤ AUDIO_BUFFER_SIZE) :
    ∃ t, s.avsRecvAudiodata frame = .ok t ∧ ScreenOk t := by
  rw [Process.avsRecvAudiodata_of_fits s frame h]
  exact screenOk_withSmartScreen
    (s := { s with audioBuffer := s.audioBuffer.memcpy frame.data h }) hs _

/-- A frame that fits is delivered when the global is right. -/
theorem delivered_of_fits {s t : Process} {frame : Frame}
    (h : frame.data.length ≤ AUDIO_BUFFER_SIZE) (ht : s.avsRecvAudiodata frame = .ok t) :
    Delivered s frame (s.audioBuffer.memcpy frame.data h) frame.size.toUInt16 t where
  handed := voiceDataArgs_of_fits s frame h
  copied := rfl
  -- A size that fits the buffer also fits 16 bits.
  whole := by rw [toNat_size_toUInt16 frame h, frame.size_eq]
  result := ht
  written := by
    intro hopen
    obtain ⟨u, hu, -, hwords⟩ := recv_frame hopen frame h
    obtain rfl : u = t := Except.ok.inj (hu.symm.trans ht)
    exact hwords
  count := by rw [length_pairs, frame.size_eq, WORD_SIZE]
  -- Without a writer `Voice_Data` gives the SDK nothing.
  silent := by
    intro hclosed
    rw [Process.avsRecvAudiodata_of_fits s frame h] at ht
    exact voiceData_of_not_open
      (s := { s with audioBuffer := s.audioBuffer.memcpy frame.data h }) hclosed ht

/-- A frame that succeeds was given while the global was right. -/
theorem screenOk_of_avsRecvAudiodata {s t : Process} {frame : Frame}
    (ht : s.avsRecvAudiodata frame = .ok t) : ScreenOk s := by
  by_cases h : frame.data.length ≤ AUDIO_BUFFER_SIZE
  · rw [Process.avsRecvAudiodata_of_fits s frame h] at ht
    intro p hp
    obtain ⟨hnone, -⟩ | ⟨q, screen, hq, hscreen, -⟩ := Process.withSmartScreen_cases ht
    · cases hnone.symm.trans hp
    · obtain rfl : q = p := Option.some.inj (hq.symm.trans hp)
      exact Option.isSome_iff_exists.mpr ⟨screen, hscreen⟩
  · rw [avsRecvAudiodata_of_long s frame h] at ht
    cases ht

/-- One frame meets the law exactly when it fits the buffer and the global is right. -/
theorem frameLaw_iff (s : Process) (frame : Frame) :
    FrameLaw s frame ↔ frame.size.toNat ≤ AUDIO_BUFFER_SIZE ∧ ScreenOk s := by
  rw [← frame.size_eq]
  constructor
  · intro h
    -- Both sides of the law are a success, and a long frame has none.
    have hok : ∃ t, s.avsRecvAudiodata frame = .ok t := by
      rcases h with hsame | ⟨_, _, t, ht⟩
      · exact ⟨s, hsame⟩
      · exact ⟨t, ht.result⟩
    obtain ⟨t, ht⟩ := hok
    refine ⟨?_, screenOk_of_avsRecvAudiodata ht⟩
    by_contra hlong
    rw [avsRecvAudiodata_of_long s frame hlong] at ht
    cases ht
  · rintro ⟨hfits, hs⟩
    obtain ⟨t, ht, -⟩ := avsRecvAudiodata_ok hs frame hfits
    exact Or.inr ⟨_, _, t, delivered_of_fits hfits ht⟩

/-- Every sequence of frames, of any 32-bit sizes and from any state of the process: each
frame meets the law exactly when each of them fits the 3840 bytes of the buffer and
`AvsSmartScreen` is null or names a live smart screen. -/
theorem frames_lawful_iff (s : Process) (frames : List Frame) :
    TryEachStep Process.avsRecvAudiodata FrameLaw s frames
      ↔ ∀ frame ∈ frames, frame.size.toNat ≤ AUDIO_BUFFER_SIZE ∧ ScreenOk s := by
  induction frames generalizing s with
  | nil => simp [TryEachStep]
  | cons frame frames ih =>
    rw [List.forall_mem_cons]
    constructor
    · intro h
      -- The first frame meets the law, so it succeeds, and the rest starts behind it.
      have hfirst : FrameLaw s frame := ((eachStep_cons _ _ _).mp h).1
      have hframe := (frameLaw_iff s frame).mp hfirst
      obtain ⟨t, ht, -⟩ := avsRecvAudiodata_ok hframe.2 frame (frame.size_eq ▸ hframe.1)
      have hrest := (ih t).mp ((tryEachStep_cons ht).mp h).2
      exact ⟨hframe, fun f hf => ⟨(hrest f hf).1, hframe.2⟩⟩
    · rintro ⟨hframe, hrest⟩
      -- The global stays right over the first frame.
      obtain ⟨t, ht, hs⟩ := avsRecvAudiodata_ok hframe.2 frame (frame.size_eq ▸ hframe.1)
      have htail := (ih t).mpr fun f hf => ⟨(hrest f hf).1, hs⟩
      exact (tryEachStep_cons ht).mpr ⟨(frameLaw_iff s frame).mpr hframe, htail⟩

/-- A frame of `size` zero bytes. -/
def zeroFrame (size : UInt32) : Frame where
  data := List.replicate size.toNat 0
  size := size
  size_eq := List.length_replicate

/-- A frame of 3841 bytes, one more than the buffer has, on a process with an open stream:
the copy runs over the end of the buffer. -/
theorem long_frame_overflows :
    ScreenOk openProcess ∧
    openProcess.avsRecvAudiodata (zeroFrame 3841) = .error .bufferOverflow ∧
    ¬ FrameLaw openProcess (zeroFrame 3841) := by
  have hsize : ¬ (zeroFrame 3841).size.toNat ≤ AUDIO_BUFFER_SIZE := by decide
  refine ⟨?_, ?_, ?_⟩
  · intro p hp
    obtain rfl : 0 = p := Option.some.inj hp
    rfl
  · exact avsRecvAudiodata_of_long openProcess _ ((zeroFrame 3841).size_eq ▸ hsize)
  · intro h
    exact hsize ((frameLaw_iff openProcess _).mp h).1

end XrSpeechAvs.Proofs
