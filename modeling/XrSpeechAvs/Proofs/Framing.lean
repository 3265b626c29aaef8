import XrSpeechAvs.AvsSdt
import XrSpeechAvs.Lib.Run

/-!
# `XrSpeechAvs.Proofs.Framing`: from audio frames to the words of the stream

A frame of the router goes through `avs_recv_audiodata`, `Voice_Data` and
`SmartScreen::Data`. On the way it is copied into `audio_buffer`, its size is cut to 16
bits, and the size is divided by the word size of the writer.

* `recv_frame`: one frame that fits the buffer adds the words of its own bytes. The bytes
  of the buffer behind the frame are not written, and the size survives the cut.
* `recv_frames_words`: the words of a run, and the exact framings for which they are the
  words of the whole byte sequence.

Nothing carries the last byte of an odd frame over to the next one. That byte is dropped,
and the bytes after it move into the other half of their word (`odd_frames_shift`).
-/

set_option autoImplicit false

namespace XrSpeechAvs.Proofs

open XrSpeechAvs.Impl
open XrSpeechAvs.Lib

/-- The smart screen behind the global is live, and it has a writer. -/
def StreamOpen (s : Process) : Prop :=
  ∃ p screen writer, s.avsSmartScreen = some p ∧ s.screens p = some screen ∧
    screen.vWriter = some writer

/-- The bytes that the frames bring, in order. -/
def received (frames : List Frame) : List Byte := (frames.map Frame.data).flatten

/-- The first words of the buffer are those of the frame that was copied last. -/
theorem pairs_take_memcpy (buffer : AudioBuffer) (data : List Byte)
    (h : data.length ≤ AUDIO_BUFFER_SIZE) :
    pairs ((buffer.memcpy data h).bytes.take (data.length / WORD_SIZE * WORD_SIZE))
      = pairs data := by
  have hle : data.length / WORD_SIZE * WORD_SIZE ≤ data.length := Nat.div_mul_le_self _ _
  show pairs ((data ++ buffer.bytes.drop data.length).take _) = pairs data
  rw [List.take_append_of_le_length hle]
  exact pairs_take data

/-- A size that fits the buffer survives the cut to 16 bits. -/
theorem toNat_size_toUInt16 (frame : Frame) (h : frame.data.length ≤ AUDIO_BUFFER_SIZE) :
    frame.size.toUInt16.toNat = frame.data.length := by
  have hsize : frame.size.toNat ≤ 3840 := frame.size_eq ▸ h
  rw [UInt32.toNat_toUInt16, frame.size_eq]
  exact Nat.mod_eq_of_lt (by omega)

/-- One frame that fits adds the words of its own bytes, and the stream stays open. -/
theorem recv_frame {s : Process} (hs : StreamOpen s) (frame : Frame)
    (h : frame.data.length ≤ AUDIO_BUFFER_SIZE) :
    ∃ t, s.step (.avsRecvAudiodata frame) = .ok t ∧ StreamOpen t ∧
      t.sdk.words = s.sdk.words ++ pairs frame.data := by
  obtain ⟨p, screen, writer, hp, hscreen, hwriter⟩ := hs
  -- The callback copies the frame into the buffer and hands the buffer to `Voice_Data`.
  let buffer := s.audioBuffer.memcpy frame.data h
  have hrun : s.step (.avsRecvAudiodata frame)
      = ({ s with audioBuffer := buffer } : Process).voiceData buffer.bytes
          frame.size.toUInt16 := Process.avsRecvAudiodata_of_fits s frame h
  rw [hrun]
  unfold Process.voiceData
  rw [Process.withSmartScreen_of_live (s := { s with audioBuffer := buffer }) _ hp hscreen]
  refine ⟨_, rfl, ⟨p, screen, writer, hp, Function.update_self .., hwriter⟩, ?_⟩
  show (screen.data s.sdk buffer.bytes frame.size.toUInt16).words = _
  -- The length that `Data` reads is that of the frame.
  rw [SmartScreen.data_of_writer hwriter, toNat_size_toUInt16 frame h]
  show s.sdk.words ++ _ = _
  rw [pairs_take_memcpy]

/-- A run of frames that fit adds the words of each frame. -/
theorem recv_frames {s : Process} (hs : StreamOpen s) (frames : List Frame)
    (h : ∀ frame ∈ frames, frame.data.length ≤ AUDIO_BUFFER_SIZE) :
    ∃ t, tryRun Process.step s (frames.map .avsRecvAudiodata) = .ok t ∧ StreamOpen t ∧
      t.sdk.words = s.sdk.words ++ (frames.map Frame.data).flatMap pairs := by
  induction frames generalizing s with
  | nil => exact ⟨s, rfl, hs, by simp⟩
  | cons frame frames ih =>
    -- The first frame opens the tail, which then adds its own words.
    obtain ⟨m, hm, hopen, hwords⟩ := recv_frame hs frame (h frame (by simp))
    obtain ⟨t, ht, hopen', hwords'⟩ := ih hopen fun f hf => h f (by simp [hf])
    refine ⟨t, ?_, hopen', ?_⟩
    · rw [List.map_cons]
      exact tryRun_cons_ok.mpr ⟨m, hm, ht⟩
    · rw [hwords', hwords, List.map_cons, List.flatMap_cons, List.append_assoc]

/-- Every run of frames that fit the buffer writes, for each frame, the words of that
frame's own bytes. The result is the words of the whole byte sequence exactly when the
frames are `Aligned`: at most one frame is odd, and the bytes after it repeat its last
byte. Frames of even length followed by one frame of any length are `Aligned`. -/
theorem recv_frames_words (s : Process) (frames : List Frame) (hs : StreamOpen s)
    (h : ∀ frame ∈ frames, frame.data.length ≤ AUDIO_BUFFER_SIZE) :
    ∃ t, tryRun Process.step s (frames.map .avsRecvAudiodata) = .ok t ∧
      t.sdk.words = s.sdk.words ++ (frames.map Frame.data).flatMap pairs ∧
      (t.sdk.words = s.sdk.words ++ pairs (received frames)
        ↔ Aligned (frames.map Frame.data)) ∧
      ((∀ frame ∈ frames.dropLast, Even frame.data.length) →
        t.sdk.words = s.sdk.words ++ pairs (received frames)) := by
  obtain ⟨t, ht, -, hwords⟩ := recv_frames hs frames h
  have hiff : t.sdk.words = s.sdk.words ++ pairs (received frames)
      ↔ Aligned (frames.map Frame.data) := by
    rw [hwords, List.append_right_inj]
    exact flatMap_pairs_eq_iff _
  refine ⟨t, ht, hwords, hiff, fun heven => hiff.mpr ?_⟩
  -- Frames of even length in front of the last one are aligned.
  rcases List.eq_nil_or_concat frames with rfl | ⟨init, last, rfl⟩
  · trivial
  · rw [List.concat_eq_append, List.dropLast_concat] at heven
    rw [List.concat_eq_append, List.map_append]
    refine aligned_concat_of_even (fun f hf => ?_) last.data
    obtain ⟨frame, hframe, rfl⟩ := List.mem_map.mp hf
    exact heven frame hframe

/-- A smart screen with a writer behind the global. -/
def openProcess : Process :=
  { Process.init with
    avsSmartScreen := some 0
    screens := Function.update (fun _ => none) 0 (some { vWriter := some ⟨7⟩ }) }

/-- Two frames of three bytes. -/
def cutFrames : List Frame := [⟨[1, 2, 3], 3, rfl⟩, ⟨[4, 5, 6], 3, rfl⟩]

/-- The same bytes in one frame. -/
def wholeFrame : List Frame := [⟨[1, 2, 3, 4, 5, 6], 6, rfl⟩]

/-- The law for two odd frames. -/
theorem recv_cutFrames_words :
    ∃ t, tryRun Process.step openProcess (cutFrames.map .avsRecvAudiodata) = .ok t ∧
      t.sdk.words = [(1, 2), (4, 5)] := by
  obtain ⟨t, ht, hwords, -⟩ := recv_frames_words openProcess cutFrames
    ⟨0, _, ⟨7⟩, rfl, rfl, rfl⟩ (by decide)
  exact ⟨t, ht, hwords⟩

/-- Two odd frames: the third byte and the sixth are lost, and the fourth one moves into
the first half of a word. The same bytes in one frame give other words. -/
theorem odd_frames_shift :
    received cutFrames = received wholeFrame ∧
    (tryRun Process.step openProcess (cutFrames.map .avsRecvAudiodata)).map (·.sdk.words)
      = .ok [(1, 2), (4, 5)] ∧
    (tryRun Process.step openProcess (wholeFrame.map .avsRecvAudiodata)).map (·.sdk.words)
      = .ok [(1, 2), (3, 4), (5, 6)] ∧
    pairs (received cutFrames) = [(1, 2), (3, 4), (5, 6)] := by
  refine ⟨rfl, ?_, ?_, rfl⟩
  · rfl
  · rfl

end XrSpeechAvs.Proofs
