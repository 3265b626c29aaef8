import XrSpeechAvs.Lib.Run
import XrSpeechAvs.Proofs.InitMembers

/-!
# `XrSpeechAvs.Proofs.Microphone`: the microphone control and the audio path

`SmartScreen::Init` gives the voice handler to the `GUIManager` as its microphone, and it
copies the writer of the handler into `v_writer`. From then on the two are apart: the
`GUIManager` controls the handler, and `SmartScreen::Data` writes through the copy.

`createWriter` may return null. That is only logged, so an `Init` that returned true may be
without a writer. `ready_of_init` is about the others.

The control calls report success and do nothing else. So the microphone is always on
(`micRun_open`), and the law "no word after a stop" holds exactly in the runs without a
stop (`mic_always_open`).
-/

set_option autoImplicit false

namespace XrSpeechAvs.Proofs

open XrSpeechAvs.Impl
open XrSpeechAvs.Lib

/-- A control call of the `GUIManager` on its microphone, or a `SmartScreen::Data` with the
memory at its pointer and the length. -/
inductive MicEvent where
  | startStreamingMicrophoneData
  | stopStreamingMicrophoneData
  | data (bytes : List Byte) (length : UInt16)
  deriving DecidableEq, Repr

/-- The smart screen, with the voice handler that the `GUIManager` shares, and the SDK. -/
structure Mic where
  screen : SmartScreen
  sdk : Sdk

namespace Mic

/-- `isStreaming` of the shared voice handler. -/
def isStreaming (s : Mic) : Option Bool :=
  s.screen.thunderVoiceHandler.map ThunderVoiceHandler.isStreaming

/-- A call on the shared voice handler. -/
def onHandler (s : Mic) (f : ThunderVoiceHandler → Bool × ThunderVoiceHandler) : Mic :=
  { s with screen := { s.screen with
      thunderVoiceHandler := s.screen.thunderVoiceHandler.map fun handler => (f handler).2 } }

/-- One event. -/
def step (s : Mic) : MicEvent → Mic
  | .startStreamingMicrophoneData =>
    s.onHandler ThunderVoiceHandler.startStreamingMicrophoneData
  | .stopStreamingMicrophoneData =>
    s.onHandler ThunderVoiceHandler.stopStreamingMicrophoneData
  | .data bytes length => { s with sdk := s.screen.data s.sdk bytes length }

/-- What the shared voice handler answers to a control call. -/
def answer (s : Mic) : MicEvent → Option Bool
  | .startStreamingMicrophoneData =>
    s.screen.thunderVoiceHandler.map fun handler => handler.startStreamingMicrophoneData.1
  | .stopStreamingMicrophoneData =>
    s.screen.thunderVoiceHandler.map fun handler => handler.stopStreamingMicrophoneData.1
  | .data _ _ => none

/-- The control calls report success and change nothing. -/
def Unmoved (s : Mic) : Prop :=
  ∀ e ∈ [MicEvent.startStreamingMicrophoneData, .stopStreamingMicrophoneData],
    s.answer e = some true ∧ s.step e = s

/-- There is a voice handler with a writer, and the writer is copied into `v_writer`. -/
def Ready (s : Mic) : Prop :=
  ∃ handler writer, s.screen.thunderVoiceHandler = some handler ∧
    handler.getWriteHandler = some writer ∧ s.screen.vWriter = some writer

/-- After an attempt of `Init`. -/
def afterInit (env : InitEnv) (screen : SmartScreen) (sdk : Sdk) : Mic where
  screen := (init env screen).2
  sdk := sdk

end Mic

/-- Whether the last control call is a start. `on` is the answer before the event. -/
def listening (on : Bool) : MicEvent → Bool
  | .startStreamingMicrophoneData => true
  | .stopStreamingMicrophoneData => false
  | .data _ _ => on

/-- The whole words that an event brings. -/
def wordsOf : MicEvent → List Word
  | .data bytes length => pairs (bytes.take (length.toNat / WORD_SIZE * WORD_SIZE))
  | _ => []

/-- The microphone agrees with the control calls: `isStreaming` says whether it is on, and a
`Data` writes its words when it is on and nothing when it is off. -/
def MicAgrees (s : Mic) (on : Bool) : Prop :=
  s.isStreaming = some on ∧
  ∀ bytes length, (s.step (.data bytes length)).sdk.words
    = s.sdk.words ++ if on then wordsOf (.data bytes length) else []

/-- An attempt that returned true and got a writer leaves the handler and the copy of its
writer. -/
theorem ready_of_init {env : InitEnv} {screen : SmartScreen} (sdk : Sdk)
    (htrue : (init env screen).1 = .ret true)
    (hwriter : (init env screen).2.vWriter.isSome = true) :
    (Mic.afterInit env screen sdk).Ready := by
  -- The attempt came to `initVoice`, which creates the handler on a stream.
  obtain ⟨stream, -, hvoice⟩ :=
    (attemptMembers screen env).voice_new (reachesVoice_of_true htrue).1
  have hhandler := congrArg VoiceMembers.thunderVoiceHandler hvoice
  have hcopy : (init env screen).2.vWriter = stream.createWriter :=
    congrArg VoiceMembers.vWriter hvoice
  rw [hcopy] at hwriter
  obtain ⟨writer, hcreated⟩ := Option.isSome_iff_exists.mp hwriter
  exact ⟨_, writer, hhandler, hcreated, hcopy.trans hcreated⟩

/-- One event keeps the writer, and it adds its words whatever the control calls were. -/
theorem mic_step {s : Mic} (h : s.Ready) (e : MicEvent) :
    (s.step e).Ready ∧ (s.step e).sdk.words = s.sdk.words ++ wordsOf e := by
  obtain ⟨handler, writer, hhandler, hwrite, hcopy⟩ := h
  cases e with
  | startStreamingMicrophoneData =>
    refine ⟨⟨handler, writer, ?_, hwrite, hcopy⟩, (List.append_nil _).symm⟩
    show s.screen.thunderVoiceHandler.map _ = some handler
    rw [hhandler]
    rfl
  | stopStreamingMicrophoneData =>
    -- The stop leaves the handler as it is, and it does not own `v_writer`.
    refine ⟨⟨handler, writer, ?_, hwrite, hcopy⟩, (List.append_nil _).symm⟩
    show s.screen.thunderVoiceHandler.map _ = some handler
    rw [hhandler]
    rfl
  | data bytes length =>
    refine ⟨⟨handler, writer, hhandler, hwrite, hcopy⟩, ?_⟩
    show (s.screen.data s.sdk bytes length).words = _
    rw [SmartScreen.data_of_writer hcopy]
    rfl

/-- A voice handler is always streaming. -/
theorem isStreaming_of_ready {s : Mic} (h : s.Ready) : s.isStreaming = some true := by
  obtain ⟨handler, -, hhandler, -⟩ := h
  unfold Mic.isStreaming
  rw [hhandler]
  rfl

/-- The control calls of a voice handler are stubs. -/
theorem unmoved_of_ready {s : Mic} (h : s.Ready) : s.Unmoved := by
  obtain ⟨handler, -, hhandler, -⟩ := h
  -- Both calls return the handler as it is.
  have hkeep : ∀ f : ThunderVoiceHandler → Bool × ThunderVoiceHandler,
      (∀ handler, (f handler).2 = handler) → s.onHandler f = s := by
    intro f hf
    have hsame : s.screen.thunderVoiceHandler.map (fun handler => (f handler).2)
        = s.screen.thunderVoiceHandler := by
      rw [hhandler, Option.map_some, hf]
    unfold Mic.onHandler
    rw [hsame]
  intro e he
  simp only [List.mem_cons, List.not_mem_nil, or_false] at he
  rcases he with rfl | rfl
  · exact ⟨by rw [Mic.answer, hhandler]; rfl, hkeep _ fun _ => rfl⟩
  · exact ⟨by rw [Mic.answer, hhandler]; rfl, hkeep _ fun _ => rfl⟩

/-- Over any run of control calls and frames, the microphone stays on, and the stream gets
the words of every frame. -/
theorem micRun_open {s : Mic} (h : s.Ready) (es : List MicEvent) :
    (run Mic.step s es).Ready ∧
      (run Mic.step s es).sdk.words = s.sdk.words ++ es.flatMap wordsOf := by
  induction es generalizing s with
  | nil => exact ⟨h, (List.append_nil _).symm⟩
  | cons e es ih =>
    obtain ⟨hready, hwords⟩ := mic_step h e
    obtain ⟨hready', hwords'⟩ := ih hready
    refine ⟨hready', ?_⟩
    rw [run_cons, hwords', hwords, List.flatMap_cons, List.append_assoc]

/-- The microphone agrees with the control calls exactly when they say that it is on. -/
theorem micAgrees_iff {s : Mic} (h : s.Ready) (on : Bool) : MicAgrees s on ↔ on = true := by
  constructor
  · rintro ⟨hstreaming, -⟩
    rw [isStreaming_of_ready h] at hstreaming
    exact (Option.some.inj hstreaming).symm
  · rintro rfl
    exact ⟨isStreaming_of_ready h, fun bytes length => (mic_step h _).2⟩

/-- The microphone agrees with the control calls at every point of a run exactly when none of
them is a stop. -/
theorem micAgrees_run_iff {s : Mic} (h : s.Ready) (es : List MicEvent) :
    (∀ pre, pre <+: es → MicAgrees (run Mic.step s pre) (run listening true pre))
      ↔ .stopStreamingMicrophoneData ∉ es := by
  have hpre : ∀ pre, MicAgrees (run Mic.step s pre) (run listening true pre)
      ↔ run listening true pre = true := fun pre => micAgrees_iff (micRun_open h pre).1 _
  simp only [hpre]
  -- What is left speaks about the control calls only.
  have hrun : Throughout listening (· = true) true es
      ↔ EachStep listening (fun _ e => e ≠ .stopStreamingMicrophoneData) true es := by
    refine throughout_iff_eachStep (I := fun _ => True) (A := fun _ _ => True)
      (fun _ _ _ _ => trivial) ?_ trivial rfl (eachStep_of_forall (fun _ _ => trivial) _ _)
    rintro on e - rfl -
    cases e <;> simp [listening]
  rw [eachStep_event_iff] at hrun
  refine hrun.trans ⟨fun hne hmem => hne _ hmem rfl, fun hnot e he heq => hnot (heq ▸ he)⟩

/-- From the state after an `Init` that returned true and got a writer, with its start as the last
control call so far: over any run, `isStreaming` is true at every point, the control calls report
success and change nothing, and the stream gets the words of every frame. The microphone agrees
with the control calls at every point exactly when none of them is a stop. -/
theorem mic_always_open (env : InitEnv) (screen : SmartScreen) (sdk : Sdk)
    (htrue : (init env screen).1 = .ret true)
    (hwriter : (init env screen).2.vWriter.isSome = true) (es : List MicEvent) :
    Throughout Mic.step (fun t => t.isStreaming = some true ∧ t.Unmoved)
      (Mic.afterInit env screen sdk) es ∧
    (run Mic.step (Mic.afterInit env screen sdk) es).sdk.words
      = sdk.words ++ es.flatMap wordsOf ∧
    ((∀ pre, pre <+: es → MicAgrees (run Mic.step (Mic.afterInit env screen sdk) pre)
        (run listening true pre))
      ↔ .stopStreamingMicrophoneData ∉ es) := by
  have hready := ready_of_init sdk htrue hwriter
  refine ⟨fun pre _ => ?_, (micRun_open hready es).2, micAgrees_run_iff hready es⟩
  have hpre := (micRun_open hready pre).1
  exact ⟨isStreaming_of_ready hpre, unmoved_of_ready hpre⟩

/-- A smart screen after a first attempt in which nothing is missing. -/
def readyMic : Mic := Mic.afterInit (fullEnv (smallConfig 1 ['6'])) .new {}

/-- The law for a frame between two starts. -/
theorem mic_always_open_start :
    (run Mic.step readyMic [.startStreamingMicrophoneData, .data [1, 2] 2,
      .startStreamingMicrophoneData]).sdk.words = [(1, 2)] ∧
    MicAgrees (run Mic.step readyMic [.startStreamingMicrophoneData, .data [1, 2] 2,
      .startStreamingMicrophoneData]) true := by
  obtain ⟨-, hwords, hagrees⟩ := mic_always_open (fullEnv (smallConfig 1 ['6'])) .new {} rfl rfl
    [.startStreamingMicrophoneData, .data [1, 2] 2, .startStreamingMicrophoneData]
  exact ⟨hwords, hagrees.mpr (by decide) _ (List.prefix_refl _)⟩

/-- A frame after a stop is written, and the microphone reports that it is on. -/
theorem stopped_mic_writes :
    (init (fullEnv (smallConfig 1 ['6'])) .new).1 = .ret true ∧
    run listening true [.stopStreamingMicrophoneData] = false ∧
    (run Mic.step readyMic [.stopStreamingMicrophoneData]).isStreaming = some true ∧
    (run Mic.step readyMic [.stopStreamingMicrophoneData, .data [1, 2] 2]).sdk.words
      = [(1, 2)] := by
  refine ⟨rfl, rfl, rfl, rfl⟩

end XrSpeechAvs.Proofs
