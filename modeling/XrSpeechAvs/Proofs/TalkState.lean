import XrSpeechAvs.Impl.Init
import XrSpeechAvs.Lib.Run

/-!
# `XrSpeechAvs.Proofs.TalkState`: the flag and the microphone

`Start` and `Stop` send the same toggle. `m_isStarted` says which of the two is next, so it
has to agree with the talk state of the `GUIManager`: an odd number of delivered toggles
exactly when the flag is set (`Talk.Agrees`).

`SmartScreen::Init` publishes the interaction handler first and binds it to a new
`GUIManager` later. The model interleaves these two steps with `Start` and `Stop`, in any
order. An `Init` that fails in between, or another attempt, is a run like any other.

* `Talk.agrees_step_iff`: a step keeps the agreement exactly when it is `Talk.StepOk`. A
  toggle has to reach the current `GUIManager`, and a new `GUIManager` may only come while
  the flag is clear.
* `talk_lawful_iff`: a run is lawful in every state exactly when each of its steps is
  `Talk.StepOk`.
* `start_before_init_inverts`: a `Start` before `Init` inverts the two for good, and the
  `Stop` after it opens the microphone.
-/

set_option autoImplicit false

namespace XrSpeechAvs.Proofs

open XrSpeechAvs.Impl
open XrSpeechAvs.Lib

/-- The smart screen, the SDK, and the identity of the next `GUIManager`. -/
structure Talk where
  screen : SmartScreen
  sdk : Sdk
  nextManager : Obj

/-- `Start`, `Stop`, and the two steps of `Init` that set up the interaction handler.
`created` says whether `GUIManager::create` returns a `GUIManager` or null. -/
inductive TalkEvent where
  | start
  | stop
  | publish
  | bind (created : Bool)

namespace Talk

/-- A constructed smart screen. -/
def init : Talk := { screen := .new, sdk := {}, nextManager := 0 }

/-- The result of `GUIManager::create`. Each call makes a new object. -/
def createManager (s : Talk) (created : Bool) : Option Obj :=
  if created then some s.nextManager else none

/-- One event. -/
def step (s : Talk) : TalkEvent → Talk
  | .start => { s with
      screen := (s.screen.start s.sdk).1
      sdk := (s.screen.start s.sdk).2 }
  | .stop => { s with
      screen := (s.screen.stop s.sdk).1
      sdk := (s.screen.stop s.sdk).2 }
  | .publish => { s with screen := s.screen.publishInteractionHandler }
  | .bind created => { s with
      screen := (s.screen.bindInteractionHandler (s.createManager created)).2
      nextManager := s.nextManager + 1 }

/-- The toggles that the current `GUIManager` got are odd in number exactly when the flag
is set. -/
def Agrees (s : Talk) : Prop :=
  Odd (s.sdk.holdToTalkCount s.screen.guiManager) ↔ s.screen.isStarted = true

/-- The agreement and what it is for: a repeated `Start` or `Stop` has no further effect,
and a `Stop` never opens the microphone. -/
structure Lawful (s : Talk) : Prop where
  agrees : s.Agrees
  start_again : (s.step .start).step .start = s.step .start
  stop_again : (s.step .stop).step .stop = s.step .stop
  stop_silent : s.sdk.talking s.screen.guiManager = false →
    (s.step .stop).sdk.talking (s.step .stop).screen.guiManager = false

/-- A toggle reaches the current `GUIManager`: there is a handler, and it is bound to it. -/
def Delivers (s : Talk) : Prop :=
  ∃ handler manager, s.screen.aspInputInteractionHandler = some handler ∧
    handler.interactionManager = some manager ∧ s.screen.guiManager = some manager

/-- The steps that keep the agreement. -/
def StepOk (s : Talk) : TalkEvent → Prop
  | .start => s.screen.isStarted = false → s.Delivers
  | .stop => s.screen.isStarted = true → s.Delivers
  | .publish => True
  | .bind _ => s.screen.isStarted = false

/-- No toggle has reached the next `GUIManager`, and the handler is not bound to it. -/
structure Fresh (s : Talk) : Prop where
  delivered : ∀ g ∈ s.sdk.holdToTalks, g < s.nextManager
  bound : ∀ handler g, s.screen.aspInputInteractionHandler = some handler →
    handler.interactionManager = some g → g < s.nextManager

/-! ### One toggle -/

/-- A toggle that is delivered counts for the current `GUIManager`. -/
theorem holdToTalkCount_sendToggle_of_delivers {s : Talk} (h : s.Delivers) :
    (s.screen.sendToggle s.sdk).holdToTalkCount s.screen.guiManager
      = s.sdk.holdToTalkCount s.screen.guiManager + 1 := by
  obtain ⟨handler, manager, hh, hm, hg⟩ := h
  simp only [SmartScreen.sendToggle, InteractionHandler.holdToTalk, hh, hm, hg]
  exact Sdk.holdToTalkCount_handleHoldToTalk_self s.sdk manager

/-- A toggle that is swallowed, or that reaches another `GUIManager`, does not count for
the current one. -/
theorem holdToTalkCount_sendToggle_of_not_delivers {s : Talk} (h : ¬ s.Delivers) :
    (s.screen.sendToggle s.sdk).holdToTalkCount s.screen.guiManager
      = s.sdk.holdToTalkCount s.screen.guiManager := by
  unfold SmartScreen.sendToggle InteractionHandler.holdToTalk
  cases hh : s.screen.aspInputInteractionHandler with
  | none => rfl
  | some handler =>
    cases hm : handler.interactionManager with
    | none => simp only [hm]
    | some manager =>
      simp only [hm]
      exact Sdk.holdToTalkCount_handleHoldToTalk_of_ne s.sdk manager _
        fun hg => h ⟨handler, manager, hh, hm, hg⟩

/-- The toggles that the SDK gets are those to the `GUIManager` of the handler. -/
theorem mem_holdToTalks_sendToggle {s : Talk} {g : Obj}
    (h : g ∈ (s.screen.sendToggle s.sdk).holdToTalks) :
    g ∈ s.sdk.holdToTalks ∨ ∃ handler, s.screen.aspInputInteractionHandler = some handler ∧
      handler.interactionManager = some g := by
  unfold SmartScreen.sendToggle InteractionHandler.holdToTalk at h
  cases hh : s.screen.aspInputInteractionHandler with
  | none =>
    rw [hh] at h
    exact Or.inl h
  | some handler =>
    -- A handler on a null `GUIManager` gives the SDK nothing.
    cases hm : handler.interactionManager with
    | none =>
      simp only [hh, hm] at h
      exact Or.inl h
    | some manager =>
      simp only [hh, hm, Sdk.handleHoldToTalk, List.mem_append, List.mem_singleton] at h
      rcases h with h | rfl
      · exact Or.inl h
      · exact Or.inr ⟨handler, rfl, hm⟩

/-- A toggle to the `GUIManager` of the handler keeps the freshness bound. -/
theorem Fresh.delivered_sendToggle {s : Talk} (h : s.Fresh) :
    ∀ g ∈ (s.screen.sendToggle s.sdk).holdToTalks, g < s.nextManager := by
  intro g hg
  rcases mem_holdToTalks_sendToggle hg with hg | ⟨handler, hh, hm⟩
  · exact h.delivered g hg
  · exact h.bound handler g hh hm

/-- The start of every run is fresh. -/
theorem fresh_init : Fresh init where
  delivered := by simp [init]
  bound := by simp [init, SmartScreen.new]

/-- Every event keeps the freshness of the next `GUIManager`. -/
theorem fresh_step (s : Talk) (e : TalkEvent) (h : s.Fresh) : (s.step e).Fresh := by
  cases e with
  | start =>
    simp only [step, SmartScreen.start_eq]
    cases s.screen.isStarted with
    | true => exact h
    | false => exact ⟨h.delivered_sendToggle, h.bound⟩
  | stop =>
    simp only [step, SmartScreen.stop_eq]
    cases s.screen.isStarted with
    | true => exact ⟨h.delivered_sendToggle, h.bound⟩
    | false => exact h
  | publish =>
    refine ⟨h.delivered, fun handler g hh hm => ?_⟩
    -- The published handler is bound to nothing.
    have hnew : handler = { interactionManager := none } := (Option.some.inj hh).symm
    rw [hnew] at hm
    cases hm
  | bind created =>
    refine ⟨fun g hg => Nat.lt_succ_of_lt (h.delivered g hg), fun handler g hh hm => ?_⟩
    show g < s.nextManager + 1
    simp only [step, SmartScreen.bindInteractionHandler] at hh
    cases hold : s.screen.aspInputInteractionHandler with
    | none => simp [hold] at hh
    | some old =>
      cases created with
      | true =>
        simp only [hold, createManager, if_true, InteractionHandler.initializeWith] at hh
        have hnew := Option.some.inj hh
        rw [← hnew] at hm
        have hg : s.nextManager = g := Option.some.inj hm
        exact hg ▸ Nat.lt_succ_self s.nextManager
      | false =>
        simp only [hold, createManager, InteractionHandler.initializeWith] at hh
        have hsame : old = handler := Option.some.inj hh
        exact Nat.lt_succ_of_lt (h.bound old g hold (hsame ▸ hm))

/-! ### The step lemma -/

/-- No toggle has reached a `GUIManager` that was just created, nor a null pointer. -/
theorem Fresh.holdToTalkCount_createManager {s : Talk} (h : s.Fresh) (created : Bool) :
    s.sdk.holdToTalkCount (s.createManager created) = 0 := by
  cases created with
  | false => rfl
  | true =>
    show s.sdk.holdToTalks.count s.nextManager = 0
    exact List.count_eq_zero.mpr fun hmem => Nat.lt_irrefl _ (h.delivered _ hmem)

/-- Binding sets the `GUIManager` and leaves the flag alone. -/
theorem bindInteractionHandler_guiManager (screen : SmartScreen) (manager : Option Obj) :
    (screen.bindInteractionHandler manager).2.guiManager = manager ∧
    (screen.bindInteractionHandler manager).2.isStarted = screen.isStarted := by
  unfold SmartScreen.bindInteractionHandler
  cases hh : screen.aspInputInteractionHandler <;> simp

/-- A step keeps the agreement exactly when it is `StepOk`. -/
theorem agrees_step_iff (s : Talk) (e : TalkEvent) (hf : s.Fresh) (h : s.Agrees) :
    (s.step e).Agrees ↔ s.StepOk e := by
  cases e with
  | start =>
    simp only [Agrees, step, SmartScreen.start_eq, StepOk]
    cases hs : s.screen.isStarted with
    | true => simpa [hs, Agrees] using h
    | false =>
      have heven : ¬ Odd (s.sdk.holdToTalkCount s.screen.guiManager) := by
        intro hodd
        have hstarted := h.mp hodd
        simp [hs] at hstarted
      -- The flag is set in any case, so the toggle has to arrive.
      by_cases hd : s.Delivers
      · simp [hd, holdToTalkCount_sendToggle_of_delivers hd, Nat.odd_add_one, heven]
      · simp [hd, holdToTalkCount_sendToggle_of_not_delivers hd, heven]
  | stop =>
    simp only [Agrees, step, SmartScreen.stop_eq, StepOk]
    cases hs : s.screen.isStarted with
    | false => simpa [hs, Agrees] using h
    | true =>
      have hodd : Odd (s.sdk.holdToTalkCount s.screen.guiManager) := h.mpr hs
      -- The flag is cleared in any case, so the toggle has to arrive.
      by_cases hd : s.Delivers
      · simp [hd, holdToTalkCount_sendToggle_of_delivers hd, Nat.odd_add_one, hodd]
      · simp [hd, holdToTalkCount_sendToggle_of_not_delivers hd, hodd]
  | publish =>
    -- Publishing touches neither the flag nor the `GUIManager`.
    exact ⟨fun _ => trivial, fun _ => h⟩
  | bind created =>
    obtain ⟨hg, hs⟩ := bindInteractionHandler_guiManager s.screen (s.createManager created)
    simp only [Agrees, step, StepOk, hg, hs, hf.holdToTalkCount_createManager created]
    simp

/-- The agreement carries the rest of the law. -/
theorem lawful_iff_agrees (s : Talk) : s.Lawful ↔ s.Agrees := by
  refine ⟨Lawful.agrees, fun h => ⟨h, ?_, ?_, ?_⟩⟩
  · show ({ s with screen := _, sdk := _ } : Talk) = _
    rw [show (s.step .start).screen = (s.screen.start s.sdk).1 from rfl,
      show (s.step .start).sdk = (s.screen.start s.sdk).2 from rfl, SmartScreen.start_start]
    rfl
  · show ({ s with screen := _, sdk := _ } : Talk) = _
    rw [show (s.step .stop).screen = (s.screen.stop s.sdk).1 from rfl,
      show (s.step .stop).sdk = (s.screen.stop s.sdk).2 from rfl, SmartScreen.stop_stop]
    rfl
  · intro hsilent
    have hs : s.screen.isStarted = false := by
      have heven : ¬ Odd (s.sdk.holdToTalkCount s.screen.guiManager) := by
        simpa [Sdk.talking] using hsilent
      have hnot : ¬ s.screen.isStarted = true := fun hs => heven (h.mpr hs)
      simpa using hnot
    -- A `Stop` with a clear flag does nothing.
    have hnop : s.step .stop = s := by simp [step, SmartScreen.stop_eq, hs]
    rw [hnop]
    exact hsilent

end Talk

/-- In every run of `Start`, `Stop` and the two steps of `Init`, from a constructed smart
screen on: every state is lawful exactly when every step is `Talk.StepOk`. -/
theorem talk_lawful_iff (es : List TalkEvent) :
    Throughout Talk.step Talk.Lawful Talk.init es
      ↔ EachStep Talk.step Talk.StepOk Talk.init es := by
  have hlaw : Talk.Lawful = Talk.Agrees := funext fun s => propext (Talk.lawful_iff_agrees s)
  rw [hlaw]
  refine throughout_iff_eachStep (A := fun _ _ => True)
    (fun s e hf _ => Talk.fresh_step s e hf) (fun s e hf h _ => Talk.agrees_step_iff s e hf h)
    Talk.fresh_init ?_ (eachStep_of_forall (fun _ _ => trivial) _ _)
  show Odd 0 ↔ false = true
  decide

/-- A `Start` before `Init` sets the flag and its toggle is lost. After `Init`, the `Stop`
that should close the transmission opens the microphone, with the flag clear. -/
theorem start_before_init_inverts :
    ¬ Throughout Talk.step Talk.Agrees Talk.init [.start, .publish, .bind true, .stop] ∧
    (run Talk.step Talk.init [.start, .publish, .bind true]).sdk.talking (some 0) = false ∧
    (run Talk.step Talk.init [.start, .publish, .bind true, .stop]).sdk.talking (some 0)
      = true ∧
    (run Talk.step Talk.init [.start, .publish, .bind true, .stop]).screen.isStarted
      = false := by
  refine ⟨fun h => ?_, by decide, by decide, by decide⟩
  have hstart : Talk.Agrees (run Talk.step Talk.init [.start]) := h [.start] (by simp)
  exact absurd (hstart.mpr rfl) (by decide)

end XrSpeechAvs.Proofs
