import Mathlib.Data.List.Basic
import Mathlib.Data.List.Forall2

/-!
# `XrSpeechAvs.Lib.Run`: runs of a step function

A system is a step function `step : σ → ε → σ` over its states and events. A run is a list
of events, and `run step s es` folds the step over it. Two predicates speak about a whole
run:

* `Throughout step P s es`: every state that the run visits satisfies `P`, the start
  included;
* `EachStep step C s es`: every step of the run meets `C`, a condition on the state before
  the step and on the event.

`throughout_of_eachStep` is the invariant rule. `throughout_iff_eachStep` is its exact
form: when one step keeps `P` exactly if it meets `C`, a run stays in `P` exactly if each
of its steps meets `C`. Both rules take an assumption `A` on the steps, for what the
environment promises.

An event may be nobody's business. `ownEvents` keeps those events of a run that a test of
the state selects, and `run_view` says that a view which the other events leave alone runs
on the selected ones.

A step that can fail is run by `tryRun`. The first failure stays.
-/

set_option autoImplicit false

namespace XrSpeechAvs.Lib

variable {σ ε φ : Type*}

/-- The state after the events `es`, one step each. -/
def run (step : σ → ε → σ) (s : σ) (es : List ε) : σ := es.foldl step s

/-- The empty run stays at its start. -/
@[simp] theorem run_nil (step : σ → ε → σ) (s : σ) : run step s [] = s := rfl

/-- The first event of a run steps from the start. -/
@[simp] theorem run_cons (step : σ → ε → σ) (s : σ) (e : ε) (es : List ε) :
    run step s (e :: es) = run step (step s e) es := rfl

/-- The last event of a run steps from the state before it. -/
theorem run_concat (step : σ → ε → σ) (s : σ) (es : List ε) (e : ε) :
    run step s (es ++ [e]) = step (run step s es) e := List.foldl_concat ..

/-- `P` holds in every state that the run visits, its start included. -/
def Throughout (step : σ → ε → σ) (P : σ → Prop) (s : σ) (es : List ε) : Prop :=
  ∀ p, p <+: es → P (run step s p)

/-- Every step of the run meets `C`, at the state before the step. -/
def EachStep (step : σ → ε → σ) (C : σ → ε → Prop) (s : σ) (es : List ε) : Prop :=
  ∀ p e, p ++ [e] <+: es → C (run step s p) e

section
variable {step : σ → ε → σ} {P I : σ → Prop} {A C : σ → ε → Prop}

/-- A property of every visited state holds at the end. -/
theorem Throughout.last {s : σ} {es : List ε} (h : Throughout step P s es) :
    P (run step s es) := h es (List.prefix_refl es)

/-- A property of every visited state holds at the start. -/
theorem Throughout.start {s : σ} {es : List ε} (h : Throughout step P s es) : P s :=
  h [] List.nil_prefix

/-- The empty run visits its start only. -/
@[simp] theorem throughout_nil (s : σ) : Throughout step P s [] ↔ P s := by
  constructor
  · exact Throughout.start
  · intro h p hp
    rw [List.prefix_nil.mp hp]
    exact h

/-- A run visits its start and the states that its tail visits. -/
theorem throughout_cons (s : σ) (e : ε) (es : List ε) :
    Throughout step P s (e :: es) ↔ P s ∧ Throughout step P (step s e) es := by
  constructor
  · intro h
    exact ⟨h.start, fun p hp => h (e :: p) (List.cons_prefix_cons.mpr ⟨rfl, hp⟩)⟩
  · rintro ⟨h0, h⟩ p hp
    cases p with
    | nil => exact h0
    | cons e' p =>
      obtain ⟨rfl, hp'⟩ := List.cons_prefix_cons.mp hp
      exact h p hp'

/-- Two properties hold throughout a run when each of them does. -/
theorem throughout_and {Q : σ → Prop} {s : σ} {es : List ε} :
    Throughout step (fun t => P t ∧ Q t) s es
      ↔ Throughout step P s es ∧ Throughout step Q s es := by
  constructor
  · intro h
    exact ⟨fun p hp => (h p hp).1, fun p hp => (h p hp).2⟩
  · intro h p hp
    exact ⟨h.1 p hp, h.2 p hp⟩

/-- The empty run has no step. -/
@[simp] theorem eachStep_nil (s : σ) : EachStep step C s [] := by
  intro p e hp
  simp at hp

/-- The steps of a run: the first one and those of the tail. -/
theorem eachStep_cons (s : σ) (e : ε) (es : List ε) :
    EachStep step C s (e :: es) ↔ C s e ∧ EachStep step C (step s e) es := by
  constructor
  · intro h
    refine ⟨h [] e (by simp), fun p e' hp => ?_⟩
    exact h (e :: p) e' (List.cons_prefix_cons.mpr ⟨rfl, hp⟩)
  · rintro ⟨h0, h⟩ p e' hp
    cases p with
    | nil =>
      obtain ⟨rfl, -⟩ := List.cons_prefix_cons.mp hp
      exact h0
    | cons e'' p =>
      obtain ⟨rfl, hp'⟩ := List.cons_prefix_cons.mp hp
      exact h p e' hp'

/-- Two conditions hold at every step when each of them does. -/
theorem eachStep_and {D : σ → ε → Prop} {s : σ} {es : List ε} :
    EachStep step (fun t e => C t e ∧ D t e) s es
      ↔ EachStep step C s es ∧ EachStep step D s es := by
  constructor
  · intro h
    exact ⟨fun p e hp => (h p e hp).1, fun p e hp => (h p e hp).2⟩
  · intro h p e hp
    exact ⟨h.1 p e hp, h.2 p e hp⟩

/-- A condition that holds of every state and event holds at every step. -/
theorem eachStep_of_forall (h : ∀ s e, C s e) (s : σ) (es : List ε) :
    EachStep step C s es := fun _ _ _ => h _ _

/-- A condition on the events alone holds at every step exactly when it holds of every
event of the run. -/
theorem eachStep_event_iff (D : ε → Prop) (s : σ) (es : List ε) :
    EachStep step (fun _ e => D e) s es ↔ ∀ e ∈ es, D e := by
  induction es generalizing s with
  | nil => simp
  | cons e es ih => rw [eachStep_cons, ih, List.forall_mem_cons]

/-- The invariant rule. A property of the start that every step keeps, under the condition
`C` on the steps, holds throughout the run. -/
theorem throughout_of_eachStep (hstep : ∀ s e, P s → C s e → P (step s e)) {s : σ}
    {es : List ε} (h0 : P s) (h : EachStep step C s es) : Throughout step P s es := by
  induction es generalizing s with
  | nil => exact (throughout_nil s).mpr h0
  | cons e es ih =>
    obtain ⟨he, hes⟩ := (eachStep_cons s e es).mp h
    exact (throughout_cons s e es).mpr ⟨h0, ih (hstep s e h0 he) hes⟩

/-- The invariant rule for a step that keeps `P` from every state. -/
theorem throughout_of_step (hstep : ∀ s e, P s → P (step s e)) {s : σ} (h0 : P s)
    (es : List ε) : Throughout step P s es :=
  throughout_of_eachStep (C := fun _ _ => True) (fun s e h _ => hstep s e h) h0
    (eachStep_of_forall (fun _ _ => trivial) s es)

/-- The exact invariant rule. `I` is an invariant that every step keeps, and `A` is what the
environment promises about each step. When a step from `P` leads to `P` exactly if it meets
`C`, the run stays in `P` exactly if each of its steps meets `C`. -/
theorem throughout_iff_eachStep (hI : ∀ s e, I s → A s e → I (step s e))
    (hstep : ∀ s e, I s → P s → A s e → (P (step s e) ↔ C s e)) {s : σ} {es : List ε}
    (hI0 : I s) (h0 : P s) (hA : EachStep step A s es) :
    Throughout step P s es ↔ EachStep step C s es := by
  induction es generalizing s with
  | nil => simp [h0]
  | cons e es ih =>
    obtain ⟨hAe, hAes⟩ := (eachStep_cons s e es).mp hA
    rw [throughout_cons, eachStep_cons]
    constructor
    · -- The tail stays in `P`, so its start is in `P`, and the first step has met `C`.
      rintro ⟨-, h⟩
      exact ⟨(hstep s e hI0 h0 hAe).mp h.start, (ih (hI s e hI0 hAe) h.start hAes).mp h⟩
    · -- The first step has met `C`, so the tail starts in `P`.
      rintro ⟨hC, h⟩
      have h1 : P (step s e) := (hstep s e hI0 h0 hAe).mpr hC
      exact ⟨h0, (ih (hI s e hI0 hAe) h1 hAes).mpr h⟩

end

/-! ### A part of the state -/

section
variable {τ : Type*} {step : σ → ε → σ} {part : τ → ε → τ} (proj : σ → τ)

/-- A part of the state that steps on its own runs on its own. -/
theorem run_proj (h : ∀ s e, proj (step s e) = part (proj s) e) (s : σ) (es : List ε) :
    proj (run step s es) = run part (proj s) es := by
  induction es generalizing s with
  | nil => rfl
  | cons e es ih => rw [run_cons, run_cons, ih (step s e), h]

/-- A condition on such a part can be read on the run of the part. -/
theorem eachStep_proj (h : ∀ s e, proj (step s e) = part (proj s) e) (C : τ → ε → Prop)
    (s : σ) (es : List ε) :
    EachStep step (fun s e => C (proj s) e) s es ↔ EachStep part C (proj s) es := by
  unfold EachStep
  simp only [run_proj proj h]

end

/-! ### The events that concern a view -/

/-- The events of the run that `own` selects, at the state before the step. -/
def ownEvents (step : σ → ε → σ) (own : σ → ε → Bool) (s : σ) : List ε → List ε
  | [] => []
  | e :: es =>
    if own s e then e :: ownEvents step own (step s e) es else ownEvents step own (step s e) es

section
variable {τ : Type*} {step : σ → ε → σ} {part : τ → ε → τ} {own : σ → ε → Bool}

/-- A selected first event is kept. -/
theorem ownEvents_cons_own {s : σ} {e : ε} (h : own s e = true) (es : List ε) :
    ownEvents step own s (e :: es) = e :: ownEvents step own (step s e) es := if_pos h

/-- Any other first event is dropped. -/
theorem ownEvents_cons_other {s : σ} {e : ε} (h : ¬ own s e = true) (es : List ε) :
    ownEvents step own s (e :: es) = ownEvents step own (step s e) es := if_neg h

/-- A selection by a part of the state that steps on its own. -/
theorem ownEvents_proj {own : τ → ε → Bool} (proj : σ → τ)
    (h : ∀ s e, proj (step s e) = part (proj s) e) (s : σ) (es : List ε) :
    ownEvents step (fun s e => own (proj s) e) s es = ownEvents part own (proj s) es := by
  induction es generalizing s with
  | nil => rfl
  | cons e es ih =>
    have hrest := ih (step s e)
    rw [h] at hrest
    -- Both runs select the first event, or neither does.
    by_cases he : own (proj s) e = true
    · have hkept : ownEvents step (fun s e => own (proj s) e) s (e :: es)
          = e :: ownEvents step (fun s e => own (proj s) e) (step s e) es := if_pos he
      rw [hkept, ownEvents_cons_own he, hrest]
    · have hdropped : ownEvents step (fun s e => own (proj s) e) s (e :: es)
          = ownEvents step (fun s e => own (proj s) e) (step s e) es := if_neg he
      rw [hdropped, ownEvents_cons_other he, hrest]

/-- A view that steps with the selected events, and that the others leave alone, runs on the
selected events. -/
theorem run_view {view : σ → τ}
    (hown : ∀ s e, own s e = true → view (step s e) = part (view s) e)
    (hother : ∀ s e, ¬ own s e = true → view (step s e) = view s) (s : σ) (es : List ε) :
    view (run step s es) = run part (view s) (ownEvents step own s es) := by
  induction es generalizing s with
  | nil => rfl
  | cons e es ih =>
    rw [run_cons, ih (step s e)]
    -- A selected event is a step of the view, and any other leaves it alone.
    by_cases he : own s e = true
    · rw [ownEvents_cons_own he, run_cons, hown s e he]
    · rw [ownEvents_cons_other he, hother s e he]

/-- To select twice is to select once. `R` relates the state of a run to the state of the
run of its selected events. -/
theorem ownEvents_ownEvents {R : σ → σ → Prop}
    (hown : ∀ s u e, R s u → own s e = true → own u e = true ∧ R (step s e) (step u e))
    (hother : ∀ s u e, R s u → ¬ own s e = true → R (step s e) u) {s u : σ} (h : R s u)
    (es : List ε) : ownEvents step own u (ownEvents step own s es) = ownEvents step own s es := by
  induction es generalizing s u with
  | nil => rfl
  | cons e es ih =>
    by_cases he : own s e = true
    · obtain ⟨hu, hnext⟩ := hown s u e h he
      rw [ownEvents_cons_own he, ownEvents_cons_own hu, ih hnext]
    · rw [ownEvents_cons_other he]
      exact ih (hother s u e h he)

end

/-! ### Steps that can fail -/

/-- A sequence succeeds when its first part does, and then its second part. -/
theorem bind_eq_ok {α β φ : Type} {x : Except φ α} {k : α → Except φ β} {r : β} :
    (x >>= k) = .ok r ↔ ∃ a, x = .ok a ∧ k a = .ok r := by
  cases x with
  | error f =>
    constructor
    · intro h
      cases h
    · rintro ⟨a, h, -⟩
      cases h
  | ok a =>
    constructor
    · intro h
      exact ⟨a, rfl, h⟩
    · rintro ⟨b, hb, h⟩
      obtain rfl := Except.ok.inj hb
      exact h

/-- A function of a result succeeds when the result does. -/
theorem map_eq_ok {α β φ : Type} {f : α → β} {x : Except φ α} {b : β} :
    f <$> x = .ok b ↔ ∃ a, x = .ok a ∧ f a = b := by
  cases x with
  | error e =>
    constructor
    · intro h
      cases h
    · rintro ⟨a, h, -⟩
      cases h
  | ok a =>
    constructor
    · intro h
      exact ⟨a, rfl, Except.ok.inj h⟩
    · rintro ⟨a', h, rfl⟩
      obtain rfl := Except.ok.inj h
      rfl

/-- A map by a function that can fail succeeds when every element does. -/
theorem mapM_eq_ok {α β φ : Type} {f : α → Except φ β} {xs : List α} {ys : List β} :
    xs.mapM f = .ok ys ↔ List.Forall₂ (fun x y => f x = .ok y) xs ys := by
  induction xs generalizing ys with
  | nil =>
    rw [List.mapM_nil, List.forall₂_nil_left_iff]
    constructor
    · intro h
      exact (Except.ok.inj h).symm
    · rintro rfl
      rfl
  | cons x xs ih =>
    -- The first element succeeds, and then the rest.
    rw [List.mapM_cons, bind_eq_ok, List.forall₂_cons_left_iff]
    constructor
    · rintro ⟨y, hy, hrest⟩
      obtain ⟨ys', hys, hcons⟩ := bind_eq_ok.mp hrest
      exact ⟨y, ys', hy, ih.mp hys, (Except.ok.inj hcons).symm⟩
    · rintro ⟨y, ys', hy, hys, rfl⟩
      exact ⟨y, hy, bind_eq_ok.mpr ⟨ys', ih.mpr hys, rfl⟩⟩

/-- A fold that adds one element for each `x` adds the results of the map. -/
theorem foldlM_concat {α β φ : Type} {write : List β → α → Except φ (List β)}
    {entry : α → Except φ β} (hwrite : ∀ out x, write out x = (fun y => out ++ [y]) <$> entry x)
    (out : List β) (xs : List α) :
    xs.foldlM write out = (fun added => out ++ added) <$> xs.mapM entry := by
  induction xs generalizing out with
  | nil =>
    show Except.ok out = Except.ok (out ++ [])
    rw [List.append_nil]
  | cons x xs ih =>
    rw [List.foldlM_cons, List.mapM_cons, hwrite]
    cases entry x with
    -- The first failure ends both.
    | error f => rfl
    | ok y =>
      show xs.foldlM write (out ++ [y])
        = (fun added => out ++ added) <$> ((xs.mapM entry).bind fun ys => .ok (y :: ys))
      rw [ih]
      cases xs.mapM entry with
      | error f => rfl
      | ok ys =>
        show Except.ok (out ++ [y] ++ ys) = Except.ok (out ++ y :: ys)
        rw [List.append_assoc]
        rfl

/-- A step that can fail, on the result of the steps before it. The first failure stays. -/
def onResult (step : σ → ε → Except φ σ) (r : Except φ σ) (e : ε) : Except φ σ :=
  r.bind fun s => step s e

/-- The result of the events `es` under a step that can fail. -/
def tryRun (step : σ → ε → Except φ σ) (s : σ) (es : List ε) : Except φ σ :=
  run (onResult step) (.ok s) es

section
variable {step : σ → ε → Except φ σ}

/-- On a state, the lifted step is the step. -/
@[simp] theorem onResult_ok (s : σ) (e : ε) : onResult step (.ok s) e = step s e := rfl

/-- A failure stays under the lifted step. -/
@[simp] theorem onResult_error (f : φ) (e : ε) :
    onResult step (.error f) e = .error f := rfl

/-- A failure stays over a run. -/
theorem run_onResult_error (f : φ) (es : List ε) :
    run (onResult step) (.error f) es = .error f := by
  induction es with
  | nil => rfl
  | cons e es ih => rw [run_cons, onResult_error, ih]

/-- A run that succeeds is a first step that succeeds and a tail that succeeds. -/
theorem tryRun_cons_ok {s t : σ} {e : ε} {es : List ε} :
    tryRun step s (e :: es) = .ok t ↔ ∃ m, step s e = .ok m ∧ tryRun step m es = .ok t := by
  unfold tryRun
  rw [run_cons, onResult_ok]
  cases h : step s e with
  | error f => simp [run_onResult_error]
  | ok m => simp

/-- `P` holds in every state that a run visits, and no step of the run fails. -/
def TryThroughout (step : σ → ε → Except φ σ) (P : σ → Prop) (s : σ) (es : List ε) : Prop :=
  Throughout (onResult step) (fun r => ∃ t, r = .ok t ∧ P t) (.ok s) es

/-- A condition on a state and an event, read on a result. After a failure it asks
nothing. -/
def OnOk (C : σ → ε → Prop) : Except φ σ → ε → Prop
  | .ok s, e => C s e
  | .error _, _ => True

/-- Every step of the run meets `C`, as long as no step has failed. -/
def TryEachStep (step : σ → ε → Except φ σ) (C : σ → ε → Prop) (s : σ) (es : List ε) :
    Prop :=
  EachStep (onResult step) (OnOk C) (.ok s) es

/-- The steps of a run that starts with a successful step. -/
theorem tryEachStep_cons {C : σ → ε → Prop} {s t : σ} {e : ε} {es : List ε}
    (h : step s e = .ok t) :
    TryEachStep step C s (e :: es) ↔ C s e ∧ TryEachStep step C t es := by
  unfold TryEachStep
  rw [eachStep_cons, onResult_ok, h]
  rfl

/-- The exact invariant rule for steps that can fail. `I` is an invariant that every
successful step keeps, and `A` is what the environment promises about each step. When a
step from `P` succeeds and leads to `P` exactly if it meets `C`, the run stays in `P`
without a failure exactly if each of its steps meets `C`. -/
theorem tryThroughout_iff_tryEachStep {I P : σ → Prop} {A C : σ → ε → Prop}
    (hI : ∀ s e t, I s → step s e = .ok t → I t)
    (hstep : ∀ s e, I s → P s → A s e → ((∃ t, step s e = .ok t ∧ P t) ↔ C s e)) {s : σ}
    {es : List ε} (hI0 : I s) (h0 : P s) (hA : TryEachStep step A s es) :
    TryThroughout step P s es ↔ TryEachStep step C s es := by
  -- The rule for total steps, on results. A failure satisfies the invariant trivially.
  refine throughout_iff_eachStep (I := fun r => ∀ t, r = .ok t → I t) ?_ ?_ ?_ ⟨s, rfl, h0⟩ hA
  · intro r e hr _ t ht
    cases r with
    | error f => cases ht
    | ok u => exact hI u e t (hr u rfl) ht
  · rintro r e hr ⟨t, rfl, ht⟩ hAe
    exact hstep t e (hr t rfl) ht hAe
  · intro t ht
    exact Except.ok.inj ht ▸ hI0

end

end XrSpeechAvs.Lib
