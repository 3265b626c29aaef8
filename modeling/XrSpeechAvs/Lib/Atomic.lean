import Mathlib.Logic.Function.Basic
import XrSpeechAvs.Lib.Run

/-!
# `XrSpeechAvs.Lib.Atomic`: concurrent calls on one atomic cell

Any number of calls share one cell. A call stores a value, or it loads the cell and then
stores what it computes from the loaded value. Each load and each store is one step, and
the steps of all calls come in one order (sequential consistency). A schedule is the list
of the calls whose step comes next, so every interleaving is a run.

* `step_cases` is the inversion lemma: a step stores, loads, or does nothing.
* `Holds.step` is the invariant rule for the values in the cell and in the calls.
* `run_update_alone` and `run_store_alone` are the calls without interference.
-/

set_option autoImplicit false

namespace XrSpeechAvs.Lib

variable {ι α : Type*}

/-- What a call does to the cell. -/
inductive Access (α : Type*) where
  | store (v : α)
  | update (f : α → α)

/-- How far a call has come. -/
inductive Progress (α : Type*) where
  | start
  | loaded (v : α)
  | done
  deriving DecidableEq

/-! ### Progress -/

section
variable [DecidableEq ι] (p : ι → Progress α) (i j : ι)

/-- When a call ends, the calls that have ended are this one and the ones before. -/
theorem update_done_eq_done :
    Function.update p i .done j = .done ↔ j = i ∨ p j = .done := by
  by_cases hj : j = i
  · simp [hj]
  · simp [hj]

/-- When a call ends, the loaded values are ones from before. -/
theorem loaded_of_update_done {v : α} (h : Function.update p i .done j = .loaded v) :
    p j = .loaded v := by
  by_cases hj : j = i
  · rw [hj, Function.update_self] at h
    cases h
  · rwa [Function.update_of_ne hj] at h

variable {p i} in
/-- A load ends no call, and no call that has ended loads. -/
theorem update_loaded_eq_done (hstart : p i = .start) (v : α) :
    Function.update p i (.loaded v) j = .done ↔ p j = .done := by
  by_cases hj : j = i
  · simp [hj, hstart]
  · rw [Function.update_of_ne hj]

/-- Behind a load, the loaded values are the new one and the ones from before. -/
theorem loaded_of_update_loaded {v w : α}
    (h : Function.update p i (.loaded v) j = .loaded w) : w = v ∨ p j = .loaded w := by
  by_cases hj : j = i
  · rw [hj, Function.update_self] at h
    exact Or.inl (Progress.loaded.inj h).symm
  · rw [Function.update_of_ne hj] at h
    exact Or.inr h

end

/-! ### The cell and its calls -/

/-- The cell, and the progress of each call. -/
structure Shared (ι α : Type*) where
  cell : α
  progress : ι → Progress α

namespace Shared

/-- No call has made a step yet. -/
def start (v : α) : Shared ι α where
  cell := v
  progress := fun _ => .start

/-- The value that the next step of a call stores, if that step is a store. -/
def pending (access : ι → Access α) (s : Shared ι α) (i : ι) : Option α :=
  match s.progress i, access i with
  | .start, .store v => some v
  | .loaded v, .update f => some (f v)
  | _, _ => none

/-- The two shapes of a pending store: the value of a call that has not begun, and what a
call computes from the value it has loaded. -/
theorem pending_eq_some_iff {access : ι → Access α} {s : Shared ι α} {i : ι} {v : α} :
    s.pending access i = some v ↔ (s.progress i = .start ∧ access i = .store v) ∨
      ∃ w f, s.progress i = .loaded w ∧ access i = .update f ∧ f w = v := by
  unfold pending
  cases s.progress i with
  | start => cases access i <;> simp
  | loaded w => cases access i <;> simp
  | done => simp

variable [DecidableEq ι]

/-- The next step of the call `i`. A call that has ended makes no step. -/
def step (access : ι → Access α) (s : Shared ι α) (i : ι) : Shared ι α :=
  match s.progress i, access i with
  | .start, .store v =>
    { cell := v, progress := Function.update s.progress i .done }
  | .start, .update _ =>
    { s with progress := Function.update s.progress i (.loaded s.cell) }
  | .loaded v, .update f =>
    { cell := f v, progress := Function.update s.progress i .done }
  | _, _ => s

variable {access : ι → Access α}

/-- A step stores the pending value and ends its call, or it loads the cell, or it does
nothing. -/
theorem step_cases (access : ι → Access α) (s : Shared ι α) (i : ι) :
    (∃ v, s.pending access i = some v ∧
      s.step access i = { cell := v, progress := Function.update s.progress i .done }) ∨
    (s.progress i = .start ∧
      s.step access i = { s with progress := Function.update s.progress i (.loaded s.cell) }) ∨
    s.step access i = s := by
  unfold pending step
  cases s.progress i with
  | start =>
    cases access i with
    -- A store does not look at the cell.
    | store v => exact Or.inl ⟨v, rfl, rfl⟩
    | update f => exact Or.inr (Or.inl ⟨rfl, rfl⟩)
  | loaded v =>
    cases access i with
    -- A store never comes to a load.
    | store w => exact Or.inr (Or.inr rfl)
    | update f => exact Or.inl ⟨f v, rfl, rfl⟩
  | done => exact Or.inr (Or.inr rfl)

/-- A step that stores ends its call. -/
theorem step_of_pending {s : Shared ι α} {i : ι} {v : α} (h : s.pending access i = some v) :
    s.step access i = { cell := v, progress := Function.update s.progress i .done } := by
  unfold pending at h
  unfold step
  split at h <;> simp_all

/-- A step without a store keeps the cell, and it ends no call. -/
theorem step_of_not_pending {s : Shared ι α} {i : ι} (h : s.pending access i = none) :
    (s.step access i).cell = s.cell ∧
      ∀ j, (s.step access i).progress j = .done ↔ s.progress j = .done := by
  obtain ⟨v, hv, -⟩ | ⟨hstart, heq⟩ | heq := step_cases access s i
  · cases h.symm.trans hv
  · rw [heq]
    exact ⟨rfl, fun j => update_loaded_eq_done j hstart s.cell⟩
  · rw [heq]
    exact ⟨rfl, fun _ => Iff.rfl⟩

/-- A call that has ended stays ended. -/
theorem done_step {s : Shared ι α} {j : ι} (h : s.progress j = .done) (i : ι) :
    (s.step access i).progress j = .done := by
  obtain ⟨v, -, heq⟩ | ⟨hstart, heq⟩ | heq := step_cases access s i
  · rw [heq]
    exact (update_done_eq_done s.progress i j).mpr (Or.inr h)
  · rw [heq]
    exact (update_loaded_eq_done j hstart s.cell).mpr h
  · rw [heq, h]

/-- A call that has ended stays ended over a run. -/
theorem done_run {s : Shared ι α} {j : ι} (h : s.progress j = .done) (schedule : List ι) :
    (run (step access) s schedule).progress j = .done := by
  induction schedule generalizing s with
  | nil => exact h
  | cons i schedule ih => exact ih (done_step h i)

/-- Every value in the cell, and every value that a call has loaded, satisfies `Q`. -/
structure Holds (Q : α → Prop) (s : Shared ι α) : Prop where
  cell : Q s.cell
  loaded : ∀ i v, s.progress i = .loaded v → Q v

/-- The invariant rule. A step keeps `Holds` when the value that it stores satisfies the
property. The property may grow with the step. -/
theorem Holds.step {Q Q' : α → Prop} {s : Shared ι α} (h : Holds Q s) (i : ι)
    (hgrow : ∀ v, Q v → Q' v) (hstore : ∀ v, s.pending access i = some v → Q' v) :
    Holds Q' (s.step access i) := by
  obtain ⟨v, hv, heq⟩ | ⟨-, heq⟩ | heq := step_cases access s i
  · rw [heq]
    refine ⟨hstore v hv, fun j w hw => hgrow w ?_⟩
    exact h.loaded j w (loaded_of_update_done s.progress i j hw)
  · rw [heq]
    refine ⟨hgrow _ h.cell, fun j w hw => hgrow w ?_⟩
    rcases loaded_of_update_loaded s.progress i j hw with rfl | hbefore
    · -- The loaded value is the one of the cell.
      exact h.cell
    · exact h.loaded j w hbefore
  · rw [heq]
    exact ⟨hgrow _ h.cell, fun j w hw => hgrow w (h.loaded j w hw)⟩

/-- A call that loads and stores without interference computes on the cell. -/
theorem run_update_alone (access : ι → Access α) {s : Shared ι α} {i : ι} {f : α → α}
    (hi : s.progress i = .start) (hf : access i = .update f) :
    (run (step access) s [i, i]).cell = f s.cell := by
  have hload : s.step access i
      = { s with progress := Function.update s.progress i (.loaded s.cell) } := by
    simp only [step, hi, hf]
  rw [run_cons, hload]
  show (step access _ i).cell = f s.cell
  simp only [step, Function.update_self, hf]

/-- A call that stores has ended after its first step. -/
theorem run_store_alone (access : ι → Access α) {s : Shared ι α} {i : ι} {v : α}
    (hi : s.progress i = .start) (hv : access i = .store v) :
    (run (step access) s [i, i]).cell = v := by
  have hstore : s.step access i
      = { cell := v, progress := Function.update s.progress i .done } := by
    simp only [step, hi, hv]
  rw [run_cons, hstore]
  show (step access _ i).cell = v
  simp only [step, Function.update_self]

end Shared

end XrSpeechAvs.Lib
