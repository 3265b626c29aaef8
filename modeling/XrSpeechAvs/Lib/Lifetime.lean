import XrSpeechAvs.Lib.Simulation

/-!
# `XrSpeechAvs.Lib.Lifetime`: an object that is made once and released once

A *lifetime* is that of one object: it is not born yet, or it is alive at an address, or it is
gone. It is born once, it may be used while it is alive, and it ends with its release. Any
other order is a fault.

`Lifetime.tryRun_unborn_iff` gives the runs in closed form: a birth, any number of uses, and
at most one release, in this order and with nothing behind it.
-/

set_option autoImplicit false

namespace XrSpeechAvs.Lib

/-- The lifetime of an object, with its address. -/
inductive Lifetime (α : Type) where
  | unborn
  | alive (p : α)
  | gone (p : α)
  deriving DecidableEq, Repr

/-- What can happen to the object. -/
inductive LifeEvent (α : Type) where
  | born (p : α)
  | use
  | release
  deriving DecidableEq, Repr

/-- An event that comes too early, too late, or a second time. -/
inductive LifeFault where
  | outOfOrder
  deriving DecidableEq, Repr

namespace Lifetime

variable {α : Type}

/-- One event. -/
def step : Lifetime α → LifeEvent α → Except LifeFault (Lifetime α)
  | .unborn, .born p => .ok (.alive p)
  | .alive p, .use => .ok (.alive p)
  | .alive p, .release => .ok (.gone p)
  | _, _ => .error .outOfOrder

/-- The events that lead to a lifetime, with `n` uses. -/
def history (n : Nat) : Lifetime α → List (LifeEvent α)
  | .unborn => []
  | .alive p => .born p :: List.replicate n .use
  | .gone p => .born p :: (List.replicate n .use ++ [.release])

/-- Nothing happens to an object that is gone. -/
theorem tryRun_gone {p : α} {m : Lifetime α} {es : List (LifeEvent α)} :
    tryRun step (.gone p) es = .ok m ↔ es = [] ∧ m = .gone p := by
  cases es with
  | nil =>
    rw [tryRun_nil, Except.ok.injEq]
    exact ⟨fun heq => ⟨rfl, heq.symm⟩, fun heq => heq.2.symm⟩
  | cons e es =>
    rw [tryRun_cons_ok]
    constructor
    · intro h
      obtain ⟨l, hl, -⟩ := h
      cases e <;> cases hl
    · intro h
      cases h.1

/-- An object that is alive is used, and then it may be released. -/
theorem tryRun_alive {p : α} {m : Lifetime α} {es : List (LifeEvent α)} :
    tryRun step (.alive p) es = .ok m ↔
      ∃ n, (es = List.replicate n .use ∧ m = .alive p) ∨
        (es = List.replicate n .use ++ [.release] ∧ m = .gone p) := by
  constructor
  · intro h
    induction es with
    | nil =>
      obtain rfl : (.alive p : Lifetime α) = m := Except.ok.inj h
      exact ⟨0, Or.inl ⟨rfl, rfl⟩⟩
    | cons e es ih =>
      obtain ⟨l, hl, hrest⟩ := tryRun_cons_ok.mp h
      cases e with
      | born q => cases hl
      | use =>
        obtain rfl : (.alive p : Lifetime α) = l := Except.ok.inj hl
        obtain ⟨n, hn⟩ := ih hrest
        -- One use more in front.
        refine ⟨n + 1, ?_⟩
        rw [List.replicate_succ, List.cons_append, List.cons.injEq, List.cons.injEq]
        simpa using hn
      | release =>
        obtain rfl : (.gone p : Lifetime α) = l := Except.ok.inj hl
        obtain ⟨rfl, rfl⟩ := tryRun_gone.mp hrest
        exact ⟨0, Or.inr ⟨rfl, rfl⟩⟩
  · rintro ⟨n, h⟩
    induction n generalizing es with
    | zero =>
      obtain ⟨rfl, rfl⟩ | ⟨rfl, rfl⟩ := h
      · rfl
      · rfl
    | succ n ih =>
      obtain ⟨rfl, rfl⟩ | ⟨rfl, rfl⟩ := h
      · exact tryRun_cons_ok.mpr ⟨.alive p, rfl, ih (Or.inl ⟨rfl, rfl⟩)⟩
      · exact tryRun_cons_ok.mpr ⟨.alive p, rfl, ih (Or.inr ⟨rfl, rfl⟩)⟩

/-- A run from before the birth is the history of the lifetime that it ends in. -/
theorem tryRun_unborn_iff {m : Lifetime α} {es : List (LifeEvent α)} :
    tryRun step .unborn es = .ok m ↔ ∃ n, es = m.history n := by
  cases es with
  | nil =>
    rw [tryRun_nil, Except.ok.injEq]
    cases m <;> simp [history]
  | cons e es =>
    rw [tryRun_cons_ok]
    cases e with
    | born p =>
      have hfirst : (∃ l, step .unborn (.born p) = .ok l ∧ tryRun step l es = .ok m)
          ↔ tryRun step (.alive p) es = .ok m := by
        simp [step]
      -- Behind the birth, the run is known from `tryRun_alive`.
      rw [hfirst, tryRun_alive]
      cases m with
      | unborn => simp [history]
      | alive q => simp [history, eq_comm (a := q), and_comm (a := p = q)]
      | gone q => simp [history, eq_comm (a := q), and_comm (a := p = q)]
    -- Nothing but a birth may come first.
    | use => cases m <;> simp [history, step]
    | release => cases m <;> simp [history, step]

end Lifetime

end XrSpeechAvs.Lib
