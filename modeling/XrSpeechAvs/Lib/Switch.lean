import Mathlib.Algebra.Group.Nat.Even
import Mathlib.Algebra.Ring.Parity
import Mathlib.Data.List.Basic

/-!
# `XrSpeechAvs.Lib.Switch`: a switch and its changes

A switch is set to one position after another. `position on bs` is where it is after the
settings `bs`, and `changes on bs` is how often it has moved on the way. To set a switch to
the position that it has moves nothing.

`odd_changes_iff` relates the two: the switch is away from its start exactly when it has
moved an odd number of times.
-/

set_option autoImplicit false

namespace XrSpeechAvs.Lib

/-- The position after the settings: the last one, or the start. -/
def position (on : Bool) (bs : List Bool) : Bool := bs.getLast?.getD on

/-- The number of settings that move the switch. -/
def changes (on : Bool) : List Bool → Nat
  | [] => 0
  | b :: bs => (if b = on then 0 else 1) + changes b bs

/-- Without a setting the position stays. -/
@[simp] theorem position_nil (on : Bool) : position on [] = on := rfl

/-- The first setting is a new start. -/
@[simp] theorem position_cons (on b : Bool) (bs : List Bool) :
    position on (b :: bs) = position b bs := by
  cases bs with
  | nil => rfl
  | cons c cs =>
    have hlast : (b :: c :: cs).getLast? = (c :: cs).getLast? := List.getLast?_cons_cons
    unfold position
    rw [hlast, List.getLast?_cons, Option.getD_some, Option.getD_some]

/-- Without a setting nothing changes. -/
@[simp] theorem changes_nil (on : Bool) : changes on [] = 0 := rfl

/-- A setting is a change when it differs from the position before. -/
@[simp] theorem changes_cons (on b : Bool) (bs : List Bool) :
    changes on (b :: bs) = (if b = on then 0 else 1) + changes b bs := rfl

/-- The switch is away from its start exactly when it has moved an odd number of times. -/
theorem odd_changes_iff (on : Bool) (bs : List Bool) :
    Odd (changes on bs) ↔ position on bs ≠ on := by
  induction bs generalizing on with
  | nil => simp
  | cons b bs ih =>
    rw [changes_cons, position_cons]
    by_cases hb : b = on
    · subst hb
      rw [if_pos rfl, Nat.zero_add]
      exact ih b
    · -- The first setting moves the switch, so both sides turn round.
      rw [if_neg hb, Nat.add_comm, Nat.odd_add_one, ih b, not_not]
      cases b <;> cases on <;> simp_all

end XrSpeechAvs.Lib
