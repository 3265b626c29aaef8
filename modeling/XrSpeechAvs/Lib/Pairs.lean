import Mathlib.Algebra.Group.Nat.Even
import Mathlib.Algebra.Ring.Parity
import Mathlib.Data.List.Basic

/-!
# `XrSpeechAvs.Lib.Pairs`: a sequence taken two at a time, and its framings

`pairs xs` groups a sequence into consecutive pairs and leaves out a single trailing
element. A *framing* cuts a sequence into frames. Pairing each frame on its own,
`frames.flatMap pairs`, is compared with pairing the whole sequence,
`pairs frames.flatten`:

* `flatMap_pairs_of_even`: the two agree when every frame but the last has even length;
* `flatMap_pairs_eq_iff`: the exact condition `Aligned`. At most one frame has odd length,
  and everything after it repeats its last element.

The second half of `Aligned` cannot be dropped: a shift by one element is invisible on a
constant sequence, and `pairs_cons_eq_iff` says that it is visible on any other.
-/

set_option autoImplicit false

namespace XrSpeechAvs.Lib

variable {α : Type*}

/-- The consecutive pairs of a list. A single trailing element is left out. -/
def pairs : List α → List (α × α)
  | a :: b :: rest => (a, b) :: pairs rest
  | _ => []

/-- The empty list has no pair. -/
@[simp] theorem pairs_nil : pairs ([] : List α) = [] := rfl

/-- A single element is dropped. -/
@[simp] theorem pairs_singleton (a : α) : pairs [a] = [] := rfl

/-- Two elements in front are a pair. -/
@[simp] theorem pairs_cons_cons (a b : α) (rest : List α) :
    pairs (a :: b :: rest) = (a, b) :: pairs rest := rfl

/-- The number of pairs is half the length, rounded down. -/
@[simp] theorem length_pairs : ∀ xs : List α, (pairs xs).length = xs.length / 2
  | [] => by simp
  | [_] => by simp
  | _ :: _ :: rest => by
      simp only [pairs_cons_cons, List.length_cons, length_pairs rest]
      omega

/-- The pairs hold the elements of the list in order, without the trailing element of an
odd list. -/
theorem flatMap_pairs : ∀ xs : List α,
    (pairs xs).flatMap (fun p => [p.1, p.2]) = xs.take (2 * (xs.length / 2))
  | [] => by simp
  | [_] => by simp
  | a :: b :: rest => by
      have hlen : 2 * ((a :: b :: rest).length / 2) = 2 * (rest.length / 2) + 2 := by
        simp only [List.length_cons]
        omega
      rw [hlen, pairs_cons_cons, List.flatMap_cons, flatMap_pairs rest]
      rfl

/-- Pairing goes through an append at an even position. -/
theorem pairs_append_of_even : ∀ (xs ys : List α), Even xs.length →
    pairs (xs ++ ys) = pairs xs ++ pairs ys
  | [], _, _ => rfl
  | [_], _, h => by simp at h
  | a :: b :: rest, ys, h => by
      have hrest : Even rest.length := by
        simp only [List.length_cons] at h
        grind
      simp [pairs_append_of_even rest ys hrest]

/-- The trailing element of an odd list is in no pair. -/
theorem pairs_concat_of_even (xs : List α) (x : α) (h : Even xs.length) :
    pairs (xs ++ [x]) = pairs xs := by
  rw [pairs_append_of_even xs [x] h, pairs_singleton, List.append_nil]

/-- A list of odd length is a list of even length and one more element. -/
theorem exists_concat_of_not_even {xs : List α} (h : ¬ Even xs.length) :
    ∃ ys y, xs = ys ++ [y] ∧ Even ys.length := by
  obtain rfl | ⟨ys, y, rfl⟩ := List.eq_nil_or_concat xs
  · simp at h
  · rw [List.concat_eq_append, List.length_append, List.length_singleton] at h
    have hys : Even ys.length := by grind
    exact ⟨ys, y, List.concat_eq_append, hys⟩

/-- The trailing element of an odd list can be cut off before pairing. -/
theorem pairs_take (xs : List α) : pairs (xs.take (xs.length / 2 * 2)) = pairs xs := by
  by_cases h : Even xs.length
  · have hlen : xs.length / 2 * 2 = xs.length := Nat.div_two_mul_two_of_even h
    rw [hlen, List.take_length]
  · -- Half of the odd length, rounded down, is half of the list without its last element.
    obtain ⟨ys, y, rfl, hys⟩ := exists_concat_of_not_even h
    have hlen : (ys ++ [y]).length / 2 * 2 = ys.length := by
      simp only [List.length_append, List.length_singleton]
      grind
    rw [hlen, List.take_left, pairs_concat_of_even ys y hys]

/-- A shift by one element shows in the pairs, unless the list repeats that element. -/
theorem pairs_cons_eq_iff : ∀ (x : α) (ys : List α), Even ys.length →
    (pairs ys = pairs (x :: ys) ↔ ∀ y ∈ ys, y = x)
  | _, [], _ => by simp
  | _, [_], h => by simp at h
  | x, a :: b :: rest, h => by
      have hrest : Even rest.length := by
        simp only [List.length_cons] at h
        grind
      -- The first pairs agree exactly when `a` and `b` repeat `x`, and the tails repeat `b`.
      rw [pairs_cons_cons, pairs_cons_cons, List.cons.injEq, Prod.mk.injEq,
        pairs_cons_eq_iff b rest hrest]
      constructor
      · rintro ⟨⟨rfl, rfl⟩, hall⟩ y hy
        rcases List.mem_cons.mp hy with rfl | hy
        · rfl
        · rcases List.mem_cons.mp hy with rfl | hy
          · rfl
          · exact hall y hy
      · intro hall
        have ha : a = x := hall a (by simp)
        have hb : b = x := hall b (by simp)
        exact ⟨⟨ha, by rw [hb, ha]⟩, fun y hy => by rw [hb, hall y (by simp [hy])]⟩

/-! ### Framings -/

/-- Pairing frame by frame never gives more than half of the elements. -/
theorem two_mul_length_flatMap_pairs_le (frames : List (List α)) :
    2 * (frames.flatMap pairs).length ≤ frames.flatten.length := by
  induction frames with
  | nil => simp
  | cons f fs ih =>
    simp only [List.flatMap_cons, List.flatten_cons, List.length_append, length_pairs]
    omega

/-- It gives exactly half of the elements only when every frame has even length. -/
theorem even_of_two_mul_length_flatMap_pairs {frames : List (List α)}
    (h : 2 * (frames.flatMap pairs).length = frames.flatten.length) :
    ∀ f ∈ frames, Even f.length := by
  induction frames with
  | nil => simp
  | cons f fs ih =>
    have hle := two_mul_length_flatMap_pairs_le fs
    simp only [List.flatMap_cons, List.flatten_cons, List.length_append, length_pairs] at h
    intro g hg
    -- Neither the first frame nor the rest can make up for a loss in the other.
    rcases List.mem_cons.mp hg with rfl | hg
    · exact Nat.even_iff.mpr (by omega)
    · exact ih (by omega) g hg

/-- Frames of even length have an even total length. -/
theorem even_length_flatten {frames : List (List α)} (h : ∀ f ∈ frames, Even f.length) :
    Even frames.flatten.length := by
  induction frames with
  | nil => simp
  | cons f fs ih =>
    rw [List.flatten_cons, List.length_append]
    exact (h f (by simp)).add (ih fun g hg => h g (by simp [hg]))

/-- Frames of even length are paired as one sequence. -/
theorem flatMap_pairs_of_even {frames : List (List α)} (h : ∀ f ∈ frames, Even f.length) :
    frames.flatMap pairs = pairs frames.flatten := by
  induction frames with
  | nil => rfl
  | cons f fs ih =>
    rw [List.flatMap_cons, List.flatten_cons, pairs_append_of_even f _ (h f (by simp)),
      ih fun g hg => h g (by simp [hg])]

/-- At most one frame has odd length, and everything after it repeats its last element. -/
def Aligned : List (List α) → Prop
  | [] => True
  | f :: fs =>
    if Even f.length then Aligned fs
    else (∀ g ∈ fs, Even g.length) ∧ ∀ y ∈ fs.flatten, f.getLast? = some y

/-- Even frames followed by one frame of any length are aligned. -/
theorem aligned_concat_of_even {frames : List (List α)} (h : ∀ f ∈ frames, Even f.length)
    (g : List α) : Aligned (frames ++ [g]) := by
  induction frames with
  | nil => by_cases hg : Even g.length <;> simp [Aligned, hg]
  | cons f fs ih =>
    rw [List.cons_append]
    unfold Aligned
    rw [if_pos (h f (by simp))]
    exact ih fun g hg => h g (by simp [hg])

/-- The framing law. Pairing frame by frame gives the pairs of the whole sequence exactly
when the frames are `Aligned`. -/
theorem flatMap_pairs_eq_iff (frames : List (List α)) :
    frames.flatMap pairs = pairs frames.flatten ↔ Aligned frames := by
  induction frames with
  | nil => simp [Aligned]
  | cons f fs ih =>
    rw [List.flatMap_cons, List.flatten_cons]
    unfold Aligned
    by_cases hf : Even f.length
    · rw [if_pos hf, pairs_append_of_even f _ hf, List.append_right_inj, ih]
    · rw [if_neg hf]
      -- The odd frame `ys ++ [x]` loses `x`, which the whole sequence pairs with `fs`.
      obtain ⟨ys, x, rfl, hys⟩ := exists_concat_of_not_even hf
      rw [pairs_concat_of_even ys x hys, List.append_assoc, pairs_append_of_even ys _ hys,
        List.append_right_inj, List.singleton_append, List.getLast?_concat]
      constructor
      · intro h
        -- By length, no frame behind the odd one may lose an element.
        have hlen := congrArg List.length h
        rw [length_pairs, List.length_cons] at hlen
        have hle := two_mul_length_flatMap_pairs_le fs
        have heven := (even_of_two_mul_length_flatMap_pairs (by omega) : ∀ g ∈ fs, Even g.length)
        refine ⟨heven, fun y hy => ?_⟩
        rw [flatMap_pairs_of_even heven] at h
        rw [(pairs_cons_eq_iff x _ (even_length_flatten heven)).mp h y hy]
      · rintro ⟨heven, hall⟩
        rw [flatMap_pairs_of_even heven]
        exact (pairs_cons_eq_iff x _ (even_length_flatten heven)).mpr
          fun y hy => (Option.some.inj (hall y hy)).symm

end XrSpeechAvs.Lib
