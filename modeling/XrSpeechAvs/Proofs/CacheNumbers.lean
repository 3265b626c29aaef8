import Mathlib.Data.List.TakeWhile
import XrSpeechAvs.Impl.Init

/-!
# `XrSpeechAvs.Proofs.CacheNumbers`: the texts that `std::stol` accepts

`Init` gives two texts of the configuration to `std::stol`, without a look at them. A
`Numeral` is a text in the grammar of `stol`: white space, at most one sign, digits, and a
tail that does not go on with a digit. `stol_eq_some_iff` says that `stol` reads exactly the
numerals whose value fits into a `long`, with that value. The tail does not matter, so `6x`
is a six, and `x6` is no number.
-/

set_option autoImplicit false

namespace XrSpeechAvs.Proofs

open XrSpeechAvs.Impl

/-- The sign of a number, as it is written. -/
inductive Sign where
  | absent
  | plus
  | minus
  deriving DecidableEq, Repr

namespace Sign

/-- The characters of a sign. -/
def text : Sign → Text
  | .absent => []
  | .plus => ['+']
  | .minus => ['-']

/-- The number with this sign. -/
def apply (sign : Sign) (n : Nat) : Int :=
  match sign with
  | .minus => -(n : Int)
  | _ => n

end Sign

/-- A text in the grammar of `stol`, with its parts. -/
structure Numeral where
  space : Text
  sign : Sign
  digits : Text
  tail : Text
  isSpace_of_mem : ∀ c ∈ space, isSpace c = true
  isDigit_of_mem : ∀ c ∈ digits, c.isDigit = true
  digits_ne_nil : digits ≠ []
  /-- The digits are all there are. -/
  isDigit_head_tail : ∀ c, tail.head? = some c → c.isDigit = false

namespace Numeral

/-- The characters of a numeral. -/
def text (n : Numeral) : Text := n.space ++ (n.sign.text ++ (n.digits ++ n.tail))

/-- The value of a numeral. -/
def value (n : Numeral) : Int := n.sign.apply (digitsValue n.digits)

end Numeral

/-- The value fits into a `long`. -/
def FitsLong (longBits : Nat) (value : Int) : Prop :=
  -2 ^ (longBits - 1) ≤ value ∧ value < 2 ^ (longBits - 1)

instance (longBits : Nat) (value : Int) : Decidable (FitsLong longBits value) :=
  inferInstanceAs (Decidable (_ ∧ _))

/-! ### The parts of a numeral -/

/-- A digit is no white space. -/
theorem isSpace_of_isDigit {c : Char} (h : c.isDigit = true) : isSpace c = false := by
  have hrange : 48 ≤ c.toNat ∧ c.toNat ≤ 57 := by
    simpa [Char.isDigit, UInt32.le_iff_toNat_le] using h
  have hne : ∀ d : Char, d.toNat < 48 → c ≠ d := by
    rintro d hd rfl
    omega
  have h11 : c.toNat ≠ 11 := by omega
  have h12 : c.toNat ≠ 12 := by omega
  simp [isSpace, hne ' ' (by decide), hne '\t' (by decide), hne '\n' (by decide),
    hne '\r' (by decide), h11, h12]

/-- A digit is no sign. -/
theorem ne_sign_of_isDigit {c : Char} (h : c.isDigit = true) : c ≠ '-' ∧ c ≠ '+' := by
  constructor
  · rintro rfl
    exact absurd h (by decide)
  · rintro rfl
    exact absurd h (by decide)

/-- Digits and what follows begin with a digit. -/
theorem digits_cons {digits : Text} (hne : digits ≠ [])
    (hdigits : ∀ c ∈ digits, c.isDigit = true) (tail : Text) :
    ∃ c cs, digits ++ tail = c :: cs ∧ c.isDigit = true := by
  obtain ⟨c, cs, rfl⟩ := List.exists_cons_of_ne_nil hne
  exact ⟨c, cs ++ tail, rfl, hdigits c List.mem_cons_self⟩

/-- The white space is skipped. -/
theorem dropWhile_text (n : Numeral) :
    n.text.dropWhile isSpace = n.sign.text ++ (n.digits ++ n.tail) := by
  obtain ⟨c, cs, hcons, hc⟩ := digits_cons n.digits_ne_nil n.isDigit_of_mem n.tail
  have hsign : ∀ sign : Sign,
      (sign.text ++ (n.digits ++ n.tail)).dropWhile isSpace
        = sign.text ++ (n.digits ++ n.tail) := by
    intro sign
    rw [hcons]
    -- What is left begins with a sign or with a digit.
    cases sign with
    | absent => exact List.dropWhile_cons_of_neg (by simp [isSpace_of_isDigit hc])
    | plus => exact List.dropWhile_cons_of_neg (by decide)
    | minus => exact List.dropWhile_cons_of_neg (by decide)
  rw [Numeral.text, List.dropWhile_append_of_pos n.isSpace_of_mem, hsign]

/-- The sign is read. -/
theorem splitSign_text (n : Numeral) :
    splitSign (n.sign.text ++ (n.digits ++ n.tail))
      = (decide (n.sign = .minus), n.digits ++ n.tail) := by
  obtain ⟨c, cs, hcons, hc⟩ := digits_cons n.digits_ne_nil n.isDigit_of_mem n.tail
  obtain ⟨hminus, hplus⟩ := ne_sign_of_isDigit hc
  rw [hcons]
  cases n.sign with
  | absent =>
    -- The first digit is no sign, so both sign cases are excluded.
    show splitSign (c :: cs) = _
    unfold splitSign
    split
    · next heq => exact absurd (List.cons.inj heq).1 hminus
    · next heq => exact absurd (List.cons.inj heq).1 hplus
    · rfl
  | plus => rfl
  | minus => rfl

/-- The digits are read. -/
theorem takeWhile_text (n : Numeral) :
    (n.digits ++ n.tail).takeWhile Char.isDigit = n.digits := by
  rw [List.takeWhile_append_of_pos n.isDigit_of_mem]
  cases htail : n.tail with
  | nil => simp
  | cons c cs =>
    have hc : c.isDigit = false := n.isDigit_head_tail c (by rw [htail]; rfl)
    rw [List.takeWhile_cons_of_neg (by simp [hc]), List.append_nil]

/-- Every text is a sign and what `splitSign` leaves. -/
theorem exists_sign (text : Text) :
    ∃ sign : Sign, text = sign.text ++ (splitSign text).2 ∧
      (splitSign text).1 = decide (sign = .minus) := by
  unfold splitSign
  split
  · exact ⟨.minus, rfl, rfl⟩
  · exact ⟨.plus, rfl, rfl⟩
  · exact ⟨.absent, rfl, rfl⟩

/-- A text in which `stol` finds a digit is a numeral. -/
theorem exists_numeral {text : Text}
    (h : (splitSign (text.dropWhile isSpace)).2.takeWhile Char.isDigit ≠ []) :
    ∃ n : Numeral, n.text = text := by
  obtain ⟨sign, hsign, -⟩ := exists_sign (text.dropWhile isSpace)
  let left := (splitSign (text.dropWhile isSpace)).2
  -- The parts are what `stol` skips, reads and leaves.
  refine ⟨{ space := text.takeWhile isSpace
            sign := sign
            digits := left.takeWhile Char.isDigit
            tail := left.dropWhile Char.isDigit
            isSpace_of_mem := fun c hc => List.mem_takeWhile_imp hc
            isDigit_of_mem := fun c hc => List.mem_takeWhile_imp hc
            digits_ne_nil := h
            isDigit_head_tail := ?_ }, ?_⟩
  · intro c hc
    -- The reading stops at the first character that is no digit.
    have hhead := List.head?_dropWhile_not Char.isDigit left
    rw [hc] at hhead
    simpa using hhead
  · show text.takeWhile isSpace
      ++ (sign.text ++ (left.takeWhile Char.isDigit ++ left.dropWhile Char.isDigit)) = text
    rw [List.takeWhile_append_dropWhile, ← hsign, List.takeWhile_append_dropWhile]

/-! ### What `stol` reads -/

/-- `stol` on a numeral: its value, if that fits. -/
theorem stol_text (longBits : Nat) (n : Numeral) :
    stol longBits n.text = if FitsLong longBits n.value then some n.value else none := by
  have hvalue : (if decide (n.sign = .minus) = true then -(digitsValue n.digits : Int)
      else digitsValue n.digits) = n.value := by
    unfold Numeral.value Sign.apply
    cases n.sign <;> rfl
  unfold stol
  rw [dropWhile_text, splitSign_text]
  simp only [takeWhile_text, if_neg n.digits_ne_nil, hvalue]
  rfl

/-- `stol` reads exactly the numerals whose value fits into a `long`. -/
theorem stol_eq_some_iff {longBits : Nat} {text : Text} {value : Int} :
    stol longBits text = some value ↔
      ∃ n : Numeral, n.text = text ∧ n.value = value ∧ FitsLong longBits value := by
  constructor
  · intro h
    -- Without a digit there would be no value.
    have hdigits : (splitSign (text.dropWhile isSpace)).2.takeWhile Char.isDigit ≠ [] := by
      intro hnil
      unfold stol at h
      simp only [hnil, if_true] at h
      cases h
    obtain ⟨n, rfl⟩ := exists_numeral hdigits
    rw [stol_text] at h
    split at h
    · next hfits =>
      obtain rfl := Option.some.inj h
      exact ⟨n, rfl, rfl, hfits⟩
    · cases h
  · rintro ⟨n, rfl, rfl, hfits⟩
    rw [stol_text, if_pos hfits]

end XrSpeechAvs.Proofs
