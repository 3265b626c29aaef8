import Mathlib.Data.List.TakeWhile
import XrSpeechAvs.Lib.Run

/-!
# `XrSpeechAvs.Lib.Printf`: formats of `printf` over string arguments

The scan of a format copies its characters up to a `%`. Then it reads modifiers (flags,
width, precision and length) up to the character of a conversion. `%%` prints a `%`, `%s`
prints the next argument, and every other conversion takes an argument of another type. An
argument that is missing or of another type is undefined behaviour, and so is a conversion
that does not exist. The model keeps these as a `FormatFault`.

* `printf_eq_self_iff`: without arguments a format prints itself exactly when it has no `%`.
* `printf_string`: a plain prefix and a `%s` print the prefix and the argument.

A C function reads a character array up to its first NUL (`cStr`).
-/

set_option autoImplicit false

namespace XrSpeechAvs.Lib

/-- The character that ends a C string. -/
def NUL : Char := Char.ofNat 0

/-- What a C function reads of a character array. -/
def cStr (text : List Char) : List Char := text.takeWhile fun c => c ≠ NUL

/-- What is undefined about a directive. -/
inductive FormatFault where
  | missingArgument
  | wrongArgument
  | invalidConversion
  deriving DecidableEq, Repr

/-- The characters between a `%` and its conversion. -/
def isModifier (c : Char) : Bool :=
  c.isDigit || c ∈ ['-', '+', ' ', '#', '.', '*', 'h', 'l', 'j', 'z', 't', 'L']

/-- The conversions that take an argument other than a string. -/
def isOtherConversion (c : Char) : Bool :=
  c ∈ ['d', 'i', 'o', 'u', 'x', 'X', 'f', 'F', 'e', 'E', 'g', 'G', 'a', 'A', 'c', 'p', 'n']

/-- The value of decimal digits. -/
def decimal (digits : List Char) : Nat :=
  digits.foldl (fun n c => 10 * n + (c.toNat - '0'.toNat)) 0

/-- The argument in a field of at least `width` characters. -/
def padded (left : Bool) (width : Nat) (arg : List Char) : List Char :=
  let blanks := List.replicate (width - arg.length) ' '
  if left then arg ++ blanks else blanks ++ arg

/-- The field of a `%s`: an optional `-`, a width and a precision. Other modifiers are
undefined for a string. -/
def stringField (modifiers arg : List Char) : Option (List Char) :=
  let left := modifiers.head? = some '-'
  let rest := modifiers.dropWhile fun c => c = '-'
  let width := decimal (rest.takeWhile Char.isDigit)
  if rest.head? = some '0' then none
  else match rest.dropWhile Char.isDigit with
    | [] => some (padded left width arg)
    | '.' :: precision =>
      if precision.all Char.isDigit then some (padded left width (arg.take (decimal precision)))
      else none
    | _ => none

/-- What the conversion `c` prints, and the arguments that it leaves. -/
def convert (modifiers : List Char) (c : Char) (args : List (List Char)) :
    Except FormatFault (List Char × List (List Char)) :=
  if c = '%' then
    if modifiers = [] then .ok (['%'], args) else .error .invalidConversion
  else if c = 's' ∨ isOtherConversion c = true then
    match args with
    | [] => .error .missingArgument
    | arg :: rest =>
      if c ≠ 's' ∨ '*' ∈ modifiers then .error .wrongArgument
      else match stringField modifiers arg with
        | some field => .ok (field, rest)
        | none => .error .invalidConversion
  else .error .invalidConversion

/-- Where the scan of a format stands: in plain text, or behind a `%` and the modifiers that
it has read. -/
inductive Scan where
  | text
  | directive (modifiers : List Char)

/-- What the rest of a format prints. -/
def scanFormat : Scan → List Char → List (List Char) → Except FormatFault (List Char)
  | .text, [], _ => .ok []
  | .text, c :: rest, args =>
    if c = '%' then scanFormat (.directive []) rest args
    else (c :: ·) <$> scanFormat .text rest args
  | .directive _, [], _ => .error .invalidConversion
  | .directive modifiers, c :: rest, args =>
    if isModifier c = true then scanFormat (.directive (modifiers ++ [c])) rest args
    else do
      let (field, args) ← convert modifiers c args
      (field ++ ·) <$> scanFormat .text rest args

/-- What `printf` prints for a format and string arguments. -/
def printf (format : List Char) (args : List (List Char)) :
    Except FormatFault (List Char) :=
  scanFormat .text (cStr format) (args.map cStr)

/-! ### Texts without a NUL -/

/-- A text without a NUL is read whole. -/
theorem cStr_of_nulFree {text : List Char} (h : NUL ∉ text) : cStr text = text := by
  refine List.takeWhile_eq_self_iff.mpr fun c hc => ?_
  have hne : c ≠ NUL := by
    rintro rfl
    exact h hc
  exact decide_eq_true hne

/-! ### The scan -/

/-- At the end of the format nothing is left to print. -/
@[simp] theorem scanFormat_text_nil (args : List (List Char)) :
    scanFormat .text [] args = .ok [] := rfl

/-- Plain text is copied. -/
theorem scanFormat_text_append {plain : List Char} (h : '%' ∉ plain) (rest : List Char)
    (args : List (List Char)) :
    scanFormat .text (plain ++ rest) args = (plain ++ ·) <$> scanFormat .text rest args := by
  induction plain with
  | nil => exact (id_map _).symm
  | cons c plain ih =>
    have hc : c ≠ '%' := by
      rintro rfl
      exact h (List.mem_cons_self ..)
    rw [List.cons_append, scanFormat, if_neg hc, ih (fun hmem => h (List.mem_cons_of_mem _ hmem)),
      Functor.map_map]
    rfl

/-- Text without a `%` prints itself. -/
theorem scanFormat_plain {plain : List Char} (h : '%' ∉ plain) (args : List (List Char)) :
    scanFormat .text plain args = .ok plain := by
  have happend := scanFormat_text_append h [] args
  rw [List.append_nil, scanFormat_text_nil] at happend
  rw [happend]
  show Except.ok (plain ++ []) = .ok plain
  rw [List.append_nil]

/-- A plain `%s` prints its argument. -/
theorem convert_string (arg : List Char) (args : List (List Char)) :
    convert [] 's' (arg :: args) = .ok (arg, args) := by
  have hfield : stringField [] arg = some arg := by
    show some (List.replicate (0 - arg.length) ' ' ++ arg) = some arg
    rw [Nat.zero_sub]
    rfl
  simp [convert, hfield]

/-- Without arguments the only conversion is `%%`. -/
theorem convert_nil_ok {modifiers : List Char} {c : Char}
    {r : List Char × List (List Char)} (h : convert modifiers c [] = .ok r) :
    r = (['%'], []) := by
  unfold convert at h
  split at h
  · split at h
    · exact (Except.ok.inj h).symm
    · cases h
  · split at h <;> cases h

/-- Without arguments nothing longer than the format is printed. -/
theorem length_scanFormat_le (scan : Scan) (format out : List Char)
    (h : scanFormat scan format [] = .ok out) : out.length ≤ format.length := by
  induction format generalizing scan out with
  | nil =>
    cases scan with
    | text =>
      obtain rfl := Except.ok.inj h
      exact Nat.le_refl 0
    | directive modifiers => cases h
  | cons c rest ih =>
    cases scan with
    | text =>
      rw [scanFormat] at h
      split at h
      · -- The `%` prints nothing by itself.
        exact Nat.le_succ_of_le (ih _ out h)
      · obtain ⟨tail, htail, rfl⟩ := map_eq_ok.mp h
        exact Nat.succ_le_succ (ih _ tail htail)
    | directive modifiers =>
      rw [scanFormat] at h
      split at h
      · exact Nat.le_succ_of_le (ih _ out h)
      · -- The conversion is a `%`, which prints one character.
        obtain ⟨r, hr, hrest⟩ := bind_eq_ok.mp h
        obtain rfl := convert_nil_ok hr
        obtain ⟨tail, htail, rfl⟩ := map_eq_ok.mp hrest
        exact Nat.succ_le_succ (ih _ tail htail)

/-- Without arguments, a `%` makes the printed text shorter than the format. -/
theorem length_scanFormat_lt (format out : List Char) (hpercent : '%' ∈ format)
    (h : scanFormat .text format [] = .ok out) : out.length < format.length := by
  induction format generalizing out with
  | nil => cases hpercent
  | cons c rest ih =>
    rw [scanFormat] at h
    by_cases hc : c = '%'
    · rw [if_pos hc] at h
      exact Nat.lt_succ_of_le (length_scanFormat_le _ rest out h)
    · rw [if_neg hc] at h
      obtain ⟨tail, htail, rfl⟩ := map_eq_ok.mp h
      rcases List.mem_cons.mp hpercent with he | hrest
      · exact absurd he.symm hc
      · exact Nat.succ_lt_succ (ih tail hrest htail)

/-! ### What `printf` prints -/

/-- Without arguments a format prints itself exactly when it has no `%`. -/
theorem printf_eq_self_iff {format : List Char} (h : NUL ∉ format) :
    printf format [] = .ok format ↔ '%' ∉ format := by
  rw [printf, cStr_of_nulFree h]
  constructor
  · intro hself hpercent
    have hlt := length_scanFormat_lt format format hpercent hself
    omega
  · intro hplain
    exact scanFormat_plain hplain _

/-- A plain prefix and a `%s` print the prefix and the argument. -/
theorem printf_string {plain : List Char} (h : NUL ∉ plain) (hplain : '%' ∉ plain)
    (arg : List Char) : printf (plain ++ ['%', 's']) [arg] = .ok (plain ++ cStr arg) := by
  have hnul : NUL ∉ plain ++ ['%', 's'] := by
    rw [List.mem_append, not_or]
    exact ⟨h, by decide⟩
  rw [printf, cStr_of_nulFree hnul, scanFormat_text_append hplain]
  -- The plain prefix is printed as it is, and the field is left.
  show (plain ++ ·) <$> scanFormat .text ['%', 's'] [cStr arg] = _
  have hfield : scanFormat .text ['%', 's'] [cStr arg] = .ok (cStr arg) := by
    show (do
      let (field, args) ← convert [] 's' [cStr arg]
      (field ++ ·) <$> scanFormat .text [] args) = Except.ok (cStr arg)
    rw [convert_string]
    show Except.ok (cStr arg ++ []) = Except.ok (cStr arg)
    rw [List.append_nil]
  rw [hfield]
  rfl

end XrSpeechAvs.Lib
