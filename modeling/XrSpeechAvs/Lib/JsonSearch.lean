import Mathlib.Data.List.TakeWhile
import XrSpeechAvs.Lib.Json

/-!
# `XrSpeechAvs.Lib.JsonSearch`: a search for two members in a JSON text

`pairText k1 v1 k2 v2` is the text `"k1":"v1","k2":"v2"`, without white space. The search
for it in a JSON text does not parse the text. `occurs_pairText` says exactly what it finds:
two neighbouring members of one object, at any depth, in exactly this spelling, where the
first name may also be the end of a longer one behind an escaped quote (`keySpelled`).

The proof has two layers. The lexical one compares the search with a search in the tokens
(`occurs_textOf`), and it holds for every list of tokens. The grammatical one compares that
with the tree (`occursIn_tokens`).
-/

set_option autoImplicit false

namespace XrSpeechAvs.Lib

/-- Whether `p` occurs in `text`. -/
def occurs (p text : List Char) : Bool := text.tails.any fun tail => p.isPrefixOf tail

/-- A pattern occurs at the front of a text, or in the rest. -/
@[simp] theorem occurs_cons (p : List Char) (c : Char) (text : List Char) :
    occurs p (c :: text) = (p.isPrefixOf (c :: text) || occurs p text) := rfl

/-- The text of two neighbouring members whose values are strings. -/
def pairText (k1 v1 k2 v2 : List Char) : List Char :=
  '"' :: (k1 ++ '"' :: ':' :: '"' :: (v1 ++ '"' :: ',' :: '"' :: (k2 ++ '"' :: ':' :: '"' ::
    (v2 ++ '"' :: []))))

/-! ### Characters of tokens -/

/-- The characters of numbers and literals. -/
def isScalarChar (c : Char) : Bool := c.isAlphanum || c = '-' || c = '+' || c = '.'

/-- A digit may stand in a scalar. -/
theorem isScalarChar_digit (d : Digit) : isScalarChar d.val = true := by
  have h := d.property
  simp [isScalarChar, Char.isAlphanum, h]

/-- All digits of a number may stand in a scalar. -/
theorem isScalarChar_digits (ds : Digits) : ∀ c ∈ ds.text, isScalarChar c = true := by
  intro c hc
  rcases List.mem_cons.mp hc with rfl | htail
  · exact isScalarChar_digit ds.head
  · obtain ⟨d, -, rfl⟩ := List.mem_map.mp htail
    exact isScalarChar_digit d

/-- All characters of an exponent may stand in a scalar. -/
theorem isScalarChar_exponent (e : Exponent) : ∀ c ∈ e.text, isScalarChar c = true := by
  intro c hc
  rcases List.mem_cons.mp hc with rfl | htail
  · cases e.upper <;> decide
  · rcases List.mem_append.mp htail with hsign | hdigits
    · cases hs : e.sign with
      | none => simp [hs, ExponentSign.text] at hsign
      | plus =>
        obtain rfl : c = '+' := by simpa [hs, ExponentSign.text] using hsign
        decide
      | minus =>
        obtain rfl : c = '-' := by simpa [hs, ExponentSign.text] using hsign
        decide
    · exact isScalarChar_digits e.digits c hdigits

/-- All characters of a number may stand in a scalar. -/
theorem isScalarChar_number (n : Number) : ∀ c ∈ n.text, isScalarChar c = true := by
  obtain ⟨negative, integer, fraction, exponent⟩ := n
  intro c hc
  simp only [Number.text, List.mem_append] at hc
  -- The character stands in one of the four parts of the number.
  obtain ((hsign | hinteger) | hfraction) | hexponent := hc
  · cases negative with
    | true =>
      obtain rfl := List.mem_singleton.mp hsign
      decide
    | false => cases hsign
  · cases integer with
    | zero =>
      obtain rfl := List.mem_singleton.mp hinteger
      decide
    | positive digits h => exact isScalarChar_digits digits c hinteger
  · cases fraction with
    | none => cases hfraction
    | some digits =>
      rcases List.mem_cons.mp hfraction with rfl | hdigits
      · decide
      · exact isScalarChar_digits digits c hdigits
  · cases exponent with
    | none => cases hexponent
    | some exponent => exact isScalarChar_exponent exponent c hexponent

/-- A number begins with a minus or with a digit. -/
theorem number_text_head (n : Number) :
    ∃ c cs, n.text = c :: cs ∧ (c = '-' ∨ c.isDigit = true) := by
  obtain ⟨negative, integer, fraction, exponent⟩ := n
  cases negative with
  | true => exact ⟨'-', _, rfl, Or.inl rfl⟩
  | false =>
    cases integer with
    | zero => exact ⟨'0', _, rfl, Or.inr (by decide)⟩
    | positive digits h => exact ⟨digits.head.val, _, rfl, Or.inr digits.head.property⟩

/-- All characters of a scalar are such characters. -/
theorem isScalarChar_scalar (w : Scalar) : ∀ c ∈ w.text, isScalarChar c = true := by
  cases w with
  | null => exact List.all_eq_true.mp rfl
  | bool b =>
    cases b with
    | true => exact List.all_eq_true.mp rfl
    | false => exact List.all_eq_true.mp rfl
  | number n => exact isScalarChar_number n

/-- A scalar has a character. -/
theorem scalar_text_ne_nil (w : Scalar) : w.text ≠ [] := by
  cases w with
  | null => decide
  | bool b => cases b <;> decide
  | number n =>
    obtain ⟨c, cs, h, -⟩ := number_text_head n
    show n.text ≠ []
    rw [h]
    exact List.cons_ne_nil c cs

/-- No punctuation is a quote. -/
theorem punct_char_ne_quote (p : Punct) : '"' ≠ p.char := by
  cases p <;> decide

/-- No white space is a quote. -/
theorem ws_char_ne_quote (w : Ws) : '"' ≠ w.char := by
  cases w <;> decide

/-- No hexadecimal digit is a quote. -/
theorem hexDigit_char_ne_quote (d : HexDigit) : '"' ≠ d.char := by
  obtain ⟨value, upper⟩ := d
  revert value upper
  decide

/-! ### Prefixes of a text of tokens -/

/-- A pattern is no prefix when the first characters differ. -/
theorem isPrefixOf_cons_of_ne {c d : Char} (h : c ≠ d) (p text : List Char) :
    (c :: p).isPrefixOf (d :: text) = false := by
  simp [List.isPrefixOf, h]

/-- A clean word and a quote are a prefix of a spelled string exactly when the word is the
whole string. -/
theorem isPrefixOf_body {w : List Char} (hw : Clean w) (r : List Char) (s : Spelling)
    (rest : List Char) : (w ++ '"' :: r).isPrefixOf (body s ++ '"' :: rest)
      = (decide (body s = w) && r.isPrefixOf rest) := by
  induction s generalizing w with
  | nil =>
    cases w with
    | nil => exact List.isPrefixOf_cons_cons_self
    | cons d w => exact isPrefixOf_cons_of_ne (hw d (List.mem_cons_self ..)).1 _ _
  | cons c s ih =>
    -- The first character is plain, or it is written with a backslash.
    have hbackslash : ∀ text : List Char,
        (w ++ '"' :: r).isPrefixOf ('\\' :: text) = false := by
      intro text
      cases w with
      | nil => rfl
      | cons d w => exact isPrefixOf_cons_of_ne (hw d (List.mem_cons_self ..)).2 _ _
    have hne : ∀ text : List Char, '\\' :: text ≠ w := by
      rintro text rfl
      exact (hw '\\' (List.mem_cons_self ..)).2 rfl
    cases c with
    | plain c hc =>
      have hquote : '"' ≠ c := by
        rintro rfl
        cases hc
      cases w with
      | nil => exact isPrefixOf_cons_of_ne hquote _ _
      | cons d w =>
        have hclean : Clean w := fun x hx => hw x (List.mem_cons_of_mem d hx)
        show (d :: (w ++ '"' :: r)).isPrefixOf (c :: (body s ++ '"' :: rest))
          = (decide (c :: body s = d :: w) && r.isPrefixOf rest)
        by_cases hd : d = c
        · rw [hd, List.isPrefixOf_cons_cons_self, ih hclean]
          simp
        · rw [isPrefixOf_cons_of_ne hd]
          simp [Ne.symm hd]
    | escape e =>
      have hfalse : decide (body (.escape e :: s) = w) = false := decide_eq_false (hne _)
      rw [hfalse]
      exact hbackslash _
    | unicode u =>
      have hfalse : decide (body (.unicode u :: s) = w) = false := decide_eq_false (hne _)
      rw [hfalse]
      exact hbackslash _

/-- A string token in a text. -/
theorem textOf_string (s : Spelling) (ts : List Token) :
    textOf (.string s :: ts) = '"' :: (body s ++ '"' :: textOf ts) := by
  show '"' :: ((body s ++ ['"']) ++ textOf ts) = _
  rw [List.append_assoc]
  rfl

/-- Whether a text of tokens begins with `r`. -/
def prefixOf (r : List Char) (ts : List Token) : Bool := r.isPrefixOf (textOf ts)

/-- The tokens begin with the structural character `p`, and the rest satisfies `k`. -/
def afterPunct (p : Punct) (k : List Token → Bool) : List Token → Bool
  | .punct q :: rest => decide (q = p) && k rest
  | _ => false

/-- The tokens begin with a string that is spelled `w`, and the rest satisfies `k`. -/
def afterString (w : List Char) (k : List Token → Bool) : List Token → Bool
  | .string s :: rest => decide (body s = w) && k rest
  | _ => false

/-- A scalar begins with a character of its own kind. -/
theorem scalar_text_cons (w : Scalar) : ∃ c cs, w.text = c :: cs ∧ isScalarChar c = true := by
  obtain ⟨c, cs, h⟩ := List.exists_cons_of_ne_nil (scalar_text_ne_nil w)
  exact ⟨c, cs, h, isScalarChar_scalar w c (by rw [h]; exact List.mem_cons_self ..)⟩

/-- A structural character is a prefix exactly of the tokens that begin with it. -/
theorem prefixOf_punct (p : Punct) (r : List Char) :
    prefixOf (p.char :: r) = afterPunct p (prefixOf r) := by
  funext ts
  cases ts with
  | nil => rfl
  | cons t ts =>
    cases t with
    | punct q =>
      show (p.char :: r).isPrefixOf (q.char :: textOf ts) = (decide (q = p) && prefixOf r ts)
      by_cases h : q = p
      · rw [h, List.isPrefixOf_cons_cons_self, decide_eq_true rfl, Bool.true_and]
        rfl
      · have hchar : p.char ≠ q.char := by
          -- Different structural characters are written differently.
          revert h
          cases p <;> cases q <;> decide
        rw [isPrefixOf_cons_of_ne hchar, decide_eq_false h, Bool.false_and]
    | ws w =>
      have hchar : p.char ≠ w.char := by cases p <;> cases w <;> decide
      exact isPrefixOf_cons_of_ne hchar _ _
    | scalar w =>
      -- No structural character stands in a scalar.
      obtain ⟨c, cs, hw, hc⟩ := scalar_text_cons w
      have hchar : p.char ≠ c := by
        rintro rfl
        revert hc
        cases p <;> decide
      show (p.char :: r).isPrefixOf (w.text ++ textOf ts) = false
      rw [hw]
      exact isPrefixOf_cons_of_ne hchar _ _
    | string s => exact isPrefixOf_cons_of_ne (punct_char_ne_quote p).symm _ _

/-- A clean string is a prefix exactly of the tokens that begin with a string spelled so. -/
theorem prefixOf_string {w : List Char} (hw : Clean w) (r : List Char) :
    prefixOf ('"' :: (w ++ '"' :: r)) = afterString w (prefixOf r) := by
  funext ts
  cases ts with
  | nil => rfl
  | cons t ts =>
    cases t with
    | punct q => exact isPrefixOf_cons_of_ne (punct_char_ne_quote q) _ _
    | ws w => exact isPrefixOf_cons_of_ne (ws_char_ne_quote w) _ _
    | scalar w =>
      -- No quote stands in a scalar.
      obtain ⟨c, cs, hscalar, hc⟩ := scalar_text_cons w
      have hchar : '"' ≠ c := by
        rintro rfl
        revert hc
        decide
      show List.isPrefixOf ('"' :: _) (w.text ++ textOf ts) = false
      rw [hscalar]
      exact isPrefixOf_cons_of_ne hchar _ _
    | string s =>
      -- The quotes agree, and the rest is about the body of the string.
      show List.isPrefixOf _ (textOf (.string s :: ts)) = _
      rw [textOf_string, List.isPrefixOf_cons_cons_self, isPrefixOf_body hw]
      rfl

/-! ### The search in the tokens -/

/-- The tokens behind the first name of a pair. -/
def pairTail (v1 k2 v2 : List Char) : List Token → Bool :=
  afterPunct .nameSeparator (afterString v1 (afterPunct .valueSeparator (afterString k2
    (afterPunct .nameSeparator (afterString v2 fun _ => true)))))

/-- The spelling has an escaped quote, and `k` behind it up to its end. -/
def endsInKey (k : List Char) : Spelling → Bool
  | [] => false
  | c :: s => (decide (c = .escape .quote) && decide (body s = k)) || endsInKey k s

/-- The spelling is `k`, or it ends in `k` behind an escaped quote. -/
def keySpelled (k : List Char) (s : Spelling) : Bool := decide (body s = k) || endsInKey k s

/-- Some string of the tokens satisfies `key`, and the tokens behind it satisfy `tail`. -/
def occursIn (key : Spelling → Bool) (tail : List Token → Bool) : List Token → Bool
  | [] => false
  | .string s :: ts => (key s && tail ts) || occursIn key tail ts
  | _ :: ts => occursIn key tail ts

/-- The text of a pair behind its first name, against the tokens. -/
theorem prefixOf_pairTail {v1 k2 v2 : List Char} (hv1 : Clean v1) (hk2 : Clean k2)
    (hv2 : Clean v2) :
    prefixOf (':' :: '"' :: (v1 ++ '"' :: ',' :: '"' :: (k2 ++ '"' :: ':' :: '"' ::
      (v2 ++ '"' :: [])))) = pairTail v1 k2 v2 := by
  have hend : prefixOf [] = fun _ => true := rfl
  rw [pairTail, ← hend, ← prefixOf_string hv2, ← prefixOf_punct, ← prefixOf_string hk2,
    ← prefixOf_punct, ← prefixOf_string hv1, ← prefixOf_punct]
  rfl

/-- Text without a quote is passed over by a search that begins with a quote. -/
theorem occurs_append_of_no_quote {a : List Char} (ha : ∀ c ∈ a, '"' ≠ c) (q rest : List Char) :
    occurs ('"' :: q) (a ++ rest) = occurs ('"' :: q) rest := by
  induction a with
  | nil => rfl
  | cons c a ih =>
    rw [List.cons_append, occurs_cons, isPrefixOf_cons_of_ne (ha c (List.mem_cons_self ..)),
      Bool.false_or, ih fun x hx => ha x (List.mem_cons_of_mem c hx)]

/-- The search in one character of a string. Only an escaped quote can begin a match. -/
theorem occurs_strChar (c : StrChar) (q rest : List Char) :
    occurs ('"' :: q) (c.text ++ rest)
      = ((decide (c = .escape .quote) && q.isPrefixOf rest) || occurs ('"' :: q) rest) := by
  cases c with
  | plain c hc =>
    have hquote : '"' ≠ c := by
      rintro rfl
      cases hc
    have hpass := occurs_append_of_no_quote (a := [c]) (by simpa using hquote) q rest
    simpa [StrChar.text] using hpass
  | escape e =>
    by_cases he : e = .quote
    · -- Behind the backslash stands the quote that may begin a match.
      subst he
      show occurs ('"' :: q) ('\\' :: '"' :: rest) = _
      rw [occurs_cons, isPrefixOf_cons_of_ne (by decide), occurs_cons,
        List.isPrefixOf_cons_cons_self]
      simp
    · -- Another escape holds no quote.
      have hchar : '"' ≠ e.char := by
        revert he
        cases e <;> decide
      have hpass : ∀ c ∈ ['\\', e.char], '"' ≠ c := by simpa using hchar
      rw [show StrChar.text (.escape e) = ['\\', e.char] from rfl,
        occurs_append_of_no_quote hpass]
      simp [he]
  | unicode u =>
    -- None of the six characters is a quote, so the search passes over them.
    have hpass : ∀ c ∈ StrChar.text (.unicode u), '"' ≠ c := by
      intro c hc
      simp only [StrChar.text, List.mem_cons, List.not_mem_nil, or_false] at hc
      rcases hc with rfl | rfl | rfl | rfl | rfl | rfl
      · decide
      · decide
      · exact hexDigit_char_ne_quote u.d3
      · exact hexDigit_char_ne_quote u.d2
      · exact hexDigit_char_ne_quote u.d1
      · exact hexDigit_char_ne_quote u.d0
    rw [occurs_append_of_no_quote hpass]
    simp

/-- The search in a string, from behind its opening quote on. -/
theorem occurs_body {k : List Char} (hk : Clean k) (r : List Char) (s : Spelling)
    (rest : List Char) :
    occurs ('"' :: (k ++ '"' :: r)) (body s ++ '"' :: rest)
      = ((endsInKey k s && r.isPrefixOf rest) ||
          occurs ('"' :: (k ++ '"' :: r)) ('"' :: rest)) := by
  induction s with
  | nil => rfl
  | cons c s ih =>
    rw [body_cons, List.append_assoc, occurs_strChar, ih, isPrefixOf_body hk, endsInKey]
    cases decide (c = .escape .quote) <;> cases decide (body s = k) <;>
      cases r.isPrefixOf rest <;> cases endsInKey k s <;> rfl

/-- The search in a text of tokens is a search in the tokens. The first name `k` must not be
able to follow a closing quote, which is the case when no token begins with it. -/
theorem occurs_textOf {k : List Char} (hk : Clean k)
    (hstart : ∀ ts, prefixOf k ts = false) (r : List Char) (ts : List Token) :
    occurs ('"' :: (k ++ '"' :: r)) (textOf ts) = occursIn (keySpelled k) (prefixOf r) ts := by
  induction ts with
  | nil => rfl
  | cons t ts ih =>
    cases t with
    | punct p =>
      have hpass := occurs_append_of_no_quote (a := [p.char])
        (by simpa using punct_char_ne_quote p) (k ++ '"' :: r) (textOf ts)
      exact hpass.trans ih
    | ws w =>
      have hpass := occurs_append_of_no_quote (a := [w.char])
        (by simpa using ws_char_ne_quote w) (k ++ '"' :: r) (textOf ts)
      exact hpass.trans ih
    | scalar w =>
      have hne : ∀ c ∈ w.text, '"' ≠ c := by
        rintro c hc rfl
        exact absurd (isScalarChar_scalar w _ hc) (by decide)
      exact (occurs_append_of_no_quote hne _ _).trans ih
    | string s =>
      -- A closing quote begins no match.
      have hclose : List.isPrefixOf (k ++ '"' :: r) (textOf ts) = false := by
        by_contra h
        have hprefix : k ++ '"' :: r <+: textOf ts :=
          List.isPrefixOf_iff_prefix.mp (Bool.not_eq_false _ |>.mp h)
        have hk' : prefixOf k ts = true :=
          List.isPrefixOf_iff_prefix.mpr ((List.prefix_append k _).trans hprefix)
        cases hk'.symm.trans (hstart ts)
      rw [textOf_string, occurs_cons, List.isPrefixOf_cons_cons_self, isPrefixOf_body hk,
        occurs_body hk, occurs_cons, List.isPrefixOf_cons_cons_self, hclose, Bool.false_or, ih,
        occursIn, keySpelled, ← Bool.or_assoc, ← Bool.and_or_distrib_right]
      rfl

/-- A text that begins with `n`, and not with `nu`, begins no token. -/
theorem prefixOf_n {d : Char} (hd : d ≠ 'u') (k : List Char) (ts : List Token) :
    prefixOf ('n' :: d :: k) ts = false := by
  cases ts with
  | nil => rfl
  | cons t ts =>
    cases t with
    | punct p => exact isPrefixOf_cons_of_ne (by cases p <;> decide) _ _
    | ws w => exact isPrefixOf_cons_of_ne (by cases w <;> decide) _ _
    | string s => exact isPrefixOf_cons_of_ne (by decide) _ _
    | scalar w =>
      cases w with
      | null =>
        -- `null` begins with `nu`.
        show List.isPrefixOf ('n' :: d :: k) ('n' :: 'u' :: _) = false
        rw [List.isPrefixOf_cons_cons_self, isPrefixOf_cons_of_ne hd]
      | bool b => cases b <;> exact isPrefixOf_cons_of_ne (by decide) _ _
      | number n =>
        -- A number begins with a minus or with a digit.
        obtain ⟨c, cs, hn, hc⟩ := number_text_head n
        have hne : 'n' ≠ c := by
          rintro rfl
          revert hc
          decide
        show List.isPrefixOf _ (n.text ++ textOf ts) = false
        rw [hn]
        exact isPrefixOf_cons_of_ne hne _ _

/-! ### The search in the tree -/

/-- The value is a string that is spelled `w`. -/
def Json.spells (w : List Char) : Json → Bool
  | .string s => decide (body s = w)
  | _ => false

/-- The member is the first one of a pair, without white space up to the separator. -/
def firstOfPair (key : Spelling → Bool) (v1 : List Char) (m : Member Json) : Bool :=
  key m.key && (m.afterKey.isEmpty && (m.beforeValue.isEmpty && (m.value.spells v1 &&
    m.after.isEmpty)))

/-- The member is the second one of a pair, without white space up to its value. -/
def secondOfPair (k2 v2 : List Char) (m : Member Json) : Bool :=
  m.before.isEmpty && (decide (body m.key = k2) && (m.afterKey.isEmpty &&
    (m.beforeValue.isEmpty && m.value.spells v2)))

/-- Two neighbouring members that are written as a pair, with a first name that satisfies
`key`. -/
def isPair (key : Spelling → Bool) (v1 k2 v2 : List Char) (p : Member Json × Member Json) :
    Bool := firstOfPair key v1 p.1 && secondOfPair k2 v2 p.2

/-- Two neighbouring members that are written as the pair of `pairText`. -/
def compactPair (k1 v1 k2 v2 : List Char) : Member Json × Member Json → Bool :=
  isPair (keySpelled k1) v1 k2 v2

/-- A structural character is passed over by the search. -/
theorem occursIn_punct (key : Spelling → Bool) (tail : List Token → Bool) (p : Punct)
    (ts : List Token) : occursIn key tail (.punct p :: ts) = occursIn key tail ts := rfl

/-- White space is passed over by the search. -/
theorem occursIn_ws (key : Spelling → Bool) (tail : List Token → Bool) (l : Layout)
    (ts : List Token) : occursIn key tail (l.tokens ++ ts) = occursIn key tail ts := by
  induction l with
  | nil => rfl
  | cons w l ih => exact ih

/-- White space stands in the way of a structural character. -/
theorem afterPunct_ws (p : Punct) (k : List Token → Bool) (l : Layout) (ts : List Token) :
    afterPunct p k (l.tokens ++ ts) = (l.isEmpty && afterPunct p k ts) := by
  cases l with
  | nil => exact (Bool.true_and _).symm
  | cons w l => rfl

/-- White space stands in the way of a string. -/
theorem afterString_ws (w : List Char) (k : List Token → Bool) (l : Layout)
    (ts : List Token) : afterString w k (l.tokens ++ ts) = (l.isEmpty && afterString w k ts) := by
  cases l with
  | nil => exact (Bool.true_and _).symm
  | cons w l => rfl

/-- The tokens of a value begin with a string when the value is one. -/
theorem afterString_tokens (w : List Char) (k : List Token → Bool) (v : Json)
    (ts : List Token) : afterString w k (v.tokens ++ ts) = (v.spells w && k ts) := by
  cases v <;> simp [Json.tokens, afterString, Json.spells]

/-- The tokens do not begin with a name separator. -/
def NoSeparator (ts : List Token) : Prop :=
  ∀ k, afterPunct .nameSeparator k ts = false

/-- White space in front is skipped. -/
theorem noSeparator_ws (l : Layout) {ts : List Token} (h : NoSeparator ts) :
    NoSeparator (l.tokens ++ ts) := by
  intro k
  rw [afterPunct_ws, h k, Bool.and_false]

/-- Another punctuation is no separator. -/
theorem noSeparator_punct {p : Punct} (hp : p ≠ .nameSeparator) (ts : List Token) :
    NoSeparator (.punct p :: ts) := by
  intro k
  show (decide (p = .nameSeparator) && k ts) = false
  rw [decide_eq_false hp, Bool.false_and]

/-- Behind an item of an array comes no separator of names. -/
theorem noSeparator_moreItems (items : List (Item Json)) (ts : List Token) :
    NoSeparator (moreItemsTokens items ++ .punct .endArray :: ts) := by
  cases items with
  | nil => exact noSeparator_punct (by decide) ts
  | cons item items => exact noSeparator_punct (by decide) _

/-- Behind a member of an object comes no separator of names. -/
theorem noSeparator_moreMembers (members : List (Member Json)) (ts : List Token) :
    NoSeparator (moreMembersTokens members ++ .punct .endObject :: ts) := by
  cases members with
  | nil => exact noSeparator_punct (by decide) ts
  | cons member members => exact noSeparator_punct (by decide) _

section
variable (key : Spelling → Bool) (v1 k2 v2 : List Char)

/-- The second member of a pair, in the tokens behind the first one. -/
def afterFirst : List Token → Bool :=
  afterPunct .valueSeparator (afterString k2 (afterPunct .nameSeparator
    (afterString v2 fun _ => true)))

/-- The tail of a pair in the tokens behind the name of a member. -/
theorem pairTail_member (afterKey beforeValue after : Layout) (value : Json)
    (ts : List Token) :
    pairTail v1 k2 v2 (afterKey.tokens ++ (.punct .nameSeparator :: (beforeValue.tokens ++
        (value.tokens ++ (after.tokens ++ ts)))))
      = (afterKey.isEmpty && (beforeValue.isEmpty && (value.spells v1 && (after.isEmpty &&
          afterFirst k2 v2 ts)))) := by
  rw [pairTail, afterPunct_ws]
  show (afterKey.isEmpty && (true && afterString v1 _ (beforeValue.tokens ++ _))) = _
  rw [Bool.true_and, afterString_ws, afterString_tokens, afterPunct_ws]
  rfl

/-- The tokens of a member, before other tokens. -/
theorem memberTokens_append (m : Member Json) (ts : List Token) :
    memberTokens m ++ ts = Layout.tokens m.before ++ (.string m.key ::
      (Layout.tokens m.afterKey ++ (.punct .nameSeparator :: (Layout.tokens m.beforeValue ++
        (m.value.tokens ++ (Layout.tokens m.after ++ ts)))))) := by
  obtain ⟨before, name, afterKey, beforeValue, value, after⟩ := m
  simp [memberTokens]

/-- The second member of a pair is the next member of the object. -/
theorem afterFirst_moreMembers (members : List (Member Json)) (ts : List Token) :
    afterFirst k2 v2 (moreMembersTokens members ++ .punct .endObject :: ts)
      = members.head?.any (secondOfPair k2 v2) := by
  cases members with
  | nil => rfl
  | cons m members =>
    show (true && afterString k2 _ ((memberTokens m ++ moreMembersTokens members) ++ _)) = _
    rw [Bool.true_and, List.append_assoc, memberTokens_append, afterString_ws]
    show (m.before.isEmpty && (decide (body m.key = k2) && afterPunct _ _ _)) = _
    rw [afterPunct_ws]
    show (m.before.isEmpty && (decide (body m.key = k2) && (m.afterKey.isEmpty &&
      (true && afterString v2 _ (Layout.tokens m.beforeValue ++ _))))) = _
    rw [Bool.true_and, afterString_ws, afterString_tokens, Bool.and_true]
    rfl

/-- Neighbours from one list, the first one taken off. -/
theorem any_zip_tail (m : Member Json) (members : List (Member Json)) :
    ((m :: members).zip members).any (isPair key v1 k2 v2)
      = ((firstOfPair key v1 m && members.head?.any (secondOfPair k2 v2)) ||
          (members.zip members.tail).any (isPair key v1 k2 v2)) := by
  cases members with
  | nil => simp
  | cons n members => rfl

mutual

/-- The search in the tokens of a value, and in what follows it: the pairs of neighbours of
the value, and then the rest. -/
theorem occursIn_tokens : (v : Json) → (ts : List Token) → NoSeparator ts →
    occursIn key (pairTail v1 k2 v2) (v.tokens ++ ts)
      = (v.neighbours.any (isPair key v1 k2 v2) ||
          occursIn key (pairTail v1 k2 v2) ts)
  | .scalar w, ts, _ => by
      simp [Json.tokens, Json.neighbours, occursIn]
  | .string s, ts, hts => by
      -- A string value is not the name of a member.
      have htail : pairTail v1 k2 v2 ts = false := hts _
      simp [Json.tokens, Json.neighbours, occursIn, htail]
  | .array pad [], ts, _ => by
      simp only [Json.tokens, Json.neighbours, itemsTokens, itemsNeighbours, List.cons_append,
        List.append_assoc, List.nil_append, occursIn, occursIn_ws, List.any_nil, Bool.false_or]
  | .array pad (item :: items), ts, _ => by
      have hitem := occursIn_item item _ (noSeparator_moreItems items ts)
      rw [occursIn_moreItems items ts] at hitem
      simp only [Json.tokens, Json.neighbours, itemsTokens, itemsNeighbours, List.cons_append,
        List.append_assoc, List.nil_append, occursIn, occursIn_ws, hitem, List.any_append,
        Bool.or_assoc]
  | .object pad [], ts, _ => by
      simp only [Json.tokens, Json.neighbours, membersTokens, membersNeighbours,
        List.cons_append, List.append_assoc, List.nil_append, occursIn, occursIn_ws,
        List.zip_nil_left, List.any_nil, Bool.false_or]
  | .object pad (m :: members), ts, _ => by
      have hmember := occursIn_member m _ (noSeparator_moreMembers members ts)
      rw [occursIn_moreMembers members ts, afterFirst_moreMembers] at hmember
      simp only [Json.tokens, Json.neighbours, membersTokens, membersNeighbours,
        List.cons_append, List.append_assoc, List.nil_append, occursIn, occursIn_ws, hmember,
        List.tail_cons, any_zip_tail, List.any_append]
      ac_rfl

/-- The search in an item of an array. -/
theorem occursIn_item : (item : Item Json) → (ts : List Token) → NoSeparator ts →
    occursIn key (pairTail v1 k2 v2) (itemTokens item ++ ts)
      = ((itemNeighbours item).any (isPair key v1 k2 v2) ||
          occursIn key (pairTail v1 k2 v2) ts)
  | ⟨before, value, after⟩, ts, hts => by
      have hvalue := occursIn_tokens value (Layout.tokens after ++ ts) (noSeparator_ws after hts)
      simp only [itemTokens, itemNeighbours, List.append_assoc, occursIn_ws] at hvalue ⊢
      exact hvalue

/-- The search in further items of an array. -/
theorem occursIn_moreItems : (items : List (Item Json)) → (ts : List Token) →
    occursIn key (pairTail v1 k2 v2) (moreItemsTokens items ++ .punct .endArray :: ts)
      = ((itemsNeighbours items).any (isPair key v1 k2 v2) ||
          occursIn key (pairTail v1 k2 v2) ts)
  | [], ts => by
      simp [moreItemsTokens, itemsNeighbours, occursIn]
  | item :: items, ts => by
      have hitem := occursIn_item item _ (noSeparator_moreItems items ts)
      have hrest := occursIn_moreItems items ts
      rw [hrest] at hitem
      simp only [moreItemsTokens, itemsNeighbours, List.cons_append, List.append_assoc, occursIn,
        List.any_append, hitem, Bool.or_assoc]

/-- The search in a member of an object: the pair that begins with the member, and its
value. -/
theorem occursIn_member : (m : Member Json) → (ts : List Token) → NoSeparator ts →
    occursIn key (pairTail v1 k2 v2) (memberTokens m ++ ts)
      = ((firstOfPair key v1 m && afterFirst k2 v2 ts) ||
          ((memberNeighbours m).any (isPair key v1 k2 v2) ||
          occursIn key (pairTail v1 k2 v2) ts))
  | ⟨before, name, afterKey, beforeValue, value, after⟩, ts, hts => by
      have hvalue := occursIn_tokens value (Layout.tokens after ++ ts) (noSeparator_ws after hts)
      rw [memberTokens_append, occursIn_ws, occursIn, pairTail_member, occursIn_ws,
        occursIn_punct, occursIn_ws, hvalue, occursIn_ws]
      simp only [firstOfPair, memberNeighbours, Bool.and_assoc]

/-- The search in further members of an object. -/
theorem occursIn_moreMembers : (members : List (Member Json)) → (ts : List Token) →
    occursIn key (pairTail v1 k2 v2) (moreMembersTokens members ++ .punct .endObject :: ts)
      = ((members.zip members.tail).any (isPair key v1 k2 v2) ||
          ((membersNeighbours members).any (isPair key v1 k2 v2) ||
          occursIn key (pairTail v1 k2 v2) ts))
  | [], ts => by
      simp [moreMembersTokens, membersNeighbours, occursIn]
  | m :: members, ts => by
      have hmember := occursIn_member m _ (noSeparator_moreMembers members ts)
      rw [occursIn_moreMembers members ts, afterFirst_moreMembers] at hmember
      simp only [moreMembersTokens, membersNeighbours, List.cons_append, List.append_assoc,
        occursIn, hmember, List.tail_cons, any_zip_tail, List.any_append]
      ac_rfl

end

end

/-- The search for a pair in a JSON text finds exactly the neighbouring members that are
written as the pair, in any object at any depth. -/
theorem occurs_pairText {k1 v1 k2 v2 : List Char} (hk1 : Clean k1) (hv1 : Clean v1)
    (hk2 : Clean k2) (hv2 : Clean v2) (hstart : ∀ ts, prefixOf k1 ts = false) (d : Document) :
    occurs (pairText k1 v1 k2 v2) d.text = d.value.neighbours.any (compactPair k1 v1 k2 v2) := by
  have hws : NoSeparator (Layout.tokens d.after ++ []) := noSeparator_ws d.after fun _ => rfl
  rw [pairText, Document.text, occurs_textOf hk1 hstart, prefixOf_pairTail hv1 hk2 hv2,
    occursIn_ws, ← List.append_nil (Layout.tokens d.after), occursIn_tokens _ _ _ _ _ _ hws,
    occursIn_ws, occursIn, Bool.or_false]
  rfl

end XrSpeechAvs.Lib
