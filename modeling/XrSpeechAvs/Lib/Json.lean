import Mathlib.Data.List.Basic

/-!
# `XrSpeechAvs.Lib.Json`: JSON texts as trees with their layout

A `Json` is a JSON value as it is written: the order of the members, the white space around
every token and the spelling of every string are part of the tree. `Document.text` writes it
out, so the JSON texts are the texts of documents. A text is a list of characters, one for
each byte.

The tree is written through a list of `Token`s, none of which is empty.

* `decodeString` is the string that a spelling stands for.
* `Json.get` is the value of a member, by the decoded name.
* `Json.neighbours` lists the neighbouring members of every object, at any depth.
-/

set_option autoImplicit false

namespace XrSpeechAvs.Lib

/-! ### White space -/

/-- A character of insignificant white space. -/
inductive Ws where
  | space
  | tab
  | newline
  | carriageReturn
  deriving DecidableEq, Repr

/-- The character of a white space. -/
def Ws.char : Ws → Char
  | .space => ' '
  | .tab => '\t'
  | .newline => '\n'
  | .carriageReturn => '\r'

/-- White space between two tokens. -/
abbrev Layout := List Ws

/-! ### Strings -/

/-- A character that may stand for itself in a string. -/
def isPlain (c : Char) : Bool := c ≠ '"' && c ≠ '\\' && 32 ≤ c.toNat

/-- The escapes of one character. -/
inductive Escape where
  | quote
  | backslash
  | slash
  | backspace
  | formFeed
  | newline
  | carriageReturn
  | tab
  deriving DecidableEq, Repr

/-- The character behind the backslash. -/
def Escape.char : Escape → Char
  | .quote => '"'
  | .backslash => '\\'
  | .slash => '/'
  | .backspace => 'b'
  | .formFeed => 'f'
  | .newline => 'n'
  | .carriageReturn => 'r'
  | .tab => 't'

/-- The character that the escape stands for. -/
def Escape.value : Escape → Char
  | .quote => '"'
  | .backslash => '\\'
  | .slash => '/'
  | .backspace => Char.ofNat 8
  | .formFeed => Char.ofNat 12
  | .newline => '\n'
  | .carriageReturn => '\r'
  | .tab => '\t'

/-- A hexadecimal digit, and whether a letter is written in upper case. -/
structure HexDigit where
  value : Fin 16
  upper : Bool
  deriving DecidableEq, Repr

/-- The character of a hexadecimal digit, in the case in which it is written. -/
def HexDigit.char (d : HexDigit) : Char :=
  if d.value.val < 10 then Char.ofNat ('0'.toNat + d.value)
  else Char.ofNat ((if d.upper then 'A' else 'a').toNat + (d.value - 10))

/-- The four digits of a `\u` escape. -/
structure CodeUnit where
  d3 : HexDigit
  d2 : HexDigit
  d1 : HexDigit
  d0 : HexDigit
  deriving DecidableEq, Repr

/-- The value of four hexadecimal digits. -/
def CodeUnit.value (u : CodeUnit) : Nat :=
  ((u.d3.value * 16 + u.d2.value) * 16 + u.d1.value) * 16 + u.d0.value

/-- The first half of a surrogate pair. -/
def CodeUnit.isHighSurrogate (u : CodeUnit) : Bool := 0xD800 ≤ u.value && u.value < 0xDC00

/-- The second half of a surrogate pair. -/
def CodeUnit.isLowSurrogate (u : CodeUnit) : Bool := 0xDC00 ≤ u.value && u.value < 0xE000

/-- One character of a string, as it is spelled. -/
inductive StrChar where
  | plain (c : Char) (h : isPlain c = true)
  | escape (e : Escape)
  | unicode (u : CodeUnit)
  deriving DecidableEq, Repr

/-- The characters of one element of a string. -/
def StrChar.text : StrChar → List Char
  | .plain c _ => [c]
  | .escape e => ['\\', e.char]
  | .unicode u => ['\\', 'u', u.d3.char, u.d2.char, u.d1.char, u.d0.char]

/-- A string as it is spelled between its quotes. -/
abbrev Spelling := List StrChar

/-- The text between the quotes. -/
def body (s : Spelling) : List Char := s.flatMap StrChar.text

/-- The text of a spelling starts with that of its first element. -/
@[simp] theorem body_cons (c : StrChar) (s : Spelling) : body (c :: s) = c.text ++ body s := rfl

/-- A text that a string can hold without an escape. -/
def Clean (w : List Char) : Prop := ∀ c ∈ w, c ≠ '"' ∧ c ≠ '\\'

instance (w : List Char) : Decidable (Clean w) :=
  List.decidableBAll (fun c => c ≠ '"' ∧ c ≠ '\\') w

/-- The UTF-8 bytes of a code point. -/
def utf8 (n : Nat) : List Char :=
  (if n < 0x80 then [n]
  else if n < 0x800 then [0xC0 + n / 0x40, 0x80 + n % 0x40]
  else if n < 0x10000 then [0xE0 + n / 0x1000, 0x80 + n / 0x40 % 0x40, 0x80 + n % 0x40]
  else [0xF0 + n / 0x40000, 0x80 + n / 0x1000 % 0x40, 0x80 + n / 0x40 % 0x40,
    0x80 + n % 0x40]).map Char.ofNat

/-- The string that a spelling stands for. Two surrogates make one code point. -/
def decodeString : Spelling → List Char
  | [] => []
  | .plain c _ :: rest => c :: decodeString rest
  | .escape e :: rest => e.value :: decodeString rest
  | .unicode u :: .unicode v :: rest =>
    if u.isHighSurrogate && v.isLowSurrogate then
      utf8 (0x10000 + (u.value - 0xD800) * 0x400 + (v.value - 0xDC00)) ++ decodeString rest
    else utf8 u.value ++ decodeString (.unicode v :: rest)
  | .unicode u :: rest => utf8 u.value ++ decodeString rest

/-- A spelling without escapes stands for its own text. -/
theorem decodeString_of_clean {s : Spelling} (h : Clean (body s)) : decodeString s = body s := by
  induction s with
  | nil => rfl
  | cons c s ih =>
    have hrest : Clean (body s) := by
      intro x hx
      exact h x (List.mem_append_right _ hx)
    cases c with
    | plain c hc =>
      show c :: decodeString s = c :: body s
      rw [ih hrest]
    | escape e => exact absurd rfl (h '\\' (List.mem_cons_self ..)).2
    | unicode u => exact absurd rfl (h '\\' (List.mem_cons_self ..)).2

/-! ### Numbers and literals -/

/-- A decimal digit. -/
abbrev Digit := { c : Char // c.isDigit = true }

/-- One or more digits. -/
structure Digits where
  head : Digit
  tail : List Digit
  deriving DecidableEq

/-- The characters of a non-empty list of digits. -/
def Digits.text (ds : Digits) : List Char := ds.head.val :: ds.tail.map Subtype.val

/-- The integer part of a number: a zero, or digits that do not begin with one. -/
inductive IntegerPart where
  | zero
  | positive (digits : Digits) (h : digits.head.val ≠ '0')
  deriving DecidableEq

/-- The characters of the integer part. -/
def IntegerPart.text : IntegerPart → List Char
  | .zero => ['0']
  | .positive digits _ => digits.text

/-- The sign of an exponent. -/
inductive ExponentSign where
  | none
  | plus
  | minus
  deriving DecidableEq

/-- The characters of the sign of an exponent. -/
def ExponentSign.text : ExponentSign → List Char
  | .none => []
  | .plus => ['+']
  | .minus => ['-']

/-- The exponent of a number. -/
structure Exponent where
  upper : Bool
  sign : ExponentSign
  digits : Digits
  deriving DecidableEq

/-- The characters of an exponent. -/
def Exponent.text (e : Exponent) : List Char :=
  (if e.upper then 'E' else 'e') :: (e.sign.text ++ e.digits.text)

/-- A number, as it is written. -/
structure Number where
  negative : Bool
  integer : IntegerPart
  fraction : Option Digits
  exponent : Option Exponent
  deriving DecidableEq

/-- The characters of a number. -/
def Number.text (n : Number) : List Char :=
  (if n.negative then ['-'] else []) ++ n.integer.text ++
    (match n.fraction with
      | some digits => '.' :: digits.text
      | none => []) ++
    (match n.exponent with
      | some exponent => exponent.text
      | none => [])

/-- A value without quotes and brackets. -/
inductive Scalar where
  | null
  | bool (b : Bool)
  | number (n : Number)
  deriving DecidableEq

/-- The characters of a scalar. -/
def Scalar.text : Scalar → List Char
  | .null => ['n', 'u', 'l', 'l']
  | .bool true => ['t', 'r', 'u', 'e']
  | .bool false => ['f', 'a', 'l', 's', 'e']
  | .number n => n.text

/-! ### Values -/

/-- An item of an array: a value, and the white space before and behind it. -/
structure Item (α : Type) where
  before : Layout
  value : α
  after : Layout
  deriving DecidableEq

/-- A member of an object: its name, its value, and the white space around the two and
around the colon. -/
structure Member (α : Type) where
  before : Layout
  key : Spelling
  afterKey : Layout
  beforeValue : Layout
  value : α
  after : Layout
  deriving DecidableEq

/-- A JSON value, as it is written. `pad` is the white space behind the opening bracket. -/
inductive Json where
  | scalar (w : Scalar)
  | string (s : Spelling)
  | array (pad : Layout) (items : List (Item Json))
  | object (pad : Layout) (members : List (Member Json))

/-- A JSON text: a value, and the white space around it. -/
structure Document where
  before : Layout
  value : Json
  after : Layout

/-! ### Tokens -/

/-- The structural characters. -/
inductive Punct where
  | beginArray
  | beginObject
  | endArray
  | endObject
  | nameSeparator
  | valueSeparator
  deriving DecidableEq, Repr

/-- The character of a punctuation. -/
def Punct.char : Punct → Char
  | .beginArray => '['
  | .beginObject => '{'
  | .endArray => ']'
  | .endObject => '}'
  | .nameSeparator => ':'
  | .valueSeparator => ','

/-- A token of a JSON text. Every character of white space is a token of its own. -/
inductive Token where
  | punct (p : Punct)
  | ws (w : Ws)
  | scalar (w : Scalar)
  | string (s : Spelling)
  deriving DecidableEq

/-- The characters of a token. -/
def Token.text : Token → List Char
  | .punct p => [p.char]
  | .ws w => [w.char]
  | .scalar w => w.text
  | .string s => '"' :: (body s ++ ['"'])

/-- The text of a list of tokens. -/
def textOf (ts : List Token) : List Char := ts.flatMap Token.text

/-- White space as tokens. -/
def Layout.tokens (l : Layout) : List Token := l.map .ws

mutual

/-- The tokens of a value. -/
def Json.tokens : Json → List Token
  | .scalar w => [.scalar w]
  | .string s => [.string s]
  | .array pad items =>
    .punct .beginArray :: (Layout.tokens pad ++ (itemsTokens items ++ [.punct .endArray]))
  | .object pad members =>
    .punct .beginObject :: (Layout.tokens pad ++ (membersTokens members ++ [.punct .endObject]))

/-- The tokens of the items of an array, with separators between them. -/
def itemsTokens : List (Item Json) → List Token
  | [] => []
  | item :: items => itemTokens item ++ moreItemsTokens items

/-- The tokens of further items, with a separator before each of them. -/
def moreItemsTokens : List (Item Json) → List Token
  | [] => []
  | item :: items => .punct .valueSeparator :: (itemTokens item ++ moreItemsTokens items)

/-- The tokens of an item. -/
def itemTokens : Item Json → List Token
  | ⟨before, value, after⟩ => Layout.tokens before ++ (value.tokens ++ Layout.tokens after)

/-- The tokens of the members of an object, with separators between them. -/
def membersTokens : List (Member Json) → List Token
  | [] => []
  | member :: members => memberTokens member ++ moreMembersTokens members

/-- The tokens of further members, with a separator before each of them. -/
def moreMembersTokens : List (Member Json) → List Token
  | [] => []
  | member :: members =>
    .punct .valueSeparator :: (memberTokens member ++ moreMembersTokens members)

/-- The tokens of a member. -/
def memberTokens : Member Json → List Token
  | ⟨before, key, afterKey, beforeValue, value, after⟩ =>
    Layout.tokens before ++ (.string key :: (Layout.tokens afterKey ++
      (.punct .nameSeparator :: (Layout.tokens beforeValue ++
        (value.tokens ++ Layout.tokens after)))))

end

/-- The text of a document. -/
def Document.text (d : Document) : List Char :=
  textOf (Layout.tokens d.before ++ (d.value.tokens ++ Layout.tokens d.after))

/-! ### The meaning of a value -/

/-- The string that a value stands for, if it is a string. -/
def Json.stringValue : Json → Option (List Char)
  | .string s => some (decodeString s)
  | _ => none

/-- The value of a member, by its decoded name. -/
def Json.get (name : List Char) : Json → Option Json
  | .object _ members =>
    (members.find? fun member => decodeString member.key = name).map Member.value
  | _ => none

mutual

/-- The neighbouring members of every object of a value, at any depth. -/
def Json.neighbours : Json → List (Member Json × Member Json)
  | .scalar _ => []
  | .string _ => []
  | .array _ items => itemsNeighbours items
  | .object _ members => members.zip members.tail ++ membersNeighbours members

/-- The neighbours in the items of an array. -/
def itemsNeighbours : List (Item Json) → List (Member Json × Member Json)
  | [] => []
  | item :: items => itemNeighbours item ++ itemsNeighbours items

/-- The neighbours in one item. -/
def itemNeighbours : Item Json → List (Member Json × Member Json)
  | ⟨_, value, _⟩ => value.neighbours

/-- The neighbours in the members of an object. -/
def membersNeighbours : List (Member Json) → List (Member Json × Member Json)
  | [] => []
  | member :: members => memberNeighbours member ++ membersNeighbours members

/-- The neighbours in one member. -/
def memberNeighbours : Member Json → List (Member Json × Member Json)
  | ⟨_, _, _, _, value, _⟩ => value.neighbours

end

/-! ### Members -/

/-- With distinct names, the value of a member is found under its name. -/
theorem Json.get_of_mem {pad : Layout} {members : List (Member Json)} {m : Member Json}
    {name : List Char} (hdistinct : (members.map fun m => decodeString m.key).Nodup)
    (hm : m ∈ members) (hname : decodeString m.key = name) :
    (Json.object pad members).get name = some m.value := by
  have hfind : members.find? (fun m => decodeString m.key = name) = some m := by
    induction members with
    | nil => cases hm
    | cons n members ih =>
      rw [List.map_cons, List.nodup_cons] at hdistinct
      rcases List.mem_cons.mp hm with rfl | htail
      · exact List.find?_cons_of_pos (decide_eq_true hname)
      · -- The first name is another one, since the name comes again later.
        have hne : decodeString n.key ≠ name := by
          intro he
          refine hdistinct.1 (List.mem_map.mpr ⟨m, htail, ?_⟩)
          rw [hname, he]
        rw [List.find?_cons_of_neg (by simpa using hne)]
        exact ih hdistinct.2 htail
  show (members.find? fun m => decodeString m.key = name).map Member.value = _
  rw [hfind]
  rfl

/-- The neighbours in the values of the members. -/
theorem mem_membersNeighbours {members : List (Member Json)} {m : Member Json}
    (hm : m ∈ members) {p : Member Json × Member Json} (hp : p ∈ m.value.neighbours) :
    p ∈ membersNeighbours members := by
  induction members with
  | nil => cases hm
  | cons n members ih =>
    rw [membersNeighbours, List.mem_append]
    rcases List.mem_cons.mp hm with rfl | htail
    · left
      cases m
      exact hp
    · exact Or.inr (ih htail)

/-- The neighbours in the value of a member are neighbours of the whole. -/
theorem Json.neighbours_of_get {name : List Char} {v w : Json} (h : v.get name = some w)
    {p : Member Json × Member Json} (hp : p ∈ w.neighbours) : p ∈ v.neighbours := by
  cases v with
  | object pad members =>
    obtain ⟨m, hm, rfl⟩ := Option.map_eq_some_iff.mp h
    rw [Json.neighbours, List.mem_append]
    exact Or.inr (mem_membersNeighbours (List.mem_of_find?_eq_some hm) hp)
  | scalar w => cases h
  | string s => cases h
  | array pad items => cases h

/-- Two members of an object that follow one another are neighbours. -/
theorem Json.mem_neighbours (pad : Layout) (before rest : List (Member Json))
    (m n : Member Json) : (m, n) ∈ (Json.object pad (before ++ m :: n :: rest)).neighbours := by
  rw [Json.neighbours, List.mem_append]
  left
  induction before with
  | nil => exact List.mem_cons_self ..
  | cons x before ih =>
    cases before with
    | nil => exact List.mem_cons_of_mem _ ih
    | cons y before => exact List.mem_cons_of_mem _ ih

end XrSpeechAvs.Lib
