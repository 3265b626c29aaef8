import XrSpeechAvs.Impl.ThunderInputManager
import XrSpeechAvs.Lib.JsonSearch

/-!
# `XrSpeechAvs.Proofs.SpeakDirective`: the search of `receive` against the parsed directive

`receive` forwards a message that holds `"namespace":"SpeechSynthesizer","name":"Speak"`,
and it does not parse the message. The messages are JSON texts, and the directive that a
text stands for has its namespace and its name in `directive.header`.

The search finds two neighbouring members of any object, in one spelling. So it misses a
`Speak` directive that is written with white space, with escapes, or in another order. And
it forwards any directive that has such members in its payload.

* `receive_document` is what `receive` does with any JSON text.
* `receive_directive_iff` compares it with the parsed header.
* `search_differs_from_parse` has a text for each of the two differences.
-/

set_option autoImplicit false

namespace XrSpeechAvs.Proofs

open XrSpeechAvs.Impl
open XrSpeechAvs.Lib

/-! ### The names -/

/-- The member of the message that holds the directive. -/
def DIRECTIVE : Text := ['d', 'i', 'r', 'e', 'c', 't', 'i', 'v', 'e']

/-- The member of the directive that holds its header. -/
def HEADER : Text := ['h', 'e', 'a', 'd', 'e', 'r']

/-- The member of the directive that holds its payload. -/
def PAYLOAD : Text := ['p', 'a', 'y', 'l', 'o', 'a', 'd']

/-- The member of the header with the namespace. -/
def NAMESPACE : Text := ['n', 'a', 'm', 'e', 's', 'p', 'a', 'c', 'e']

/-- The member of the header with the name. -/
def NAME : Text := ['n', 'a', 'm', 'e']

/-- The namespace of a `Speak` directive. -/
def SPEECH_SYNTHESIZER : Text :=
  ['S', 'p', 'e', 'e', 'c', 'h', 'S', 'y', 'n', 't', 'h', 'e', 's', 'i', 'z', 'e', 'r']

/-- The name of a `Speak` directive. -/
def SPEAK : Text := ['S', 'p', 'e', 'a', 'k']

/-- The text that `receive` searches for is the text of a pair. -/
theorem speakKey_eq :
    ThunderInputManager.speakKey = pairText NAMESPACE SPEECH_SYNTHESIZER NAME SPEAK := rfl

/-- Two neighbouring members that are written like the text. -/
def speakPair : Member Json × Member Json → Bool :=
  compactPair NAMESPACE SPEECH_SYNTHESIZER NAME SPEAK

/-! ### The parsed directive -/

/-- A directive has a header and a payload. -/
def IsDirective (v : Json) : Prop :=
  ∃ directive, v.get DIRECTIVE = some directive ∧ (directive.get HEADER).isSome ∧
    (directive.get PAYLOAD).isSome

/-- The header of a directive. -/
def headerOf (v : Json) : Option Json := (v.get DIRECTIVE).bind (Json.get HEADER)

/-- A string in the header of a directive. -/
def headerField (name : Text) (v : Json) : Option Text :=
  ((headerOf v).bind (Json.get name)).bind Json.stringValue

/-- The decoded header is the one of a `Speak` directive. -/
def IsSpeak (v : Json) : Prop :=
  headerField NAMESPACE v = some SPEECH_SYNTHESIZER ∧ headerField NAME v = some SPEAK

/-! ### What `receive` does -/

/-- The message is forwarded: once to the manager's own object, and once to
`avs_server_msg` with all its characters and its exact length. -/
def Forwards (self : ThunderInputManager) (message : Text) : Prop :=
  self.receive message
    = ({ self with vta := self.vta.call (.curlCmdSendOnRcvMsg message) },
        some { message := message, length := message.length })

/-- Nothing happens. -/
def Ignores (self : ThunderInputManager) (message : Text) : Prop :=
  self.receive message = (self, none)

/-- A JSON text holds the searched text exactly when it has two neighbouring members that
are written like it. -/
theorem contains_document (d : Document) :
    ThunderInputManager.contains d.text ThunderInputManager.speakKey
      = d.value.neighbours.any speakPair := by
  rw [speakKey_eq]
  exact occurs_pairText (by decide) (by decide) (by decide) (by decide)
    (prefixOf_n (by decide) _) d

section
variable {self : ThunderInputManager} {d : Document}

/-- What `receive` does with any JSON text while the flag is not zero. -/
theorem receive_document (hflag : self.vtaFlag ≠ 0) (d : Document) :
    self.receive d.text
      = if d.value.neighbours.any speakPair = true then
          ({ self with vta := self.vta.call (.curlCmdSendOnRcvMsg d.text) },
            some { message := d.text, length := d.text.length })
        else (self, none) := by
  rw [ThunderInputManager.receive, if_neg hflag, contains_document]

/-- A text with two neighbours that are written like the searched text is forwarded. -/
theorem forwards_of_speakPair (hflag : self.vtaFlag ≠ 0)
    (h : d.value.neighbours.any speakPair = true) : Forwards self d.text := by
  rw [Forwards, receive_document hflag, if_pos h]

/-- Any other text is ignored. -/
theorem ignores_of_no_speakPair (hflag : self.vtaFlag ≠ 0)
    (h : d.value.neighbours.any speakPair = false) : Ignores self d.text := by
  rw [Ignores, receive_document hflag, h]
  rfl

/-- Nothing is forwarded when nothing happens. -/
theorem not_forwards_of_ignores {message : Text} (h : Ignores self message) :
    ¬ Forwards self message := by
  intro hforwards
  have hsent := congrArg Prod.snd (hforwards.symm.trans h)
  cases hsent

end

/-! ### Headers in the one spelling -/

/-- The members `m` and `n` are the namespace and the name of the header. They follow one
another, and they are strings that are written without white space and without escapes. -/
structure CompactHeader (v : Json) (m n : Member Json) : Prop where
  header : ∃ pad before rest, headerOf v = some (.object pad (before ++ m :: n :: rest)) ∧
    ((before ++ m :: n :: rest).map fun member => decodeString member.key).Nodup
  namespaceKey : body m.key = NAMESPACE
  nameKey : body n.key = NAME
  layout : m.afterKey = [] ∧ m.beforeValue = [] ∧ m.after = [] ∧ n.before = [] ∧
    n.afterKey = [] ∧ n.beforeValue = []
  values : ∃ s t, m.value = .string s ∧ n.value = .string t ∧ Clean (body s) ∧ Clean (body t)

section
variable {v : Json} {m n : Member Json}

/-- The members of such a header are neighbours of the whole text. -/
theorem CompactHeader.mem_neighbours (h : CompactHeader v m n) : (m, n) ∈ v.neighbours := by
  obtain ⟨pad, before, rest, hheader, -⟩ := h.header
  obtain ⟨directive, hdirective, hget⟩ := Option.bind_eq_some_iff.mp hheader
  exact Json.neighbours_of_get hdirective
    (Json.neighbours_of_get hget (Json.mem_neighbours pad before rest m n))

/-- A string in such a header is found under its name, and it stands for its own text. -/
theorem headerField_of_mem {pad : Layout} {members : List (Member Json)} {name : Text}
    {s : Spelling} (hheader : headerOf v = some (.object pad members))
    (hdistinct : (members.map fun member => decodeString member.key).Nodup)
    (hm : m ∈ members) (hkey : body m.key = name) (hname : Clean name)
    (hvalue : m.value = .string s) (hs : Clean (body s)) :
    headerField name v = some (body s) := by
  have hdecode : decodeString m.key = name := by
    rw [decodeString_of_clean (hkey ▸ hname), hkey]
  rw [headerField, hheader, Option.bind_some, Json.get_of_mem hdistinct hm hdecode,
    Option.bind_some, hvalue]
  exact congrArg some (decodeString_of_clean hs)

/-- Such a header is the one of a `Speak` directive exactly when its members are written like
the searched text. -/
theorem CompactHeader.isSpeak_iff (h : CompactHeader v m n) :
    IsSpeak v ↔ speakPair (m, n) = true := by
  obtain ⟨pad, before, rest, hheader, hdistinct⟩ := h.header
  obtain ⟨s, t, hs, ht, hclean, hclean'⟩ := h.values
  obtain ⟨h1, h2, h3, h4, h5, h6⟩ := h.layout
  have hnamespace := headerField_of_mem hheader hdistinct (by simp) h.namespaceKey (by decide)
    hs hclean
  have hname := headerField_of_mem hheader hdistinct (by simp) h.nameKey (by decide) ht hclean'
  rw [IsSpeak, hnamespace, hname, Option.some.injEq, Option.some.injEq]
  simp [speakPair, compactPair, isPair, firstOfPair, secondOfPair, keySpelled, Json.spells,
    h.namespaceKey, h.nameKey, h1, h2, h3, h4, h5, h6, hs, ht]

end

/-- For every JSON text, while the flag is not zero: the message is forwarded exactly when
two neighbouring members of some object are written like the searched text, and else nothing
happens. A `Speak` directive with a header in the one spelling is forwarded. And when no
other neighbours are written like the text, what is forwarded is a `Speak` directive. -/
theorem receive_directive_iff (self : ThunderInputManager) (hflag : self.vtaFlag ≠ 0)
    (d : Document) :
    (Forwards self d.text ↔ ∃ p ∈ d.value.neighbours, speakPair p = true) ∧
    (¬ Forwards self d.text → Ignores self d.text) ∧
    (∀ m n, CompactHeader d.value m n → IsSpeak d.value → Forwards self d.text) ∧
    ((∀ p ∈ d.value.neighbours, speakPair p = true → CompactHeader d.value p.1 p.2) →
      Forwards self d.text → IsSpeak d.value) := by
  -- The search finds its text exactly at a pair of neighbours that is written like it.
  have hiff : Forwards self d.text ↔ ∃ p ∈ d.value.neighbours, speakPair p = true := by
    rw [← List.any_eq_true]
    constructor
    · intro hforwards
      by_contra hnone
      have hignores := ignores_of_no_speakPair hflag (Bool.not_eq_true _ |>.mp hnone)
      exact not_forwards_of_ignores hignores hforwards
    · exact forwards_of_speakPair hflag
  refine ⟨hiff, ?_, ?_, ?_⟩
  · intro hnot
    have hnone : ¬ d.value.neighbours.any speakPair = true := by
      intro hpair
      exact hnot (forwards_of_speakPair hflag hpair)
    exact ignores_of_no_speakPair hflag (Bool.not_eq_true _ |>.mp hnone)
  · intro m n hheader hspeak
    -- The members of a compact header are neighbours.
    exact hiff.mpr ⟨(m, n), hheader.mem_neighbours, hheader.isSpeak_iff.mp hspeak⟩
  · intro honly hforwards
    obtain ⟨p, hp, hpair⟩ := hiff.mp hforwards
    exact (honly p hp hpair).isSpeak_iff.mpr hpair

/-- The spelling of a text without quotes and backslashes. -/
def spell (text : Text) : Spelling :=
  text.filterMap fun c => if h : isPlain c = true then some (.plain c h) else none

/-- A member without white space, except for `beforeValue` before its value. -/
def simpleMember (name : Text) (beforeValue : Layout) (value : Json) : Member Json where
  before := []
  key := spell name
  afterKey := []
  beforeValue := beforeValue
  value := value
  after := []

/-- An object of a namespace and a name. -/
def namesObject (beforeValue : Layout) (namesp name : Text) : Json :=
  .object [] [simpleMember NAMESPACE beforeValue (.string (spell namesp)),
    simpleMember NAME [] (.string (spell name))]

/-- A directive of a header and a payload. -/
def directiveDocument (header payload : Json) : Document where
  before := []
  value := .object [] [simpleMember DIRECTIVE [] (.object []
    [simpleMember HEADER [] header, simpleMember PAYLOAD [] payload])]
  after := []

/-- A `Speak` directive. -/
def speakDocument : Document :=
  directiveDocument (namesObject [] SPEECH_SYNTHESIZER SPEAK) (.object [] [])

/-- The same directive, with a space behind one colon. -/
def spacedDocument : Document :=
  directiveDocument (namesObject [.space] SPEECH_SYNTHESIZER SPEAK) (.object [] [])

/-- Another directive, with the two members in its payload. -/
def quotingDocument : Document :=
  directiveDocument (namesObject [] DIRECTIVE NAME) (namesObject [] SPEECH_SYNTHESIZER SPEAK)

/-- A manager whose flag is not zero. -/
def parsedManager : ThunderInputManager := .new 1

/-- The law for a `Speak` directive. -/
theorem receive_speakDocument : Forwards parsedManager speakDocument.text :=
  (receive_directive_iff parsedManager (by decide) speakDocument).1.mpr
    (List.any_eq_true.mp rfl)

/-- A `Speak` directive with a space behind a colon is not forwarded, although the same
directive without the space is. Another directive is forwarded, because its payload holds
the two members. -/
theorem search_differs_from_parse :
    (IsDirective spacedDocument.value ∧ IsSpeak spacedDocument.value ∧
      Ignores parsedManager spacedDocument.text) ∧
    (IsDirective speakDocument.value ∧ IsSpeak speakDocument.value ∧
      Forwards parsedManager speakDocument.text) ∧
    (IsDirective quotingDocument.value ∧ ¬ IsSpeak quotingDocument.value ∧
      Forwards parsedManager quotingDocument.text) := by
  have hflag : parsedManager.vtaFlag ≠ 0 := by decide
  refine ⟨⟨⟨_, rfl, rfl, rfl⟩, ⟨rfl, rfl⟩, ignores_of_no_speakPair hflag rfl⟩,
    ⟨⟨_, rfl, rfl, rfl⟩, ⟨rfl, rfl⟩, forwards_of_speakPair hflag rfl⟩,
    ⟨⟨_, rfl, rfl, rfl⟩, ?_, forwards_of_speakPair hflag rfl⟩⟩
  intro hspeak
  cases hspeak.1

end XrSpeechAvs.Proofs
