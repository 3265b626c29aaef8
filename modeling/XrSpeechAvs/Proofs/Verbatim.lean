import XrSpeechAvs.Impl.ThunderLogger

/-!
# `XrSpeechAvs.Proofs.Verbatim`: what `ThunderLogger` writes

`Trace` and `PrettyTrace` pass their text as the argument of a `%s`, so every text is
written as it is. `Log` and `emit` pass it as the format. There a `%` begins a directive: a
`%%` loses one of its characters, and any other directive takes an argument that was not
passed.

* `apply_eq` says what one call adds to the log.
* `entries_verbatim_iff` is the law for one call.
* `log_verbatim_iff` is the law for the log of a whole run.
* `percent_is_interpreted` is a text of each kind against it.
-/

set_option autoImplicit false

namespace XrSpeechAvs.Proofs

open XrSpeechAvs.Impl
open XrSpeechAvs.Lib

section
variable {Level : Type} (convertLevelToChar : Level → Char)

/-- The line of `emit`: `[m] L t`. -/
def emitLine (level : Level) (threadMoniker text : Text) : Text :=
  ['['] ++ threadMoniker ++ [']', ' ', convertLevelToChar level, ' '] ++ text

/-- The entries that a call is meant to write. -/
def expectedEntries : LogCall Level → List Text
  | .trace stringToPrint => [ThunderLogger.TRACE_PREFIX ++ stringToPrint]
  | .prettyTrace stringToPrint => [ThunderLogger.TRACE_PREFIX ++ stringToPrint]
  | .prettyTraceLines lines => lines.map (ThunderLogger.TRACE_PREFIX ++ ·)
  | .log stringToPrint => [stringToPrint]
  | .logLines lines => lines
  | .emit level threadMoniker text => [emitLine convertLevelToChar level threadMoniker text]

/-- The lines that a call hands on, one for each entry. -/
def linesOf : LogCall Level → List Text
  | .trace stringToPrint => [stringToPrint]
  | .prettyTrace stringToPrint => [stringToPrint]
  | .prettyTraceLines lines => lines
  | .log stringToPrint => [stringToPrint]
  | .logLines lines => lines
  | .emit level threadMoniker text =>
    [emitLine convertLevelToChar level (cStr threadMoniker) (cStr text)]

/-- How a call prints one of its lines: as an argument, or as the format. -/
def printLine : LogCall Level → Text → Except FormatFault Text
  | .trace _ | .prettyTrace _ | .prettyTraceLines _ => fun line =>
    printf (ThunderLogger.TRACE_PREFIX ++ ['%', 's']) [line]
  | .log _ | .logLines _ | .emit .. => fun line => printf line []

/-- A single write is a loop over one line. -/
theorem write_eq (log : LogEntries) (entry : Text → Except FormatFault Text) (line : Text) :
    (fun e => log ++ [e]) <$> entry line
      = (fun added => log ++ added) <$> [line].mapM entry := by
  rw [List.mapM_cons]
  cases entry line <;> rfl

/-- A call adds its printed lines to the log. -/
theorem apply_eq (log : LogEntries) (call : LogCall Level) :
    call.apply convertLevelToChar log = (fun added => log ++ added) <$>
      (linesOf convertLevelToChar call).mapM (printLine call) := by
  cases call with
  | trace stringToPrint => exact write_eq log (printLine (.trace stringToPrint)) _
  | prettyTrace stringToPrint => exact write_eq log (printLine (.prettyTrace stringToPrint)) _
  | prettyTraceLines lines => exact foldlM_concat (fun _ _ => rfl) log lines
  | log stringToPrint => exact write_eq log (printLine (.log stringToPrint)) _
  | logLines lines => exact foldlM_concat (fun _ _ => rfl) log lines
  | emit level threadMoniker text =>
    exact write_eq log (printLine (.emit level threadMoniker text)) _

/-- The texts that a call is given. -/
def textsOf : LogCall Level → List Text
  | .trace stringToPrint => [stringToPrint]
  | .prettyTrace stringToPrint => [stringToPrint]
  | .prettyTraceLines lines => lines
  | .log stringToPrint => [stringToPrint]
  | .logLines lines => lines
  | .emit _ threadMoniker text => [threadMoniker, text]

/-- The texts of a call that end in a format. -/
def formatTextsOf : LogCall Level → List Text
  | .trace _ | .prettyTrace _ | .prettyTraceLines _ => []
  | .log stringToPrint => [stringToPrint]
  | .logLines lines => lines
  | .emit _ threadMoniker text => [threadMoniker, text]

/-- No text of the call has a NUL. -/
def NulFree (call : LogCall Level) : Prop := ∀ text ∈ textsOf call, NUL ∉ text

/-- No text that ends in a format has a `%`. -/
def PercentFree (call : LogCall Level) : Prop := ∀ text ∈ formatTextsOf call, '%' ∉ text

instance (call : LogCall Level) : Decidable (NulFree call) :=
  inferInstanceAs (Decidable (∀ text ∈ textsOf call, NUL ∉ text))

instance (call : LogCall Level) : Decidable (PercentFree call) :=
  inferInstanceAs (Decidable (∀ text ∈ formatTextsOf call, '%' ∉ text))

/-- Texts behind a `%s` are written verbatim, after the prefix. -/
theorem trace_verbatim {lines : List Text} (h : ∀ line ∈ lines, NUL ∉ line) :
    (lines.mapM fun line => printf (ThunderLogger.TRACE_PREFIX ++ ['%', 's']) [line])
      = .ok (lines.map (ThunderLogger.TRACE_PREFIX ++ ·)) := by
  rw [mapM_eq_ok, List.forall₂_map_right_iff, List.forall₂_same]
  intro line hline
  rw [printf_string (by decide) (by decide), cStr_of_nulFree (h line hline)]

/-- Texts as formats are written verbatim exactly when none of them has a `%`. -/
theorem format_verbatim_iff {lines : List Text} (h : ∀ line ∈ lines, NUL ∉ line) :
    (lines.mapM fun line => printf line []) = .ok lines ↔ ∀ line ∈ lines, '%' ∉ line := by
  rw [mapM_eq_ok, List.forall₂_same]
  constructor
  · intro hself line hline
    exact (printf_eq_self_iff (h line hline)).mp (hself line hline)
  · intro hplain line hline
    exact (printf_eq_self_iff (h line hline)).mpr (hplain line hline)

variable {convertLevelToChar}

/-- A character that is none of the fixed ones of `emit` comes from the moniker or from the
text. -/
theorem mem_emitLine_iff {level : Level} {threadMoniker text : Text} {c : Char}
    (hlevel : convertLevelToChar level ≠ c) (hfixed : c ∉ ['[', ']', ' ']) :
    c ∈ emitLine convertLevelToChar level threadMoniker text
      ↔ c ∈ threadMoniker ∨ c ∈ text := by
  simp only [List.mem_cons, List.not_mem_nil, or_false, not_or] at hfixed
  simp [emitLine, hfixed, hlevel.symm]

/-- One call writes exactly what it is meant to write if and only if no text that ends in a
format has a `%`. -/
theorem entries_verbatim_iff
    (hlevel : ∀ level, convertLevelToChar level ≠ '%' ∧ convertLevelToChar level ≠ NUL)
    (call : LogCall Level) (hnul : NulFree call) :
    (linesOf convertLevelToChar call).mapM (printLine call)
        = .ok (expectedEntries convertLevelToChar call) ↔ PercentFree call := by
  cases call with
  | trace stringToPrint =>
    exact ⟨fun _ _ h => absurd h List.not_mem_nil, fun _ => trace_verbatim hnul⟩
  | prettyTrace stringToPrint =>
    exact ⟨fun _ _ h => absurd h List.not_mem_nil, fun _ => trace_verbatim hnul⟩
  | prettyTraceLines lines =>
    exact ⟨fun _ _ h => absurd h List.not_mem_nil, fun _ => trace_verbatim hnul⟩
  -- `Log` gives the text to `printf` as the format.
  | log stringToPrint => exact format_verbatim_iff hnul
  | logLines lines => exact format_verbatim_iff hnul
  | emit level threadMoniker text =>
    -- `emit` makes its format from the level, the moniker and the text.
    have hmoniker : NUL ∉ threadMoniker := hnul threadMoniker (by simp [textsOf])
    have htext : NUL ∉ text := hnul text (by simp [textsOf])
    have hline : NUL ∉ emitLine convertLevelToChar level threadMoniker text := by
      rw [mem_emitLine_iff (hlevel level).2 (by decide), not_or]
      exact ⟨hmoniker, htext⟩
    show (([emitLine convertLevelToChar level (cStr threadMoniker) (cStr text)].mapM fun line =>
      printf line []) = .ok _) ↔ _
    rw [cStr_of_nulFree hmoniker, cStr_of_nulFree htext]
    refine (format_verbatim_iff (by simpa using hline)).trans ?_
    rw [List.forall_mem_singleton, mem_emitLine_iff (hlevel level).1 (by decide), not_or]
    simp [PercentFree, formatTextsOf]

/-- A call writes as many entries as it is meant to write, whatever they say. -/
theorem length_of_entries {call : LogCall Level} {added : List Text}
    (h : (linesOf convertLevelToChar call).mapM (printLine call) = .ok added) :
    added.length = (expectedEntries convertLevelToChar call).length := by
  rw [← (mapM_eq_ok.mp h).length_eq]
  cases call <;> simp [linesOf, expectedEntries]

/-- A run only adds to the log. -/
theorem run_adds {log out : LogEntries} {calls : List (LogCall Level)}
    (h : tryRun (LogCall.apply convertLevelToChar) log calls = .ok out) :
    ∃ added, out = log ++ added := by
  induction calls generalizing log with
  | nil => exact ⟨[], by rw [List.append_nil]; exact (Except.ok.inj h).symm⟩
  | cons call calls ih =>
    obtain ⟨m, hm, hrest⟩ := tryRun_cons_ok.mp h
    rw [apply_eq] at hm
    obtain ⟨first, -, rfl⟩ := map_eq_ok.mp hm
    obtain ⟨more, rfl⟩ := ih hrest
    exact ⟨first ++ more, List.append_assoc ..⟩

/-- Every run of calls, with any texts without a NUL: the log holds exactly the entries that
the calls are meant to write, in order, if and only if no text that is given to `Log` or to
`emit` has a `%`. -/
theorem log_verbatim_iff
    (hlevel : ∀ level, convertLevelToChar level ≠ '%' ∧ convertLevelToChar level ≠ NUL)
    (log : LogEntries) (calls : List (LogCall Level)) (hnul : ∀ call ∈ calls, NulFree call) :
    tryRun (LogCall.apply convertLevelToChar) log calls
        = .ok (log ++ calls.flatMap (expectedEntries convertLevelToChar))
      ↔ ∀ call ∈ calls, PercentFree call := by
  induction calls generalizing log with
  | nil =>
    rw [List.flatMap_nil, List.append_nil]
    exact ⟨fun _ _ h => absurd h List.not_mem_nil, fun _ => rfl⟩
  | cons call calls ih =>
    have hcall := entries_verbatim_iff hlevel call (hnul call (by simp))
    have htail := fun m => ih m fun c hc => hnul c (by simp [hc])
    rw [List.forall_mem_cons, List.flatMap_cons, ← hcall, tryRun_cons_ok]
    constructor
    · rintro ⟨m, hm, hrest⟩
      rw [apply_eq] at hm
      obtain ⟨first, hfirst, rfl⟩ := map_eq_ok.mp hm
      obtain ⟨more, hmore⟩ := run_adds hrest
      -- The first call has written as many entries as meant, so they are the meant ones.
      rw [List.append_assoc, List.append_right_inj] at hmore
      obtain ⟨rfl, -⟩ := List.append_inj hmore (length_of_entries hfirst).symm
      rw [← List.append_assoc] at hrest
      exact ⟨hfirst, (htail _).mp hrest⟩
    · rintro ⟨hfirst, hrest⟩
      refine ⟨log ++ expectedEntries convertLevelToChar call, ?_, ?_⟩
      · rw [apply_eq, hfirst]
        rfl
      · rw [← List.append_assoc]
        exact (htail _).mpr hrest

end

/-- The law for a trace with a `%`, and a line of `emit` without one. -/
theorem log_verbatim_trace_and_line :
    tryRun (LogCall.apply fun _ : Unit => 'I') []
        [.trace ['5', '%'], .emit () ['1'] ['o', 'k']]
      = .ok [ThunderLogger.TRACE_PREFIX ++ ['5', '%'],
          ['[', '1', ']', ' ', 'I', ' ', 'o', 'k']] :=
  (log_verbatim_iff (fun _ => by decide) [] _ (by decide)).mpr (by decide)

/-- `Log` writes one `%` of two, and it reads an argument that was not passed for a `%s`. A
line of `emit` that ends in a `%` is no format at all. The sibling `Trace` writes the `%s`
as it is. -/
theorem percent_is_interpreted :
    ThunderLogger.log [] ['%', '%'] = .ok [['%']] ∧
    ThunderLogger.log [] ['%', '%'] ≠ .ok [['%', '%']] ∧
    ThunderLogger.log [] ['%', 's'] = .error .missingArgument ∧
    ThunderLogger.logLines [] [['o', 'k'], ['%', 's']] = .error .missingArgument ∧
    ThunderLogger.emit (fun _ : Unit => 'I') [] () ['1'] ['5', '%']
      = .error .invalidConversion ∧
    ThunderLogger.trace [] ['%', 's'] = .ok [ThunderLogger.TRACE_PREFIX ++ ['%', 's']] := by
  refine ⟨rfl, ?_, rfl, rfl, rfl, rfl⟩
  intro h
  exact absurd (Except.ok.inj h) (by decide)

end XrSpeechAvs.Proofs
