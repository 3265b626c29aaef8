import Mathlib.Data.List.Induction
import XrSpeechAvs.Lib.Simulation

/-!
# `XrSpeechAvs.Lib.History`: what depends on the events so far

A component whose answers depend on its state can be described without the state, by the
events so far. `outputs answer es` has the answers to the events `es`, where `answer past e`
is the answer to `e` behind the history `past`. `latest value start es` is the last value that
an event of `es` has brought.

Two induction rules are about a relation between histories and states. `history_run` is for the
events of the run itself, and `shown_history` for the events that a run shows.
-/

set_option autoImplicit false

namespace XrSpeechAvs.Lib

variable {σ ε δ α φ : Type*}

/-- The answers to the events `es` behind the history `past`. -/
def outputsFrom (answer : List ε → ε → List δ) (past : List ε) : List ε → List δ
  | [] => []
  | e :: es => answer past e ++ outputsFrom answer (past ++ [e]) es

/-- The answers to the events `es`. -/
def outputs (answer : List ε → ε → List δ) (es : List ε) : List δ := outputsFrom answer [] es

/-- The last value that an event has brought, or the start. -/
def latest (value : ε → Option α) (start : α) (es : List ε) : α :=
  (es.filterMap value).getLast?.getD start

/-- The answer to the last event comes last. -/
theorem outputsFrom_concat (answer : List ε → ε → List δ) (past es : List ε) (e : ε) :
    outputsFrom answer past (es ++ [e])
      = outputsFrom answer past es ++ answer (past ++ es) e := by
  induction es generalizing past with
  | nil => simp [outputsFrom]
  | cons e' es ih =>
    show answer past e' ++ outputsFrom answer (past ++ [e']) (es ++ [e]) = _
    rw [ih, List.append_assoc past, List.singleton_append, ← List.append_assoc]
    rfl

/-- The answer to the last event comes last. -/
@[simp] theorem outputs_concat (answer : List ε → ε → List δ) (es : List ε) (e : ε) :
    outputs answer (es ++ [e]) = outputs answer es ++ answer es e :=
  outputsFrom_concat answer [] es e

/-- The last event brings a value, or the one before it stays. -/
@[simp] theorem latest_concat (value : ε → Option α) (start : α) (es : List ε) (e : ε) :
    latest value start (es ++ [e]) = (value e).getD (latest value start es) := by
  unfold latest
  rw [List.filterMap_append]
  cases h : value e with
  | none => simp [h]
  | some a => simp [h]

/-- The start is the last value while no event brings one. -/
theorem latest_of_none {value : ε → Option α} (start : α) {es : List ε}
    (h : ∀ e ∈ es, value e = none) : latest value start es = start := by
  unfold latest
  rw [List.filterMap_eq_nil_iff.mpr h]
  rfl

/-- The induction over histories. A relation between histories and states that holds at the
start, and that every step keeps, holds at the end of every run. -/
theorem history_run {step : σ → ε → σ} {P : List ε → σ → Prop} {s : σ} (h0 : P [] s)
    (hstep : ∀ past t e, P past t → P (past ++ [e]) (step t e)) (es : List ε) :
    P es (run step s es) := by
  induction es using List.reverseRecOn with
  | nil => exact h0
  | append_singleton es e ih =>
    rw [run_concat]
    exact hstep es _ e ih

/-- The induction over shown events. A relation between histories and states that every step
meeting `C` extends by its events holds at the end of a run of such steps. -/
theorem shown_history {step : σ → ε → Except φ σ} {events : σ → ε → List δ} {C : σ → ε → Prop}
    {P : List δ → σ → Prop}
    (hstep : ∀ past s e t, P past s → C s e → step s e = .ok t → P (past ++ events s e) t)
    {past : List δ} {s t : σ} {es : List ε} (h0 : P past s) (hC : TryEachStep step C s es)
    (ht : tryRun step s es = .ok t) : P (past ++ shown step events s es) t := by
  induction es generalizing past s with
  | nil =>
    obtain rfl : s = t := Except.ok.inj ht
    rw [shown_nil, List.append_nil]
    exact h0
  | cons e es ih =>
    obtain ⟨m, hm, hrest⟩ := tryRun_cons_ok.mp ht
    obtain ⟨hCe, hCes⟩ := (tryEachStep_cons hm).mp hC
    rw [shown_cons_ok hm, ← List.append_assoc]
    exact ih (hstep past s e m h0 hCe hm) hCes hrest

end XrSpeechAvs.Lib
