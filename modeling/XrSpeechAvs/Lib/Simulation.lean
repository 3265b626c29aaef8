import XrSpeechAvs.Lib.Run

/-!
# `XrSpeechAvs.Lib.Simulation`: two systems side by side

A system is a step function that can fail, as in `XrSpeechAvs.Lib.Run`. Two systems are
compared in two ways.

* *Forward simulation.* Each step of the first system stands for a list of events of the
  second one, its *events*. `Simulates` says that every step that succeeds is matched by its
  events, and `Simulates.tryRun` lifts this to runs: a run that succeeds is matched by the
  events that it shows (`shown`).
* *Lockstep.* `tryRun_map` is about a map of the states that turns each step of the first
  system into one step of the second one, with the same failures. Then it turns runs into
  runs.
-/

set_option autoImplicit false

namespace XrSpeechAvs.Lib

variable {σ τ ε δ φ ψ : Type*}

/-! ### Runs that can fail -/

section
variable {step : σ → ε → Except φ σ}

/-- The empty run succeeds at its start. -/
@[simp] theorem tryRun_nil (s : σ) : tryRun step s [] = .ok s := rfl

/-- A run is its first step and the run of its tail. -/
theorem tryRun_cons (s : σ) (e : ε) (es : List ε) :
    tryRun step s (e :: es) = (step s e).bind fun t => tryRun step t es := by
  cases h : step s e with
  | error f =>
    show run (onResult step) (step s e) es = .error f
    rw [h, run_onResult_error]
  | ok t =>
    show run (onResult step) (step s e) es = tryRun step t es
    rw [h]
    rfl

/-- A run of two parts succeeds when the first part does, and then the second one. -/
theorem tryRun_append_ok {s t : σ} {es fs : List ε} :
    tryRun step s (es ++ fs) = .ok t ↔
      ∃ m, tryRun step s es = .ok m ∧ tryRun step m fs = .ok t := by
  induction es generalizing s with
  | nil =>
    constructor
    · intro h
      exact ⟨s, rfl, h⟩
    · rintro ⟨m, hm, h⟩
      obtain rfl : s = m := Except.ok.inj hm
      exact h
  | cons e es ih =>
    -- The first event is in the first part.
    rw [List.cons_append, tryRun_cons_ok]
    constructor
    · rintro ⟨n, hn, h⟩
      obtain ⟨m, hm, hrest⟩ := ih.mp h
      exact ⟨m, tryRun_cons_ok.mpr ⟨n, hn, hm⟩, hrest⟩
    · rintro ⟨m, hm, hrest⟩
      obtain ⟨n, hn, h⟩ := tryRun_cons_ok.mp hm
      exact ⟨n, hn, ih.mpr ⟨m, h, hrest⟩⟩

/-- The invariant rule under a condition on the steps: what every successful step that meets `C`
keeps holds at the end of a successful run of such steps. -/
theorem tryRun_invariant_of {I : σ → Prop} {C : σ → ε → Prop}
    (hI : ∀ s e t, I s → C s e → step s e = .ok t → I t) {s t : σ} {es : List ε} (h0 : I s)
    (hC : TryEachStep step C s es) (h : tryRun step s es = .ok t) : I t := by
  induction es generalizing s with
  | nil =>
    obtain rfl : s = t := Except.ok.inj h
    exact h0
  | cons e es ih =>
    obtain ⟨m, hm, hrest⟩ := tryRun_cons_ok.mp h
    obtain ⟨hCe, hCes⟩ := (tryEachStep_cons hm).mp hC
    exact ih (hI s e m h0 hCe hm) hCes hrest

/-- A condition on the events alone is met by every step of a run of such events. -/
theorem tryEachStep_of_forall_mem {D : ε → Prop} {s : σ} {es : List ε} (h : ∀ e ∈ es, D e) :
    TryEachStep step (fun _ e => D e) s es := by
  intro p e hp
  have he : D e := h e (hp.subset (by simp))
  cases run (onResult step) (.ok s) p with
  | ok t => exact he
  | error f => trivial

/-- The invariant rule: what every successful step keeps holds at the end of a successful
run. -/
theorem tryRun_invariant {I : σ → Prop} (hI : ∀ s e t, I s → step s e = .ok t → I t)
    {s t : σ} {es : List ε} (h0 : I s) (h : tryRun step s es = .ok t) : I t :=
  tryRun_invariant_of (C := fun _ _ => True) (fun s e t hs _ ht => hI s e t hs ht) h0
    (tryEachStep_of_forall_mem fun _ _ => trivial) h

/-- A step that never fails makes a run that never fails. -/
theorem tryRun_total (step : σ → ε → σ) (s : σ) (es : List ε) :
    tryRun (fun s e => (.ok (step s e) : Except φ σ)) s es = .ok (run step s es) := by
  induction es generalizing s with
  | nil => rfl
  | cons e es ih => exact tryRun_cons_ok.mpr ⟨step s e, rfl, ih (step s e)⟩

end

/-! ### Forward simulation -/

/-- The events that a run shows: those of each step, at the state before it. A step that
fails shows nothing, and it ends the run. -/
def shown (step : σ → ε → Except φ σ) (events : σ → ε → List δ) (s : σ) : List ε → List δ
  | [] => []
  | e :: es =>
    match step s e with
    | .ok t => events s e ++ shown step events t es
    | .error _ => []

section
variable {step : σ → ε → Except φ σ} {astep : τ → δ → Except ψ τ} {events : σ → ε → List δ}

/-- The empty run shows nothing. -/
@[simp] theorem shown_nil (s : σ) : shown step events s [] = [] := rfl

/-- The events of a run that starts with a successful step. -/
theorem shown_cons_ok {s t : σ} {e : ε} (h : step s e = .ok t) (es : List ε) :
    shown step events s (e :: es) = events s e ++ shown step events t es := by
  simp only [shown, h]

/-- Over a run that succeeds, events that do not depend on the state come one step after
another. -/
theorem shown_of_ok {s t : σ} {es : List ε} (events : ε → List δ)
    (h : tryRun step s es = .ok t) : shown step (fun _ e => events e) s es = es.flatMap events := by
  induction es generalizing s with
  | nil => rfl
  | cons e es ih =>
    obtain ⟨m, hm, hrest⟩ := tryRun_cons_ok.mp h
    rw [shown_cons_ok hm, ih hrest, List.flatMap_cons]

/-- Every step that meets `C` and succeeds is matched by its events: they succeed too, and
they lead to a related state. -/
def Simulates (step : σ → ε → Except φ σ) (astep : τ → δ → Except ψ τ)
    (events : σ → ε → List δ) (C : σ → ε → Prop) (R : σ → τ → Prop) : Prop :=
  ∀ s a e t, R s a → C s e → step s e = .ok t →
    ∃ b, tryRun astep a (events s e) = .ok b ∧ R t b

/-- The simulation rule: a run that succeeds, and whose steps meet `C`, is matched by the
events that it shows. -/
theorem Simulates.tryRun {C : σ → ε → Prop} {R : σ → τ → Prop}
    (h : Simulates step astep events C R) {s t : σ} {a : τ} {es : List ε} (hR : R s a)
    (hC : TryEachStep step C s es) (ht : Lib.tryRun step s es = .ok t) :
    ∃ b, Lib.tryRun astep a (shown step events s es) = .ok b ∧ R t b := by
  induction es generalizing s a with
  | nil =>
    obtain rfl : s = t := Except.ok.inj ht
    exact ⟨a, rfl, hR⟩
  | cons e es ih =>
    obtain ⟨m, hm, hrest⟩ := tryRun_cons_ok.mp ht
    obtain ⟨hCe, hCes⟩ := (tryEachStep_cons hm).mp hC
    -- The first step is matched by its own events, and the tail by those behind them.
    obtain ⟨c, hc, hRm⟩ := h s a e m hR hCe hm
    obtain ⟨b, hb, hRt⟩ := ih hRm hCes hrest
    refine ⟨b, ?_, hRt⟩
    rw [shown_cons_ok hm]
    exact tryRun_append_ok.mpr ⟨c, hc, hb⟩

end

/-! ### Lockstep -/

/-- A map of the states that turns every step into one step of another system, with the
same failures, turns runs into runs. `I` is an invariant of the first system. -/
theorem tryRun_map {step : σ → ε → Except φ σ} {part : τ → δ → Except φ τ} {I : σ → Prop}
    (proj : σ → τ) (event : ε → δ) (hI : ∀ s e t, I s → step s e = .ok t → I t)
    (h : ∀ s e, I s → (step s e).map proj = part (proj s) (event e)) {s : σ} (h0 : I s)
    (es : List ε) : (tryRun step s es).map proj = tryRun part (proj s) (es.map event) := by
  induction es generalizing s with
  | nil => rfl
  | cons e es ih =>
    have hstep := h s e h0
    rw [List.map_cons, tryRun_cons, tryRun_cons, ← hstep]
    cases ht : step s e with
    | error f => rfl
    | ok t => exact ih (hI s e t h0 ht)

end XrSpeechAvs.Lib
