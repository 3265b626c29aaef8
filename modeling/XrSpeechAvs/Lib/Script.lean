import Mathlib.Data.List.Basic

/-!
# `XrSpeechAvs.Lib.Script`: scripts that return early or fault

A `Script` is a piece of straight-line code over a state: it changes the state, it can
return early with a result, and it can fault. Early returns and faults keep the state as it
is at that moment, so what was assigned before stays assigned.

What decides how a script leaves is its list of *guards*, in program order. A `check` that
fails returns, and a `need` that fails faults. `verdict` reads the first failing guard off
such a list. `leaves_seq` and `exit_seq` put two parts together: the guard lists append,
and the second part runs only when the guards of the first one pass.

Three predicates speak about the state. `Keeps` says that a script leaves a part of it alone,
`Logs` says which lists it adds to, as a list of *lines*, and `Projects` says that it does to
a part of the state what another script does. Each has one rule for each way to build a
script.
-/

set_option autoImplicit false

namespace XrSpeechAvs.Lib

variable {σ ρ φ α β : Type}

/-- How a script leaves: it goes on with a value, it returns, or it faults. -/
inductive Leaves (ρ φ α : Type) where
  | next (a : α)
  | ret (r : ρ)
  | fault (f : φ)
  deriving DecidableEq, Repr

/-- Straight-line code over the state `σ`. -/
def Script (σ ρ φ α : Type) := σ → Leaves ρ φ α × σ

namespace Script

/-- The code after `m` runs only when `m` goes on. -/
def andThen (m : Script σ ρ φ α) (f : α → Script σ ρ φ β) : Script σ ρ φ β := fun s =>
  match m s with
  | (.next a, t) => f a t
  | (.ret r, t) => (.ret r, t)
  | (.fault e, t) => (.fault e, t)

instance : Monad (Script σ ρ φ) where
  pure a := fun s => (.next a, s)
  bind := andThen

/-- Assignments to the state. -/
def modify (g : σ → σ) : Script σ ρ φ Unit := fun s => (.next (), g s)

/-- Leave with the result `r`. -/
def ret (r : ρ) : Script σ ρ φ α := fun s => (.ret r, s)

/-- Return `r` unless `b` holds. -/
def returnUnless (b : Bool) (r : ρ) : Script σ ρ φ Unit := fun s =>
  if b then (.next (), s) else (.ret r, s)

/-- Fault with `f` unless `b` holds. -/
def need (b : Bool) (f : φ) : Script σ ρ φ Unit := fun s =>
  if b then (.next (), s) else (.fault f, s)

/-- The value of an option. Return `r` when there is none. -/
def orReturn (p : Option α) (r : ρ) : Script σ ρ φ α := fun s =>
  match p with
  | some a => (.next a, s)
  | none => (.ret r, s)

/-- Run a script that is chosen by the current state. -/
def withState (f : σ → Script σ ρ φ α) : Script σ ρ φ α := fun s => f s s

/-- An assignment, and then the rest. -/
@[simp] theorem bind_modify (g : σ → σ) (f : Unit → Script σ ρ φ β) (s : σ) :
    (modify g >>= f) s = f () (g s) := rfl

/-- Sequencing is associative. -/
theorem bind_assoc {γ : Type} (m : Script σ ρ φ α) (f : α → Script σ ρ φ β)
    (g : β → Script σ ρ φ γ) : (m >>= f) >>= g = m >>= fun a => f a >>= g := by
  funext s
  show andThen (andThen m f) g s = andThen m (fun a => andThen (f a) g) s
  simp only [andThen]
  rcases m s with ⟨_ | _ | _, t⟩ <;> rfl

/-- The second part runs when the first one goes on. -/
theorem bind_of_next {m : Script σ ρ φ α} {s : σ} {a : α} (f : α → Script σ ρ φ β)
    (h : (m s).1 = .next a) : (m >>= f) s = f a (m s).2 := by
  show andThen m f s = _
  unfold andThen
  rcases hm : m s with ⟨_ | _ | _, t⟩ <;> rw [hm] at h <;> cases h
  rfl

/-- The second part does not run when the first one returns. -/
theorem bind_of_ret {m : Script σ ρ φ α} {s : σ} {r : ρ} (f : α → Script σ ρ φ β)
    (h : (m s).1 = .ret r) : (m >>= f) s = (.ret r, (m s).2) := by
  show andThen m f s = _
  unfold andThen
  rcases hm : m s with ⟨_ | _ | _, t⟩ <;> rw [hm] at h <;> cases h
  rfl

/-- The second part does not run when the first one faults. -/
theorem bind_of_fault {m : Script σ ρ φ α} {s : σ} {e : φ} (f : α → Script σ ρ φ β)
    (h : (m s).1 = .fault e) : (m >>= f) s = (.fault e, (m s).2) := by
  show andThen m f s = _
  unfold andThen
  rcases hm : m s with ⟨_ | _ | _, t⟩ <;> rw [hm] at h <;> cases h
  rfl

end Script

/-! ### Guards -/

/-- A test of a script: `check` returns when it fails, and `need` faults. -/
inductive Guard (ρ φ : Type) where
  | check (b : Bool) (r : ρ)
  | need (b : Bool) (f : φ)
  deriving DecidableEq, Repr

namespace Guard

/-- Whether the test holds. -/
def holds : Guard ρ φ → Bool
  | .check b _ => b
  | .need b _ => b

/-- How the script leaves at the test. -/
def outcome : Guard ρ φ → Leaves ρ φ Unit
  | .check b r => if b then .next () else .ret r
  | .need b f => if b then .next () else .fault f

end Guard

/-- Whether every guard of the list holds. -/
def passes (gs : List (Guard ρ φ)) : Bool := gs.all Guard.holds

/-- How a script with these guards leaves: the first guard that fails decides. -/
def verdict : List (Guard ρ φ) → Leaves ρ φ Unit
  | [] => .next ()
  | g :: gs => if g.holds then verdict gs else g.outcome

/-- No guard holds back. -/
@[simp] theorem passes_nil : passes ([] : List (Guard ρ φ)) = true := rfl

/-- A list of guards passes when its first guard holds and the rest passes. -/
@[simp] theorem passes_cons (g : Guard ρ φ) (gs : List (Guard ρ φ)) :
    passes (g :: gs) = (g.holds && passes gs) := rfl

/-- Two lists of guards pass when both do. -/
@[simp] theorem passes_append (gs hs : List (Guard ρ φ)) :
    passes (gs ++ hs) = (passes gs && passes hs) := List.all_append

/-- Without a guard the script goes on. -/
@[simp] theorem verdict_nil : verdict ([] : List (Guard ρ φ)) = .next () := rfl

/-- The first guard decides, or leaves it to the rest. -/
theorem verdict_cons (g : Guard ρ φ) (gs : List (Guard ρ φ)) :
    verdict (g :: gs) = if g.holds then verdict gs else g.outcome := rfl

/-- A check that fails returns. -/
@[simp] theorem verdict_check (b : Bool) (r : ρ) (gs : List (Guard ρ φ)) :
    verdict (.check b r :: gs) = if b then verdict gs else .ret r := by
  cases b <;> rfl

/-- A need that fails faults. -/
@[simp] theorem verdict_need (b : Bool) (f : φ) (gs : List (Guard ρ φ)) :
    verdict (.need b f :: gs) = if b then verdict gs else .fault f := by
  cases b <;> rfl

/-- A guard that fails does not go on. -/
theorem Guard.outcome_ne_next {g : Guard ρ φ} (h : g.holds = false) :
    g.outcome ≠ .next () := by
  cases g <;> simp_all [Guard.holds, Guard.outcome]

/-- The script goes on exactly when every guard holds. -/
theorem verdict_eq_next_iff (gs : List (Guard ρ φ)) :
    verdict gs = .next () ↔ passes gs = true := by
  induction gs with
  | nil => simp
  | cons g gs ih =>
    rw [passes_cons, verdict_cons]
    cases h : g.holds with
    | true => simp [ih]
    | false => simp [Guard.outcome_ne_next h]

/-- The guards of two parts in a row: those of the second part count when the first ones
pass. -/
theorem verdict_append (gs hs : List (Guard ρ φ)) :
    verdict (gs ++ hs) = if passes gs then verdict hs else verdict gs := by
  induction gs with
  | nil => rfl
  | cons g gs ih =>
    rw [List.cons_append, passes_cons, verdict_cons, verdict_cons]
    -- The first guard decides on its own when it fails.
    cases h : g.holds with
    | true => simp [ih]
    | false => simp

/-- Every need holds whenever the guards before it hold. -/
def FaultFree : List (Guard ρ φ) → Prop
  | [] => True
  | .check b _ :: gs => b = true → FaultFree gs
  | .need b _ :: gs => b = true ∧ FaultFree gs

/-- The needs of two parts in a row: those of the second part count when the guards of the
first one pass. -/
theorem faultFree_append (gs hs : List (Guard ρ φ)) :
    FaultFree (gs ++ hs) ↔ FaultFree gs ∧ (passes gs = true → FaultFree hs) := by
  induction gs with
  | nil => simp [FaultFree]
  | cons g gs ih =>
    cases g with
    | check b r =>
      show (b = true → FaultFree (gs ++ hs)) ↔ _
      rw [ih, passes_cons]
      cases b <;> simp [FaultFree, Guard.holds]
    | need b f =>
      show (b = true ∧ FaultFree (gs ++ hs)) ↔ _
      rw [ih, passes_cons]
      cases b <;> simp [FaultFree, Guard.holds]

/-- A script faults exactly when a need fails and the guards before it hold. -/
theorem verdict_ne_fault_iff (gs : List (Guard ρ φ)) :
    (∀ f, verdict gs ≠ .fault f) ↔ FaultFree gs := by
  induction gs with
  | nil => simp [FaultFree]
  | cons g gs ih =>
    cases g with
    | check b r =>
      rw [verdict_check]
      cases b <;> simp [FaultFree, ih]
    | need b f =>
      rw [verdict_need]
      cases b <;> simp [FaultFree, ih]

/-- Every check of the list returns `r`. -/
def ReturnsOnly (r : ρ) (gs : List (Guard ρ φ)) : Prop :=
  ∀ b r', Guard.check b r' ∈ gs → r' = r

/-- Without a guard nothing is returned. -/
@[simp] theorem returnsOnly_nil (r : ρ) : ReturnsOnly r ([] : List (Guard ρ φ)) := by
  intro b r' hmem
  cases hmem

/-- A check returns its own value. -/
@[simp] theorem returnsOnly_check (r r' : ρ) (b : Bool) (gs : List (Guard ρ φ)) :
    ReturnsOnly r (.check b r' :: gs) ↔ r' = r ∧ ReturnsOnly r gs := by
  constructor
  · intro h
    exact ⟨h b r' (List.mem_cons_self ..), fun b q hq => h b q (List.mem_cons_of_mem _ hq)⟩
  · rintro ⟨rfl, h⟩ b q hq
    rcases List.mem_cons.mp hq with heq | hq
    · exact (Guard.check.inj heq).2
    · exact h b q hq

/-- A need returns nothing. -/
@[simp] theorem returnsOnly_need (r : ρ) (b : Bool) (f : φ) (gs : List (Guard ρ φ)) :
    ReturnsOnly r (.need b f :: gs) ↔ ReturnsOnly r gs := by
  constructor
  · exact fun h b q hq => h b q (List.mem_cons_of_mem _ hq)
  · intro h b q hq
    rcases List.mem_cons.mp hq with heq | hq
    · cases heq
    · exact h b q hq

/-- The checks of two parts in a row. -/
@[simp] theorem returnsOnly_append (r : ρ) (gs hs : List (Guard ρ φ)) :
    ReturnsOnly r (gs ++ hs) ↔ ReturnsOnly r gs ∧ ReturnsOnly r hs := by
  induction gs with
  | nil => simp
  | cons g gs ih => cases g <;> simp [ih, and_assoc]

/-- A result that no check returns is not returned. -/
theorem verdict_ne_ret {r r' : ρ} {gs : List (Guard ρ φ)} (h : ReturnsOnly r gs)
    (hne : r' ≠ r) : verdict gs ≠ .ret r' := by
  induction gs with
  | nil => simp
  | cons g gs ih =>
    cases g with
    | check b q =>
      obtain ⟨hq, htail⟩ := (returnsOnly_check r q b gs).mp h
      rw [verdict_check]
      cases b with
      | true => exact ih htail
      -- The check returns, and what it returns is `r`.
      | false => exact fun heq => hne ((Leaves.ret.inj heq).symm.trans hq)
    | need b f =>
      have htail := (returnsOnly_need r b f gs).mp h
      rw [verdict_need]
      cases b with
      | true => exact ih htail
      -- A need that fails returns nothing.
      | false => exact fun heq => by cases heq

/-- No need of the list faults with `f`. -/
def NeverFaults (f : φ) (gs : List (Guard ρ φ)) : Prop := ∀ b, Guard.need b f ∉ gs

/-- Without a guard there is no fault. -/
@[simp] theorem neverFaults_nil (f : φ) : NeverFaults f ([] : List (Guard ρ φ)) := by
  intro b hmem
  cases hmem

/-- A check never faults. -/
@[simp] theorem neverFaults_check (f : φ) (b : Bool) (r : ρ) (gs : List (Guard ρ φ)) :
    NeverFaults f (.check b r :: gs) ↔ NeverFaults f gs := by
  simp [NeverFaults]

/-- A need has its own fault. -/
@[simp] theorem neverFaults_need (f f' : φ) (b : Bool) (gs : List (Guard ρ φ)) :
    NeverFaults f (.need b f' :: gs) ↔ f ≠ f' ∧ NeverFaults f gs := by
  simp only [NeverFaults, List.mem_cons, Guard.need.injEq, not_or, not_and]
  constructor
  · intro h
    exact ⟨(h b).1 rfl, fun b' => (h b').2⟩
  · intro h b'
    exact ⟨fun _ => h.1, h.2 b'⟩

/-- The needs of two parts in a row. -/
@[simp] theorem neverFaults_append (f : φ) (gs hs : List (Guard ρ φ)) :
    NeverFaults f (gs ++ hs) ↔ NeverFaults f gs ∧ NeverFaults f hs := by
  simp only [NeverFaults, List.mem_append, not_or]
  exact forall_and

/-- A fault of no need is no verdict. -/
theorem verdict_ne_fault {f : φ} {gs : List (Guard ρ φ)} (h : NeverFaults f gs) :
    verdict gs ≠ .fault f := by
  induction gs with
  | nil => simp
  | cons g gs ih =>
    cases g with
    | check b r =>
      have htail := ih ((neverFaults_check f b r gs).mp h)
      cases b <;> simp [htail]
    | need b f' =>
      obtain ⟨hne, hrest⟩ := (neverFaults_need f f' b gs).mp h
      have htail := ih hrest
      cases b <;> simp [htail, hne.symm]

/-- A need that holds more often lets a script leave in the same way, unless the fault of the
need is how it left. -/
theorem verdict_need_mono_iff {f : φ} {gs hs : List (Guard ρ φ)} (hgs : NeverFaults f gs)
    (hhs : NeverFaults f hs) (b c : Bool) :
    verdict (gs ++ .need (c || b) f :: hs) = verdict (gs ++ .need b f :: hs) ↔
      c = false ∨ verdict (gs ++ .need b f :: hs) ≠ .fault f := by
  rw [verdict_append, verdict_append, verdict_need, verdict_need]
  have hfront := verdict_ne_fault hgs
  have hback := verdict_ne_fault hhs
  by_cases hpass : passes gs = true
  · cases b <;> cases c <;> simp [hpass, hback]
  · simp [hpass, hfront]

section
variable {m n : Script σ ρ φ Unit} {s : σ} {gs hs : List (Guard ρ φ)}

/-- A part that passes its guards goes on. -/
theorem next_of_passes (hm : (m s).1 = verdict gs) (hp : passes gs = true) :
    (m s).1 = .next () := by
  rw [hm]
  exact (verdict_eq_next_iff gs).mpr hp

/-- A part that does not pass its guards leaves, and nothing after it runs. -/
theorem bind_of_not_passes (hm : (m s).1 = verdict gs) (hp : ¬ passes gs = true) :
    (m >>= fun _ => n) s = m s := by
  have hne : verdict gs ≠ .next () := fun h => hp ((verdict_eq_next_iff gs).mp h)
  cases hv : verdict gs with
  | next a => exact absurd hv hne
  | ret r =>
    rw [Script.bind_of_ret _ (hm.trans hv)]
    exact Prod.ext (hm.trans hv).symm rfl
  | fault f =>
    rw [Script.bind_of_fault _ (hm.trans hv)]
    exact Prod.ext (hm.trans hv).symm rfl

/-- The guards of a sequence of two parts are those of the first part, followed by those of
the second one. -/
theorem leaves_seq (hm : (m s).1 = verdict gs)
    (hn : passes gs = true → (n (m s).2).1 = verdict hs) :
    ((m >>= fun _ => n) s).1 = verdict (gs ++ hs) := by
  rw [verdict_append]
  -- Either the first part goes on, or it leaves for both.
  by_cases hp : passes gs = true
  · rw [if_pos hp, Script.bind_of_next _ (next_of_passes hm hp)]
    exact hn hp
  · rw [if_neg hp, bind_of_not_passes hm hp]
    exact hm

/-- The state at the exit of a sequence of two parts: the second part adds to it only when
the guards of the first one pass. -/
theorem exit_seq (hm : (m s).1 = verdict gs) :
    ((m >>= fun _ => n) s).2 = if passes gs then (n (m s).2).2 else (m s).2 := by
  by_cases hp : passes gs = true
  · rw [if_pos hp, Script.bind_of_next _ (next_of_passes hm hp)]
  · rw [if_neg hp, bind_of_not_passes hm hp]

end

/-! ### Parts of the state that a script keeps -/

/-- The script leaves the part `proj` of the state as it is, however it leaves. -/
def Keeps {τ : Type} (proj : σ → τ) (m : Script σ ρ φ α) : Prop :=
  ∀ s, proj (m s).2 = proj s

namespace Keeps

variable {τ : Type} {proj : σ → τ}

/-- A script that does nothing keeps every part. -/
theorem pure (a : α) : Keeps proj (pure a : Script σ ρ φ α) := fun _ => rfl

/-- A return keeps every part. -/
theorem ret (r : ρ) : Keeps proj (Script.ret r : Script σ ρ φ α) := fun _ => rfl

/-- A check keeps every part. -/
theorem returnUnless (b : Bool) (r : ρ) :
    Keeps proj (Script.returnUnless b r : Script σ ρ φ Unit) := by
  intro s
  cases b <;> rfl

/-- A need keeps every part. -/
theorem need (b : Bool) (f : φ) : Keeps proj (Script.need b f : Script σ ρ φ Unit) := by
  intro s
  cases b <;> rfl

/-- To take the value of an option keeps every part. -/
theorem orReturn (p : Option α) (r : ρ) :
    Keeps proj (Script.orReturn p r : Script σ ρ φ α) := by
  intro s
  cases p <;> rfl

/-- An assignment to another part. -/
theorem modify {g : σ → σ} (h : ∀ s, proj (g s) = proj s) :
    Keeps proj (Script.modify g : Script σ ρ φ Unit) := h

/-- Code that looks at the state keeps what it keeps in every state. -/
theorem withState {f : σ → Script σ ρ φ α} (h : ∀ s, Keeps proj (f s)) :
    Keeps proj (Script.withState f) := fun s => h s s

/-- What depends on a kept part alone is kept. -/
theorem comp {υ : Type} (g : τ → υ) {m : Script σ ρ φ α} (hm : Keeps proj m) :
    Keeps (fun s => g (proj s)) m := fun s => congrArg g (hm s)

/-- A sequence keeps what both of its parts keep. -/
theorem bind {m : Script σ ρ φ α} {f : α → Script σ ρ φ β} (hm : Keeps proj m)
    (hf : ∀ a, Keeps proj (f a)) : Keeps proj (m >>= f) := by
  intro s
  cases h : (m s).1 with
  | next a => rw [Script.bind_of_next f h, hf a, hm s]
  | ret r => rw [Script.bind_of_ret f h, hm s]
  | fault e => rw [Script.bind_of_fault f h, hm s]

end Keeps

/-- The second part of a sequence is not seen in what it keeps. -/
theorem proj_bind_of_keeps {τ : Type} {proj : σ → τ} {m : Script σ ρ φ α}
    {f : α → Script σ ρ φ β} (hf : ∀ a, Keeps proj (f a)) (s : σ) :
    proj ((m >>= f) s).2 = proj (m s).2 := by
  cases h : (m s).1 with
  | next a => rw [Script.bind_of_next f h, hf a]
  | ret r => rw [Script.bind_of_ret f h]
  | fault e => rw [Script.bind_of_fault f h]

/-- The script preserves the property `I` of the state, however it leaves. -/
def Preserves (I : σ → Prop) (m : Script σ ρ φ α) : Prop := ∀ s, I s → I (m s).2

namespace Preserves

variable {I : σ → Prop}

/-- A sequence preserves what both of its parts preserve. -/
theorem bind {m : Script σ ρ φ α} {f : α → Script σ ρ φ β} (hm : Preserves I m)
    (hf : ∀ a, Preserves I (f a)) : Preserves I (m >>= f) := by
  intro s hs
  cases h : (m s).1 with
  | next a =>
    rw [Script.bind_of_next f h]
    exact hf a _ (hm s hs)
  | ret r =>
    rw [Script.bind_of_ret f h]
    exact hm s hs
  | fault e =>
    rw [Script.bind_of_fault f h]
    exact hm s hs

end Preserves

/-! ### Lists that a script adds to -/

/-- One line of a script, seen from the lists that it adds to: a guard, or an addition of
`xs` to the list `k`. -/
inductive Line (ρ φ κ ω : Type) where
  | guard (g : Guard ρ φ)
  | add (k : κ) (xs : List ω)

section
variable {κ ω : Type}

/-- The guards among the lines. -/
def guards : List (Line ρ φ κ ω) → List (Guard ρ φ)
  | [] => []
  | .guard g :: ls => g :: guards ls
  | .add _ _ :: ls => guards ls

/-- What the lines add to the list `k` before the first guard that fails. -/
def added [DecidableEq κ] (k : κ) : List (Line ρ φ κ ω) → List ω
  | [] => []
  | .guard g :: ls => if g.holds then added k ls else []
  | .add k' xs :: ls => (if k' = k then xs else []) ++ added k ls

/-- The empty list has no guard. -/
@[simp] theorem guards_nil : guards ([] : List (Line ρ φ κ ω)) = [] := rfl

/-- A guard is one of the guards. -/
@[simp] theorem guards_guard (g : Guard ρ φ) (ls : List (Line ρ φ κ ω)) :
    guards (.guard g :: ls) = g :: guards ls := rfl

/-- An addition is no guard. -/
@[simp] theorem guards_add (k : κ) (xs : List ω) (ls : List (Line ρ φ κ ω)) :
    guards (.add k xs :: ls) = guards ls := rfl

/-- The guards of two parts in a row. -/
@[simp] theorem guards_append (ls ms : List (Line ρ φ κ ω)) :
    guards (ls ++ ms) = guards ls ++ guards ms := by
  induction ls with
  | nil => rfl
  | cons l ls ih => cases l <;> simp [ih]

/-- Lines that are all guards. -/
@[simp] theorem guards_map_guard (gs : List (Guard ρ φ)) :
    guards (gs.map .guard : List (Line ρ φ κ ω)) = gs := by
  induction gs with
  | nil => rfl
  | cons g gs ih => exact congrArg (g :: ·) ih

variable [DecidableEq κ]

/-- Without a line nothing is added. -/
@[simp] theorem added_nil (k : κ) : added k ([] : List (Line ρ φ κ ω)) = [] := rfl

/-- Nothing is added behind a guard that fails. -/
@[simp] theorem added_guard (k : κ) (g : Guard ρ φ) (ls : List (Line ρ φ κ ω)) :
    added k (.guard g :: ls) = if g.holds then added k ls else [] := rfl

/-- An addition counts for its own list. -/
@[simp] theorem added_add (k k' : κ) (xs : List ω) (ls : List (Line ρ φ κ ω)) :
    added k (.add k' xs :: ls) = (if k' = k then xs else []) ++ added k ls := rfl

/-- The lines of a second part add when the guards of the first part pass. -/
theorem added_append (k : κ) (ls ms : List (Line ρ φ κ ω)) :
    added k (ls ++ ms) = added k ls ++ if passes (guards ls) then added k ms else [] := by
  induction ls with
  | nil => rfl
  | cons l ls ih =>
    cases l with
    | guard g =>
      rw [List.cons_append, added_guard, added_guard, guards_guard, passes_cons, ih]
      cases g.holds <;> simp
    | add k' xs =>
      rw [List.cons_append, added_add, added_add, guards_add, ih, List.append_assoc]

/-- Lines that are all guards add nothing. -/
@[simp] theorem added_map_guard (k : κ) (gs : List (Guard ρ φ)) :
    added k (gs.map .guard : List (Line ρ φ κ ω)) = [] := by
  induction gs with
  | nil => rfl
  | cons g gs ih =>
    rw [List.map_cons, added_guard, ih, ite_self]

/-- From the state `s`, the script leaves as the guards of the lines say, and it adds to its
lists what the lines say. `part` gives the lists of a state. -/
structure Logs (part : κ → σ → List ω) (m : Script σ ρ φ Unit) (s : σ)
    (lines : List (Line ρ φ κ ω)) : Prop where
  leaves : (m s).1 = verdict (guards lines)
  adds : ∀ k, part k (m s).2 = part k s ++ added k lines

namespace Logs

variable {part : κ → σ → List ω} {m n : Script σ ρ φ Unit} {s : σ}
  {ls ms : List (Line ρ φ κ ω)}

/-- The lines of a sequence of two parts are those of the first part, followed by those of
the second one. -/
theorem seq (hm : Logs part m s ls)
    (hn : passes (guards ls) = true → Logs part n (m s).2 ms) :
    Logs part (m >>= fun _ => n) s (ls ++ ms) where
  leaves := by
    rw [guards_append]
    exact leaves_seq hm.leaves fun hp => (hn hp).leaves
  adds := by
    intro k
    rw [exit_seq hm.leaves, added_append, ← List.append_assoc, ← hm.adds k]
    by_cases hp : passes (guards ls) = true
    · rw [if_pos hp, if_pos hp]
      exact (hn hp).adds k
    · rw [if_neg hp, if_neg hp, List.append_nil]

/-- A script without a line. -/
theorem done (u : Unit) : Logs part (pure u : Script σ ρ φ Unit) s [] where
  leaves := rfl
  adds := fun _ => (List.append_nil _).symm

/-- A check at the end. -/
theorem check (b : Bool) (r : ρ) :
    Logs part (Script.returnUnless b r : Script σ ρ φ Unit) s [.guard (.check b r)] where
  leaves := by cases b <;> rfl
  adds := by
    intro k
    cases b <;> exact (List.append_nil _).symm

/-- A check, and then the rest. -/
theorem check_then {b : Bool} {r : ρ} (hn : b = true → Logs part n s ls) :
    Logs part (Script.returnUnless b r >>= fun _ => n) s (.guard (.check b r) :: ls) := by
  cases b with
  | true => exact ⟨(hn rfl).leaves, (hn rfl).adds⟩
  | false => exact ⟨rfl, fun k => (List.append_nil _).symm⟩

/-- A need, and then the rest. -/
theorem need_then {b : Bool} {f : φ} (hn : b = true → Logs part n s ls) :
    Logs part (Script.need b f >>= fun _ => n) s (.guard (.need b f) :: ls) := by
  cases b with
  | true => exact ⟨(hn rfl).leaves, (hn rfl).adds⟩
  | false => exact ⟨rfl, fun k => (List.append_nil _).symm⟩

/-- An assignment to another part of the state, and then the rest. -/
theorem modify_then {g : σ → σ} (hg : ∀ k, part k (g s) = part k s)
    (hn : Logs part n (g s) ls) : Logs part (Script.modify g >>= fun _ => n) s ls where
  leaves := hn.leaves
  adds := by
    intro k
    rw [Script.bind_modify, hn.adds k, hg k]

/-- An addition to one of the lists, and then the rest. -/
theorem add_then {g : σ → σ} {k' : κ} {xs : List ω}
    (hg : ∀ k, part k (g s) = part k s ++ if k' = k then xs else [])
    (hn : Logs part n (g s) ls) :
    Logs part (Script.modify g >>= fun _ => n) s (.add k' xs :: ls) where
  leaves := hn.leaves
  adds := by
    intro k
    rw [Script.bind_modify, hn.adds k, hg k, added_add, List.append_assoc]

/-- A check that holds is no line. -/
theorem check_of_holds {b : Bool} {r : ρ} (hb : b = true) (hn : Logs part n s ls) :
    Logs part (Script.returnUnless b r >>= fun _ => n) s ls := by
  subst hb
  exact ⟨hn.leaves, hn.adds⟩

/-- A need that holds is no line. -/
theorem need_of_holds {b : Bool} {f : φ} (hb : b = true) (hn : Logs part n s ls) :
    Logs part (Script.need b f >>= fun _ => n) s ls := by
  subst hb
  exact ⟨hn.leaves, hn.adds⟩

/-- The value of an option, and then the rest. -/
theorem orReturn_then {p : Option α} {r : ρ} {f : α → Script σ ρ φ Unit}
    (hn : ∀ a, p = some a → Logs part (f a) s ls) :
    Logs part (Script.orReturn p r >>= f) s (.guard (.check p.isSome r) :: ls) := by
  cases p with
  | none => exact ⟨rfl, fun k => (List.append_nil _).symm⟩
  | some a => exact ⟨(hn a rfl).leaves, (hn a rfl).adds⟩

/-- An addition to one of the lists, at the end. -/
theorem add_last {g : σ → σ} {k' : κ} {xs : List ω}
    (hg : ∀ k, part k (g s) = part k s ++ if k' = k then xs else []) :
    Logs part (Script.modify g : Script σ ρ φ Unit) s [.add k' xs] where
  leaves := rfl
  adds := by
    intro k
    rw [added_add, added_nil, List.append_nil]
    exact hg k

/-- An assignment to another part of the state, at the end. -/
theorem modify_last {g : σ → σ} (hg : ∀ k, part k (g s) = part k s) :
    Logs part (Script.modify g : Script σ ρ φ Unit) s [] where
  leaves := rfl
  adds := fun k => (hg k).trans (List.append_nil _).symm

/-- The return at the end. -/
theorem return_last (r : ρ) :
    Logs part (Script.ret r : Script σ ρ φ Unit) s [.guard (.check false r)] where
  leaves := rfl
  adds := fun _ => (List.append_nil _).symm

/-- A script that is chosen by the state, and then the rest. -/
theorem withState_then {f : σ → Script σ ρ φ Unit}
    (h : Logs part (f s >>= fun _ => n) s ls) :
    Logs part (Script.withState f >>= fun _ => n) s ls := ⟨h.leaves, h.adds⟩

/-- A part that changes no list, with its guards as lines. -/
theorem of_leaves {gs : List (Guard ρ φ)} (h : (m s).1 = verdict gs)
    (hkeep : ∀ k, part k (m s).2 = part k s) : Logs part m s (gs.map .guard) where
  leaves := by
    rw [h, guards_map_guard]
  adds := by
    intro k
    rw [hkeep k, added_map_guard, List.append_nil]

end Logs

/-- What the lines add to the list `k` when every guard holds. -/
def additions (k : κ) : List (Line ρ φ κ ω) → List ω
  | [] => []
  | .guard _ :: ls => additions k ls
  | .add k' xs :: ls => (if k' = k then xs else []) ++ additions k ls

/-- There is no addition in the empty list. -/
@[simp] theorem additions_nil (k : κ) : additions k ([] : List (Line ρ φ κ ω)) = [] := rfl

/-- A guard is no addition. -/
@[simp] theorem additions_guard (k : κ) (g : Guard ρ φ) (ls : List (Line ρ φ κ ω)) :
    additions k (.guard g :: ls) = additions k ls := rfl

/-- An addition counts for its own list, whatever the guards are. -/
@[simp] theorem additions_add (k k' : κ) (xs : List ω) (ls : List (Line ρ φ κ ω)) :
    additions k (.add k' xs :: ls) = (if k' = k then xs else []) ++ additions k ls := rfl

/-- The additions of two lists, one after the other. -/
@[simp] theorem additions_append (k : κ) (ls ms : List (Line ρ φ κ ω)) :
    additions k (ls ++ ms) = additions k ls ++ additions k ms := by
  induction ls with
  | nil => rfl
  | cons l ls ih => cases l <;> simp [ih]

/-- Guards add nothing. -/
@[simp] theorem additions_map_guard (k : κ) (gs : List (Guard ρ φ)) :
    additions k (gs.map .guard : List (Line ρ φ κ ω)) = [] := by
  induction gs with
  | nil => rfl
  | cons g gs ih => exact ih

/-- What the lines add is an initial part of their additions. -/
theorem added_prefix (k : κ) (ls : List (Line ρ φ κ ω)) : added k ls <+: additions k ls := by
  induction ls with
  | nil => exact List.prefix_refl []
  | cons l ls ih =>
    cases l with
    | guard g =>
      rw [added_guard, additions_guard]
      cases g.holds with
      | true => exact ih
      | false => exact List.nil_prefix
    | add k' xs => exact (List.prefix_append_right_inj _).mpr ih

/-- When every guard holds, the lines add all of their additions. -/
theorem added_of_passes (k : κ) {ls : List (Line ρ φ κ ω)}
    (h : passes (guards ls) = true) : added k ls = additions k ls := by
  induction ls with
  | nil => rfl
  | cons l ls ih =>
    cases l with
    | guard g =>
      rw [guards_guard, passes_cons, Bool.and_eq_true] at h
      rw [added_guard, if_pos h.1, additions_guard]
      exact ih h.2
    | add k' xs =>
      rw [added_add, additions_add, ih h]

end

/-! ### Scripts on a part of the state -/

namespace Script

variable {τ : Type}

/-- Run a script on a part of the state. -/
def onPart (get : τ → σ) (set : τ → σ → τ) (m : Script σ ρ φ α) : Script τ ρ φ α := fun t =>
  ((m (get t)).1, set t (m (get t)).2)

end Script

/-- The script does to the part `proj` of the state what another script does, and it leaves
in the same way. -/
def Projects {τ : Type} (proj : τ → σ) (m : Script τ ρ φ α) (n : Script σ ρ φ α) : Prop :=
  ∀ t, (m t).1 = (n (proj t)).1 ∧ proj (m t).2 = (n (proj t)).2

namespace Projects

variable {τ : Type} {proj : τ → σ} {m : Script τ ρ φ α} {n : Script σ ρ φ α}

/-- A script on a part projects to itself. -/
theorem onPart {set : τ → σ → τ} (hset : ∀ t s, proj (set t s) = s)
    (n : Script σ ρ φ α) : Projects proj (Script.onPart proj set n) n :=
  fun t => ⟨rfl, hset t _⟩

/-- A script that does nothing projects to one that does nothing. -/
theorem pure (a : α) :
    Projects proj (Pure.pure a : Script τ ρ φ α) (Pure.pure a : Script σ ρ φ α) :=
  fun _ => ⟨rfl, rfl⟩

/-- A return projects to the same return. -/
theorem ret (r : ρ) :
    Projects proj (Script.ret r : Script τ ρ φ α) (Script.ret r : Script σ ρ φ α) :=
  fun _ => ⟨rfl, rfl⟩

/-- To take the value of an option projects to the same. -/
theorem orReturn (p : Option α) (r : ρ) :
    Projects proj (Script.orReturn p r : Script τ ρ φ α)
      (Script.orReturn p r : Script σ ρ φ α) := by
  intro t
  cases p <;> exact ⟨rfl, rfl⟩

/-- A sequence projects when both of its parts do. -/
theorem bind {f : α → Script τ ρ φ β} {g : α → Script σ ρ φ β} (hm : Projects proj m n)
    (hf : ∀ a, Projects proj (f a) (g a)) : Projects proj (m >>= f) (n >>= g) := by
  intro t
  obtain ⟨hleaves, hstate⟩ := hm t
  cases h : (m t).1 with
  | next a =>
    rw [Script.bind_of_next f h, Script.bind_of_next g (hleaves.symm.trans h), ← hstate]
    exact hf a (m t).2
  | ret r =>
    rw [Script.bind_of_ret f h, Script.bind_of_ret g (hleaves.symm.trans h)]
    exact ⟨rfl, hstate⟩
  | fault e =>
    rw [Script.bind_of_fault f h, Script.bind_of_fault g (hleaves.symm.trans h)]
    exact ⟨rfl, hstate⟩

/-- An assignment to another part is not seen. -/
theorem skip {g : τ → τ} {f : Unit → Script τ ρ φ β} {n : Script σ ρ φ β}
    (hg : ∀ t, proj (g t) = proj t) (hf : Projects proj (f ()) n) :
    Projects proj (Script.modify g >>= f) n := by
  intro t
  rw [Script.bind_modify, ← hg t]
  exact hf (g t)

end Projects

end XrSpeechAvs.Lib
