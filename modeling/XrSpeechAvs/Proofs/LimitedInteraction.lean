import Mathlib.Data.List.Induction
import XrSpeechAvs.Impl.ThunderInputManager

/-!
# `XrSpeechAvs.Proofs.LimitedInteraction`: the limited interaction flag as a latch

Three observers write `m_limitedInteraction`, and the SDK calls them from its own threads.
One after the other they make a latch: the flag is true exactly when one of the calls was
limiting (`observe_limitedInteraction`).

Two of them load the flag and then store the combined value. A limiting call can store in
between, and its store is then overwritten with false. The latch holds exactly when no
store comes that late (`InTime`).

* `alone_eq_apply` connects the atomic steps to the functions.
* `latched_step_iff` is the step lemma.
* `latchLaw_iff` is the law over all interleavings of any calls.
* `logout_is_lost` is the shortest interleaving against it.
-/

set_option autoImplicit false

namespace XrSpeechAvs.Proofs

open XrSpeechAvs.Impl
open XrSpeechAvs.Lib

/-- Over whole calls, one after the other, the flag is true exactly when it was true or one
of the calls was limiting. -/
theorem observe_limitedInteraction (m : ThunderInputManager) (calls : List ObserverCall) :
    (run ObserverCall.apply m calls).limitedInteraction
      = (m.limitedInteraction || calls.any ObserverCall.isLimiting) := by
  induction calls generalizing m with
  | nil => simp
  | cons c calls ih =>
    rw [run_cons, ih, ObserverCall.apply_limitedInteraction, List.any_cons, Bool.or_assoc]

variable {ι : Type*}

/-- The flag and the progress of the calls. -/
abbrev FlagState (ι : Type*) := Shared ι Bool

/-- The next atomic step of the call `i`. -/
def flagStep [DecidableEq ι] (calls : ι → ObserverCall) : FlagState ι → ι → FlagState ι :=
  Shared.step fun i => (calls i).access

/-- The state behind the constructor: the flag is false, and no call has begun. -/
def flagStart : FlagState ι := Shared.start (ThunderInputManager.new 0).limitedInteraction

/-- The steps of a call without interference are the call. A `onLogout` has ended after the
first of them. -/
theorem alone_eq_apply [DecidableEq ι] (calls : ι → ObserverCall) (s : FlagState ι) (i : ι)
    (hi : s.progress i = .start) (m : ThunderInputManager)
    (hm : m.limitedInteraction = s.cell) :
    (run (flagStep calls) s [i, i]).cell = ((calls i).apply m).limitedInteraction := by
  rw [ObserverCall.apply_limitedInteraction, hm]
  obtain ⟨haccess, hlimiting⟩ | haccess := (calls i).access_eq
  · rw [hlimiting, Bool.or_true]
    exact Shared.run_store_alone (fun j => (calls j).access) hi haccess
  · exact Shared.run_update_alone (fun j => (calls j).access) hi haccess

section
variable (calls : ι → ObserverCall)

/-- Some limiting call has ended. -/
def Limited (s : FlagState ι) : Prop :=
  ∃ j, (calls j).isLimiting = true ∧ s.progress j = .done

/-- The latch, at one state: the flag is true once a limiting call has ended. -/
def Latched (s : FlagState ι) : Prop := Limited calls s → s.cell = true

/-- A store comes in time: a call that is not limiting, and that has loaded false, stores
before any limiting call has ended. -/
def InTime (s : FlagState ι) (i : ι) : Prop :=
  (calls i).isLimiting = false → s.progress i = .loaded false → ¬ Limited calls s

/-- The law of one interleaving. The flag stays true once it is true, and behind the last
call it is true exactly when some call was limiting. -/
structure LatchLaw [DecidableEq ι] (schedule : List ι) : Prop where
  latch : ∀ p q, p <+: q → q <+: schedule →
    (run (flagStep calls) flagStart p).cell = true →
      (run (flagStep calls) flagStart q).cell = true
  finished : (∀ i, (run (flagStep calls) flagStart schedule).progress i = .done) →
    ((run (flagStep calls) flagStart schedule).cell = true
      ↔ ∃ i, (calls i).isLimiting = true)

variable {calls}

/-- The pending store of a call: true for a limiting one, else what it has loaded. -/
theorem pending_flag {s : FlagState ι} {i : ι} {v : Bool}
    (h : s.pending (fun j => (calls j).access) i = some v) :
    ((calls i).isLimiting = true ∧ v = true) ∨
      ((calls i).isLimiting = false ∧ s.progress i = .loaded v) := by
  obtain ⟨-, hstore⟩ | ⟨w, f, hloaded, hupdate, rfl⟩ := Shared.pending_eq_some_iff.mp h
  · -- Only `onLogout` begins with a store.
    obtain ⟨haccess, hlimiting⟩ | haccess := (calls i).access_eq
    · exact Or.inl ⟨hlimiting, (Access.store.inj (haccess.symm.trans hstore)).symm⟩
    · cases haccess.symm.trans hstore
  · obtain ⟨haccess, -⟩ | haccess := (calls i).access_eq
    · cases haccess.symm.trans hupdate
    · obtain rfl := Access.update.inj (haccess.symm.trans hupdate)
      cases hlimiting : (calls i).isLimiting with
      | true => exact Or.inl ⟨rfl, Bool.or_true w⟩
      | false => exact Or.inr ⟨rfl, hloaded.trans (congrArg _ (Bool.or_false w).symm)⟩

/-- A call that is not limiting stores what it has loaded. -/
theorem pending_of_loaded {s : FlagState ι} {i : ι} {v : Bool}
    (hlimiting : (calls i).isLimiting = false) (h : s.progress i = .loaded v) :
    s.pending (fun j => (calls j).access) i = some v := by
  obtain ⟨-, hstore⟩ | haccess := (calls i).access_eq
  · cases hlimiting.symm.trans hstore
  · refine Shared.pending_eq_some_iff.mpr (Or.inr ⟨v, _, h, haccess, ?_⟩)
    rw [hlimiting, Bool.or_false]

variable [DecidableEq ι]

/-- A store ends its call, so it adds a limiting call exactly when it belongs to one. -/
theorem limited_store (s : FlagState ι) (i : ι) (v : Bool) :
    Limited calls { cell := v, progress := Function.update s.progress i .done }
      ↔ (calls i).isLimiting = true ∨ Limited calls s := by
  have hprogress : ∀ j, Function.update s.progress i .done j = .done
      ↔ j = i ∨ s.progress j = .done := update_done_eq_done s.progress i
  constructor
  · rintro ⟨j, hlimiting, hdone⟩
    rcases (hprogress j).mp hdone with rfl | hbefore
    · exact Or.inl hlimiting
    · exact Or.inr ⟨j, hlimiting, hbefore⟩
  · rintro (hlimiting | ⟨j, hlimiting, hdone⟩)
    · exact ⟨i, hlimiting, (hprogress i).mpr (Or.inl rfl)⟩
    · exact ⟨j, hlimiting, (hprogress j).mpr (Or.inr hdone)⟩

/-- A step without a store changes neither side of the latch. -/
theorem limited_of_not_pending {s : FlagState ι} {i : ι}
    (h : s.pending (fun j => (calls j).access) i = none) :
    Limited calls (flagStep calls s i) ↔ Limited calls s := by
  have hdone := (Shared.step_of_not_pending h).2
  constructor
  · rintro ⟨j, hlimiting, hj⟩
    exact ⟨j, hlimiting, (hdone j).mp hj⟩
  · rintro ⟨j, hlimiting, hj⟩
    exact ⟨j, hlimiting, (hdone j).mpr hj⟩

/-- A latched step stays latched exactly when its store comes in time. -/
theorem latched_step_iff {s : FlagState ι} (hs : Latched calls s) (i : ι) :
    Latched calls (flagStep calls s i) ↔ InTime calls s i := by
  cases hpending : s.pending (fun j => (calls j).access) i with
  | some v =>
    rw [Latched, flagStep, Shared.step_of_pending hpending, limited_store]
    rcases pending_flag hpending with ⟨hlimiting, rfl⟩ | ⟨hlimiting, hloaded⟩
    · -- A limiting call stores true, and its own store is never late.
      refine ⟨fun _ hother => ?_, fun _ _ => rfl⟩
      cases hlimiting.symm.trans hother
    · rw [InTime, hlimiting, hloaded]
      cases v <;> simp
  | none =>
    -- Nothing changes. A late store would be pending.
    have hcell := (Shared.step_of_not_pending hpending).1
    rw [Latched, limited_of_not_pending hpending]
    refine ⟨fun _ hlimiting hloaded => ?_, fun _ hlimited => hcell.trans (hs hlimited)⟩
    cases hpending.symm.trans (pending_of_loaded hlimiting hloaded)

/-- Where true comes from: every true in the flag or in a call stands for a limiting call
that has ended. -/
def TrueIsLimited (calls : ι → ObserverCall) (s : FlagState ι) : Prop :=
  s.Holds fun v => v = true → Limited calls s

/-- A step keeps the origin of true. -/
theorem trueIsLimited_step {s : FlagState ι} (h : TrueIsLimited calls s) (i : ι) :
    TrueIsLimited calls (flagStep calls s i) := by
  have hkeep : Limited calls s → Limited calls (flagStep calls s i) := by
    rintro ⟨j, hlimiting, hj⟩
    exact ⟨j, hlimiting, Shared.done_step hj i⟩
  refine h.step i (fun v hv htrue => hkeep (hv htrue)) ?_
  intro v hpending htrue
  rcases pending_flag hpending with ⟨hlimiting, -⟩ | ⟨-, hloaded⟩
  · rw [flagStep, Shared.step_of_pending hpending, limited_store]
    exact Or.inl hlimiting
  · exact hkeep (h.loaded i v hloaded htrue)

/-- The origin of true, over every run. -/
theorem trueIsLimited_run (schedule : List ι) :
    Throughout (flagStep calls) (TrueIsLimited calls) flagStart schedule := by
  refine throughout_of_step (fun s i h => trueIsLimited_step h i) ⟨?_, ?_⟩ schedule
  · intro htrue
    cases htrue
  · intro i v hv
    cases hv

/-- A limiting call that has ended has made the flag true, then or before. -/
theorem exists_true_of_limited (schedule : List ι)
    (h : Limited calls (run (flagStep calls) flagStart schedule)) :
    ∃ p, p <+: schedule ∧ (run (flagStep calls) flagStart p).cell = true := by
  induction schedule using List.reverseRecOn with
  | nil =>
    obtain ⟨j, -, hj⟩ := h
    cases hj
  | append_singleton schedule i ih =>
    rw [run_concat] at h
    by_cases hbefore : Limited calls (run (flagStep calls) flagStart schedule)
    · obtain ⟨p, hp, htrue⟩ := ih hbefore
      exact ⟨p, hp.trans (List.prefix_append _ _), htrue⟩
    · -- The last step has ended the first limiting call, so it has stored true.
      refine ⟨schedule ++ [i], List.prefix_refl _, ?_⟩
      rw [run_concat]
      refine (latched_step_iff (fun hlimited => absurd hlimited hbefore) i).mpr ?_ h
      exact fun _ _ => hbefore

/-- A run is a latch exactly when each of its states is latched. -/
theorem latchLaw_iff_latched (schedule : List ι) :
    LatchLaw calls schedule
      ↔ Throughout (flagStep calls) (Latched calls) flagStart schedule := by
  constructor
  · intro h q hq hlimited
    obtain ⟨p, hp, htrue⟩ := exists_true_of_limited q hlimited
    exact h.latch p q hp hq htrue
  · intro h
    refine ⟨fun p q hp hq htrue => ?_, fun hdone => ⟨fun htrue => ?_, fun hexists => ?_⟩⟩
    · -- True comes from a limiting call, which has still ended at the later state.
      obtain ⟨j, hlimiting, hj⟩ := (trueIsLimited_run p p (List.prefix_refl p)).cell htrue
      obtain ⟨rest, rfl⟩ := hp
      refine h _ hq ⟨j, hlimiting, ?_⟩
      rw [run, List.foldl_append]
      exact Shared.done_run hj rest
    · obtain ⟨j, hlimiting, -⟩ := (trueIsLimited_run schedule).last.cell htrue
      exact ⟨j, hlimiting⟩
    · obtain ⟨j, hlimiting⟩ := hexists
      exact h.last ⟨j, hlimiting, hdone j⟩

end

/-- Every interleaving of any number of calls, with any arguments: the flag is a latch, and
behind the last call it is true exactly when some call was limiting, if and only if every
store comes in time. -/
theorem latchLaw_iff [DecidableEq ι] (calls : ι → ObserverCall) (schedule : List ι) :
    LatchLaw calls schedule
      ↔ EachStep (flagStep calls) (InTime calls) flagStart schedule := by
  rw [latchLaw_iff_latched]
  refine throughout_iff_eachStep (I := fun _ => True) (A := fun _ _ => True)
    (fun _ _ _ _ => trivial) (fun s i _ hs _ => latched_step_iff hs i) trivial ?_
    (eachStep_of_forall (fun _ _ => trivial) _ _)
  rintro ⟨j, -, hj⟩
  cases hj

/-- An authorization change, and a logout. -/
def authAndLogout : Bool → ObserverCall
  | false => .onAuthStateChange (.other 0)
  | true => .onLogout

/-- The change loads false, the logout stores true, and the change stores false over it. -/
def lateStore : List Bool := [false, true, false]

/-- The logout is lost: the flag is true behind it, and false when both calls have ended. -/
theorem logout_is_lost :
    (run (flagStep authAndLogout) flagStart [false, true]).cell = true ∧
    (run (flagStep authAndLogout) flagStart lateStore).cell = false ∧
    (∀ i, (run (flagStep authAndLogout) flagStart lateStore).progress i = .done) ∧
    ¬ LatchLaw authAndLogout lateStore := by
  have hfalse : (run (flagStep authAndLogout) flagStart lateStore).cell = false := by decide
  refine ⟨by decide, hfalse, by decide, fun h => ?_⟩
  have htrue := h.latch [false, true] lateStore (by decide) (List.prefix_refl _) (by decide)
  cases hfalse.symm.trans htrue

end XrSpeechAvs.Proofs
