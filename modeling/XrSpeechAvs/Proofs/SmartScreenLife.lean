import XrSpeechAvs.Lib.Lifetime
import XrSpeechAvs.Proofs.VoicePart

/-!
# `XrSpeechAvs.Proofs.SmartScreenLife`: a process makes one smart screen

`AVS_Initialize` makes a smart screen only while the global is null, and no function sets the
global back to null. So a process makes at most one smart screen. `Living` relates the
smart screens and the global to the lifetime of one object, and `living_simulates` is the
step lemma. `one_smart_screen` is the law over whole runs: whatever happens, the uses of the
smart screen stand between its birth and its release, which is taken to complete.
-/

set_option autoImplicit false

namespace XrSpeechAvs.Proofs

open XrSpeechAvs.Impl
open XrSpeechAvs.Lib

/-! ### The events of the lifetime -/

/-- An operation on the smart screen behind the global, if the global is not null. -/
def whenBorn (v : VoicePart) (e : LifeEvent Ptr) : List (LifeEvent Ptr) :=
  if v.avsSmartScreen.isSome then [e] else []

/-- Without a smart screen there is no event. -/
theorem whenBorn_of_none {v : VoicePart} (h : v.avsSmartScreen = none) (e : LifeEvent Ptr) :
    whenBorn v e = [] := by
  simp [whenBorn, h]

/-- With one, the event is shown. -/
theorem whenBorn_of_some {v : VoicePart} {p : Ptr} (h : v.avsSmartScreen = some p)
    (e : LifeEvent Ptr) : whenBorn v e = [e] := by
  simp [whenBorn, h]

/-- The events of an operation. -/
def opLife (v : VoicePart) : VoiceOp → List (LifeEvent Ptr)
  | .nothing => []
  | .construct mem => if v.avsSmartScreen.isSome then [] else [.born mem]
  | .start | .stop | .write _ => whenBorn v .use
  | .delete => whenBorn v .release

/-- The events of the system. An attempt of `Init` is a use, and so is a notification while a
smart screen lives. -/
def systemLife (s : System) : SystemEvent → List (LifeEvent Ptr)
  | .call c => opLife s.process.voicePart (s.process.registry.voiceOp c)
  | .init _ => whenBorn s.process.voicePart .use
  | .notify _ _ => if s.liveScreen.isSome then [.use] else []
  | .vskMsg _ _ => []

/-- The smart screens and the global are those of a lifetime. The global still has its value
when the smart screen is gone. -/
structure Living (v : VoicePart) (l : Lifetime Ptr) : Prop where
  global : v.avsSmartScreen = match l with
    | .unborn => none
    | .alive p => some p
    | .gone p => some p
  live : ∀ q, (v.screens q).isSome ↔ l = .alive q

/-! ### The step lemma -/

section
variable {v w : VoicePart} {l : Lifetime Ptr}

/-- The lifetime of a live smart screen. -/
theorem Living.eq_alive (h : Living v l) {p : Ptr} {screen : SmartScreen}
    (hlive : v.screens p = some screen) : l = .alive p :=
  (h.live p).mp (by rw [hlive]; rfl)

/-- To replace the live smart screen is a use. -/
theorem Living.use (h : Living v l) {p : Ptr} {screen : SmartScreen}
    (hlive : v.screens p = some screen) (new : SmartScreen) (sdk : Sdk) :
    tryRun Lifetime.step l [.use] = .ok l ∧
      Living { v.withScreen p new with sdk := sdk } l := by
  obtain rfl := h.eq_alive hlive
  refine ⟨rfl, h.global, fun q => ?_⟩
  show (Function.update v.screens p (some new) q).isSome ↔ _
  by_cases hq : q = p
  · rw [hq, Function.update_self]
    exact ⟨fun _ => rfl, fun _ => rfl⟩
  · rw [Function.update_of_ne hq]
    exact h.live q

/-- An operation on the smart screen is a use. -/
theorem Living.act (h : Living v l) {f : SmartScreen → Sdk → SmartScreen × Sdk}
    (hw : v.act f = .ok w) :
    ∃ m, tryRun Lifetime.step l (whenBorn v .use) = .ok m ∧ Living w m := by
  obtain ⟨hnone, rfl⟩ | ⟨p, screen, hp, hlive, rfl⟩ := VoicePart.act_cases hw
  · rw [whenBorn_of_none hnone]
    exact ⟨l, rfl, h⟩
  · rw [whenBorn_of_some hp]
    exact ⟨l, h.use hlive (f screen v.sdk).1 (f screen v.sdk).2⟩

/-- A deletion is the release. -/
theorem Living.delete (h : Living v l) (hw : v.step .delete = .ok w) :
    ∃ m, tryRun Lifetime.step l (whenBorn v .release) = .ok m ∧ Living w m := by
  obtain ⟨hnone, rfl⟩ | ⟨p, screen, hp, hlive, rfl⟩ := VoicePart.delete_cases hw
  · rw [whenBorn_of_none hnone]
    exact ⟨l, rfl, h⟩
  · rw [whenBorn_of_some hp]
    obtain rfl := h.eq_alive hlive
    refine ⟨.gone p, rfl, hp, fun q => ?_⟩
    -- The only live smart screen was the one at `p`.
    show (Function.update v.screens p none q).isSome ↔ _
    by_cases hq : q = p
    · simp [hq]
    · rw [Function.update_of_ne hq, h.live q]
      simp [Ne.symm hq]

/-- A construction is the birth, when the global is null. -/
theorem Living.construct (h : Living v l) {mem : Ptr} (hw : v.step (.construct mem) = .ok w) :
    ∃ m, tryRun Lifetime.step l (opLife v (.construct mem)) = .ok m ∧ Living w m := by
  unfold VoicePart.step at hw
  unfold opLife
  cases hp : v.avsSmartScreen with
  | some p =>
    rw [hp] at hw
    obtain rfl := Except.ok.inj hw
    -- The global is not null, and `AVS_Initialize` does nothing.
    exact ⟨l, rfl, h⟩
  | none =>
    rw [hp] at hw
    obtain rfl := Except.ok.inj hw
    -- The global is never set back, so a null one means that nothing was born.
    have hunborn : l = .unborn := by
      have hglobal := h.global
      rw [hp] at hglobal
      cases l with
      | unborn => rfl
      | alive p => cases hglobal
      | gone p => cases hglobal
    subst hunborn
    refine ⟨.alive mem, rfl, rfl, fun q => ?_⟩
    show (Function.update v.screens mem (some .new) q).isSome ↔ _
    by_cases hq : q = mem
    · simp [hq]
    · rw [Function.update_of_ne hq, h.live q]
      simp [Ne.symm hq]

/-- Every operation that succeeds is matched by its events. -/
theorem Living.step (h : Living v l) {op : VoiceOp} (hw : v.step op = .ok w) :
    ∃ m, tryRun Lifetime.step l (opLife v op) = .ok m ∧ Living w m := by
  cases op with
  | nothing =>
    obtain rfl := Except.ok.inj hw
    exact ⟨l, rfl, h⟩
  | construct mem => exact h.construct hw
  | start => exact h.act hw
  | stop => exact h.act hw
  | write words =>
    have hw : v.act (fun screen sdk => (screen, screen.write sdk words)) = .ok w := hw
    exact h.act hw
  | delete => exact h.delete hw

end

/-- Every event of the system that succeeds is matched by its events. -/
theorem living_simulates :
    Simulates System.step Lifetime.step systemLife (fun _ _ => True)
      (fun s l => s.process.registry.Identified ∧ Living s.process.voicePart l) := by
  intro s l e t hrelated _ ht
  obtain ⟨hI, h⟩ := hrelated
  have hidentified := identified_system hI ht
  cases e with
  | call c =>
    obtain ⟨m, hm, hliving⟩ := h.step (call_voicePart hI ht)
    exact ⟨m, hm, hidentified, hliving⟩
  | init env =>
    obtain ⟨m, hm, hliving⟩ := h.act (init_voicePart ht)
    exact ⟨m, hm, hidentified, hliving⟩
  | notify attempt event =>
    -- While the smart screen lives, a notification counts as a use, heard or not.
    have hcounted : tryRun Lifetime.step l (systemLife s (.notify attempt event)) = .ok l := by
      unfold systemLife
      cases hfound : s.liveScreen with
      | none => rfl
      | some found =>
        exact (h.use (System.liveScreen_eq_some.mp hfound).2 found.2 s.process.sdk).1
    refine ⟨l, hcounted, hidentified, ?_⟩
    obtain hkeep | ⟨p, screen, manager, -, hlive, hnotified⟩ := notify_voicePart hI ht
    · exact hkeep ▸ h
    · rw [hnotified]
      exact (h.use hlive { screen with thunderInputManager := manager } s.process.sdk).2
  | vskMsg message length =>
    refine ⟨l, rfl, hidentified, ?_⟩
    rw [vskMsg_voicePart hI ht]
    exact h

/-- Every run that succeeds is a history of one smart screen: it is born at most once, used
any number of times, and released at most once, with nothing behind the release. The smart
screens and the global at the end are those of this lifetime. The release is taken to
complete. -/
theorem one_smart_screen (es : List SystemEvent) {t : System}
    (ht : tryRun System.step System.init es = .ok t) :
    ∃ (l : Lifetime Ptr) (n : Nat),
      shown System.step systemLife System.init es = l.history n ∧
        Living t.process.voicePart l := by
  have hinit : Living System.init.process.voicePart .unborn := by
    refine ⟨rfl, fun q => ?_⟩
    simp [System.init, Process.init, Process.voicePart]
  obtain ⟨l, hl, -, hliving⟩ := living_simulates.tryRun ⟨Process.identified_init, hinit⟩
    (tryEachStep_of_forall_mem fun _ _ => trivial) ht
  obtain ⟨n, hn⟩ := Lifetime.tryRun_unborn_iff.mp hl
  exact ⟨l, n, hn, hliving⟩

/-- The law for a smart screen that is started once and released: `AVS_Initialize` does not
make another one afterwards. -/
theorem one_smart_screen_again :
    ∃ t, tryRun System.step System.init
        [.call (.avsInitialize 1), .call .voiceStart, .call .avsDeInitialize,
          .call (.avsInitialize 2)] = .ok t ∧ t.process.avsSmartScreen = some 1 := by
  refine ⟨_, rfl, ?_⟩
  obtain ⟨l, n, hshown, hliving⟩ := one_smart_screen [.call (.avsInitialize 1),
    .call .voiceStart, .call .avsDeInitialize, .call (.avsInitialize 2)] rfl
  have hevents : shown System.step systemLife System.init [.call (.avsInitialize 1),
      .call .voiceStart, .call .avsDeInitialize, .call (.avsInitialize 2)]
      = [.born 1, .use, .release] := rfl
  rw [hevents] at hshown
  exact hliving.global.trans (by cases l <;> simp_all [Lifetime.history])

end XrSpeechAvs.Proofs
