import XrSpeechAvs.Process

/-!
# `XrSpeechAvs.Avs`: the functions of `AVS.cpp`

Each function tests the global `AvsSmartScreen` against null and then calls the smart
screen. `delete` runs the destructor, which calls `Stop` and waits for the thread. The wait
is taken to end here (`XrSpeechAvs.Proofs.Teardown` is about the wait).
-/

set_option autoImplicit false

namespace XrSpeechAvs.Process

open XrSpeechAvs.Impl

/-- A call on the smart screen behind the global, if the global is not null. `f` gives the
smart screen and the SDK after the call. -/
def withSmartScreen (s : Process) (f : SmartScreen → Sdk → SmartScreen × Sdk) :
    Except Fault Process :=
  match s.avsSmartScreen with
  | none => .ok s
  | some p =>
    match s.screens p with
    | none => .error (.useAfterFree p)
    | some screen => .ok { s with
        screens := Function.update s.screens p (some (f screen s.sdk).1)
        sdk := (f screen s.sdk).2 }

/-- `AVS_Initialize`. `mem` is the address that `new` returns. -/
def avsInitialize (s : Process) (mem : Ptr) : Process :=
  match s.avsSmartScreen with
  | none => { s with
      avsSmartScreen := some mem
      screens := Function.update s.screens mem (some SmartScreen.new) }
  | some _ => s

/-- `AVS_DeInitialize`: the destructor stops the transmission, and the object is released.
The global keeps its value. The wait of the destructor for the thread is taken to end. -/
def avsDeInitialize (s : Process) : Except Fault Process :=
  match s.avsSmartScreen with
  | none => .ok s
  | some p =>
    match s.screens p with
    | none => .error (.doubleFree p)
    | some screen => .ok { s with
        screens := Function.update s.screens p none
        sdk := (screen.stop s.sdk).2 }

/-- `Voice_Start`. -/
def voiceStart (s : Process) : Except Fault Process :=
  s.withSmartScreen SmartScreen.start

/-- `Voice_Stop`. -/
def voiceStop (s : Process) : Except Fault Process :=
  s.withSmartScreen SmartScreen.stop

/-- `Voice_Data`. -/
def voiceData (s : Process) (dataBuffer : List Byte) (length : UInt16) :
    Except Fault Process :=
  s.withSmartScreen fun screen sdk => (screen, screen.data sdk dataBuffer length)

/-- A call on the smart screen leaves everything else alone: only the smart screen behind
the global and the SDK can change. -/
theorem withSmartScreen_cases {s t : Process} {f : SmartScreen → Sdk → SmartScreen × Sdk}
    (h : s.withSmartScreen f = .ok t) :
    (s.avsSmartScreen = none ∧ t = s) ∨
    ∃ p screen, s.avsSmartScreen = some p ∧ s.screens p = some screen ∧
      t = { s with
        screens := Function.update s.screens p (some (f screen s.sdk).1)
        sdk := (f screen s.sdk).2 } := by
  unfold withSmartScreen at h
  cases hp : s.avsSmartScreen with
  | none =>
    rw [hp] at h
    exact Or.inl ⟨rfl, (Except.ok.inj h).symm⟩
  | some p =>
    rw [hp] at h
    cases hscreen : s.screens p with
    -- The global names a smart screen that is gone, so the call faults.
    | none => simp [hscreen] at h
    | some screen =>
      simp only [hscreen] at h
      exact Or.inr ⟨p, screen, rfl, hscreen, (Except.ok.inj h).symm⟩

/-- A call behind a null global does nothing. -/
theorem withSmartScreen_of_none {s : Process} (f : SmartScreen → Sdk → SmartScreen × Sdk)
    (h : s.avsSmartScreen = none) : s.withSmartScreen f = .ok s := by
  unfold withSmartScreen
  rw [h]

/-- A call on a live smart screen. -/
theorem withSmartScreen_of_live {s : Process} {p : Ptr} {screen : SmartScreen}
    (f : SmartScreen → Sdk → SmartScreen × Sdk) (hp : s.avsSmartScreen = some p)
    (hscreen : s.screens p = some screen) :
    s.withSmartScreen f = .ok { s with
      screens := Function.update s.screens p (some (f screen s.sdk).1)
      sdk := (f screen s.sdk).2 } := by
  simp only [withSmartScreen, hp, hscreen]

/-- A teardown leaves everything else alone: only the smart screen behind the global and
the SDK can change. -/
theorem avsDeInitialize_cases {s t : Process} (h : s.avsDeInitialize = .ok t) :
    (s.avsSmartScreen = none ∧ t = s) ∨
    ∃ p screen, s.avsSmartScreen = some p ∧ s.screens p = some screen ∧
      t = { s with
        screens := Function.update s.screens p none
        sdk := (screen.stop s.sdk).2 } := by
  unfold avsDeInitialize at h
  cases hp : s.avsSmartScreen with
  | none =>
    rw [hp] at h
    exact Or.inl ⟨rfl, (Except.ok.inj h).symm⟩
  | some p =>
    rw [hp] at h
    cases hscreen : s.screens p with
    -- A second deletion faults.
    | none => simp [hscreen] at h
    | some screen =>
      simp only [hscreen] at h
      exact Or.inr ⟨p, screen, rfl, hscreen, (Except.ok.inj h).symm⟩

end XrSpeechAvs.Process
