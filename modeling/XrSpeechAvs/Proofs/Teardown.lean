import XrSpeechAvs.Impl.SmartScreen
import XrSpeechAvs.Lib.Run

/-!
# `XrSpeechAvs.Proofs.Teardown`: the destructor and the worker thread

A smart screen is a `Core::Thread`. Its constructor runs the thread, and its worker handles
messages as long as the thread is running. The destructor calls `Stop` and then waits until
the thread is stopped or blocked.

`SmartScreen` declares a `Stop` of its own, which hides the one of `Core::Thread`. So the
`Stop` of the destructor ends the audio transmission and not the thread
(`stopInDestructor`). The model takes the two as a parameter.

* `running_step`: with the `Stop` of the smart screen, the thread stays running and the
  worker stays in its loop, over any interleaving.
* `teardown_deadlock_free_iff`: a run is free of a teardown deadlock exactly when the
  destructor never comes to its wait.
* `threadStop_deadlock_free`: with the `Stop` of the thread, every run is free of it.
* `destroy_deadlocks` is the shortest run into the deadlock.
-/

set_option autoImplicit false

namespace XrSpeechAvs.Proofs

open XrSpeechAvs.Impl
open XrSpeechAvs.Lib

/-- The states of a `Core::Thread` that matter here. -/
inductive ThreadState where
  | RUNNING
  | BLOCKED
  | STOPPED
  deriving DecidableEq, Repr

/-- Where the worker thread is: at the test of `Worker`, at the loop test of
`CreateSQSWorker`, in `handleReceiveSQSMessage`, at the `Block` of `Worker`, or behind
it. -/
inductive WorkerPc where
  | workerTest
  | loopTest
  | handleReceiveSQSMessage
  | block
  | returned
  deriving DecidableEq, Repr

/-- Where the owner of the smart screen is: it may call it, it is in the destructor behind
`Stop`, it is in `Wait`, or the destructor has returned. -/
inductive OwnerPc where
  | alive
  | stopCalled
  | waiting
  | destroyed
  deriving DecidableEq, Repr

/-- What a call of `Stop` in the destructor names. -/
inductive StopTarget where
  | smartScreen
  | coreThread
  deriving DecidableEq, Repr

/-- `SmartScreen::Stop` hides `Core::Thread::Stop` in the class. -/
def stopInDestructor : StopTarget := .smartScreen

/-- A smart screen, its thread, and the two parties. -/
structure Teardown where
  screen : SmartScreen
  sdk : Sdk
  thread : ThreadState
  worker : WorkerPc
  owner : OwnerPc

/-- The calls of the owner, the two steps of the destructor, the return of its wait, and
one step of the worker. -/
inductive TeardownEvent where
  | start
  | stop
  | data (bytes : List Byte) (length : UInt16)
  | destructorStop
  | destructorWait
  | waitReturns
  | workerStep
  deriving DecidableEq, Repr

namespace Teardown

/-- After the constructor: the thread runs, and the worker has not started yet. -/
def init : Teardown where
  screen := .new
  sdk := {}
  thread := .RUNNING
  worker := .workerTest
  owner := .alive

/-- `IsRunning`. -/
def isRunning (s : Teardown) : Bool := s.thread = .RUNNING

/-- The state is in the mask `STOPPED | BLOCKED`. -/
def ends (s : Teardown) : Bool := s.thread = .STOPPED || s.thread = .BLOCKED

/-- One step of the worker. -/
def stepWorker (s : Teardown) : Teardown :=
  match s.worker with
  | .workerTest => { s with worker := if s.isRunning then .loopTest else .block }
  | .loopTest => { s with worker := if s.isRunning then .handleReceiveSQSMessage else .block }
  | .handleReceiveSQSMessage => { s with worker := .loopTest }
  | .block => { s with thread := .BLOCKED, worker := .returned }
  -- A running thread calls its worker again.
  | .returned => { s with worker := if s.isRunning then .workerTest else .returned }

/-- The `Stop` of the destructor. -/
def callStop (target : StopTarget) (s : Teardown) : Teardown :=
  match target with
  | .smartScreen => { s with
      screen := (s.screen.stop s.sdk).1
      sdk := (s.screen.stop s.sdk).2 }
  | .coreThread => { s with thread := .STOPPED }

/-- One event. An event that is not possible in the state does nothing. -/
def step (target : StopTarget) (s : Teardown) : TeardownEvent → Teardown
  | .start => if s.owner = .alive then { s with
      screen := (s.screen.start s.sdk).1
      sdk := (s.screen.start s.sdk).2 } else s
  | .stop => if s.owner = .alive then { s with
      screen := (s.screen.stop s.sdk).1
      sdk := (s.screen.stop s.sdk).2 } else s
  | .data bytes length => if s.owner = .alive then { s with
      sdk := s.screen.data s.sdk bytes length } else s
  | .destructorStop =>
    if s.owner = .alive then { callStop target s with owner := .stopCalled } else s
  | .destructorWait => if s.owner = .stopCalled then { s with owner := .waiting } else s
  | .waitReturns =>
    if s.owner = .waiting && s.ends then { s with owner := .destroyed } else s
  | .workerStep => s.stepWorker

/-- The state after `n` steps of the worker alone. -/
def workerAlone (target : StopTarget) (s : Teardown) (n : Nat) : Teardown :=
  run (step target) s (List.replicate n .workerStep)

/-- The destructor waits, and no number of steps of the worker ends the wait. -/
def Deadlock (target : StopTarget) (s : Teardown) : Prop :=
  s.owner = .waiting ∧ ∀ n, (workerAlone target s n).ends = false

/-- The thread runs, and the worker is in its loop or on the way to it. -/
structure Running (s : Teardown) : Prop where
  thread : s.thread = .RUNNING
  not_block : s.worker ≠ .block
  not_returned : s.worker ≠ .returned

/-! ### The `Stop` of the smart screen -/

/-- The worker does not move the owner. -/
theorem stepWorker_owner (s : Teardown) : s.stepWorker.owner = s.owner := by
  unfold stepWorker
  cases s.worker <;> rfl

/-- In a running thread, the worker stays in its loop. -/
theorem running_stepWorker {s : Teardown} (h : s.Running) : s.stepWorker.Running := by
  have hrunning : s.isRunning = true := by
    unfold isRunning
    rw [h.thread]
    rfl
  unfold stepWorker
  -- Both tests of the worker find a running thread.
  cases hpc : s.worker with
  | workerTest =>
    simp only [hrunning, if_true]
    exact ⟨h.thread, by simp, by simp⟩
  | loopTest =>
    simp only [hrunning, if_true]
    exact ⟨h.thread, by simp, by simp⟩
  | handleReceiveSQSMessage => exact ⟨h.thread, by simp, by simp⟩
  | block => exact absurd hpc h.not_block
  | returned => exact absurd hpc h.not_returned

/-- Neither the calls of the owner nor the destructor touch the thread. -/
theorem step_frame (s : Teardown) (e : TeardownEvent) (h : e ≠ .workerStep) :
    (s.step .smartScreen e).thread = s.thread ∧
      (s.step .smartScreen e).worker = s.worker := by
  cases e with
  | workerStep => exact absurd rfl h
  | _ =>
    simp only [step]
    split <;> exact ⟨rfl, rfl⟩

/-- Every event keeps the thread running and the worker in its loop. -/
theorem running_step (s : Teardown) (e : TeardownEvent) (h : s.Running) :
    (s.step .smartScreen e).Running := by
  by_cases he : e = .workerStep
  · rw [he]
    exact running_stepWorker h
  · obtain ⟨hthread, hworker⟩ := step_frame s e he
    exact ⟨hthread ▸ h.thread, hworker ▸ h.not_block, hworker ▸ h.not_returned⟩

/-- Steps of the worker alone keep the thread running. -/
theorem running_workerAlone {s : Teardown} (h : s.Running) (n : Nat) :
    (workerAlone .smartScreen s n).Running :=
  (throughout_of_step running_step h _).last

/-- In a running thread, a destructor that waits is in a deadlock. -/
theorem deadlock_iff {s : Teardown} (h : s.Running) :
    Deadlock .smartScreen s ↔ s.owner = .waiting := by
  refine ⟨fun hdead => hdead.1, fun howner => ⟨howner, fun n => ?_⟩⟩
  have hthread := (running_workerAlone h n).thread
  unfold ends
  rw [hthread]
  rfl

/-- The owner waits after an event only when it did before, or when the destructor came to
its wait. -/
theorem owner_step (s : Teardown) (e : TeardownEvent) (h : s.owner ≠ .waiting) :
    (s.step .smartScreen e).owner = .waiting
      ↔ s.owner = .stopCalled ∧ e = .destructorWait := by
  cases e with
  | workerStep =>
    show s.stepWorker.owner = .waiting ↔ _
    simp [stepWorker_owner, h]
  | destructorWait =>
    simp only [step]
    by_cases hstop : s.owner = .stopCalled
    · simp [hstop]
    · simp [hstop, h]
  | _ =>
    simp only [step]
    split <;> simp_all

/-! ### The `Stop` of the thread -/

/-- The thread has ended when the destructor is behind its `Stop`. -/
def StopsFirst (s : Teardown) : Prop :=
  s.owner = .stopCalled ∨ s.owner = .waiting → s.ends = true

/-- With the `Stop` of the thread, every event keeps that. -/
theorem stopsFirst_step (s : Teardown) (e : TeardownEvent) (h : s.StopsFirst) :
    (s.step .coreThread e).StopsFirst := by
  cases e with
  | destructorStop =>
    simp only [step]
    split
    · exact fun _ => rfl
    · exact h
  | destructorWait =>
    simp only [step]
    split
    · next hstop => exact fun _ => h (Or.inl hstop)
    · exact h
  | waitReturns =>
    simp only [step]
    split
    · rintro (hfalse | hfalse) <;> cases hfalse
    · exact h
  | workerStep =>
    intro howner
    have hends := h (s.stepWorker_owner ▸ howner)
    -- The worker changes the state of the thread at its `Block` only.
    show s.stepWorker.ends = true
    unfold stepWorker
    cases s.worker with
    | workerTest => exact hends
    | loopTest => exact hends
    | handleReceiveSQSMessage => exact hends
    | block => rfl
    | returned => exact hends
  | _ =>
    -- A call of the owner leaves the thread and the owner alone.
    simp only [step]
    split <;> exact h

end Teardown

/-- With the `Stop` of the thread in the destructor, no run has a teardown deadlock. -/
theorem threadStop_deadlock_free (es : List TeardownEvent) :
    Throughout (Teardown.step .coreThread) (fun s => ¬ s.Deadlock .coreThread)
      Teardown.init es := by
  have hstops : Throughout (Teardown.step .coreThread) Teardown.StopsFirst Teardown.init es :=
    throughout_of_step Teardown.stopsFirst_step (by rintro (h | h) <;> cases h) es
  intro pre hpre hdead
  have hends := hstops pre hpre (Or.inr hdead.1)
  exact absurd (hends.symm.trans (hdead.2 0)) (by decide)

/-- In every run of a smart screen, with any interleaving of the owner and the worker: no
reachable state is a teardown deadlock exactly when the destructor never comes to its
wait. -/
theorem teardown_deadlock_free_iff (es : List TeardownEvent) :
    Throughout (Teardown.step stopInDestructor) (fun s => ¬ s.Deadlock stopInDestructor)
        Teardown.init es
      ↔ EachStep (Teardown.step stopInDestructor)
        (fun s e => s.owner = .stopCalled → e ≠ .destructorWait) Teardown.init es := by
  show Throughout (Teardown.step .smartScreen) (fun s => ¬ s.Deadlock .smartScreen) _ es
    ↔ EachStep (Teardown.step .smartScreen) _ _ es
  refine throughout_iff_eachStep (A := fun _ _ => True)
    (fun s e h _ => Teardown.running_step s e h) ?_ ⟨rfl, by decide, by decide⟩ ?_
    (eachStep_of_forall (fun _ _ => trivial) _ _)
  · -- In a running thread, the deadlock is a matter of where the owner is.
    intro s e h hnot _
    rw [Teardown.deadlock_iff h] at hnot
    rw [Teardown.deadlock_iff (Teardown.running_step s e h), Teardown.owner_step s e hnot]
    exact not_and
  · rintro ⟨howner, -⟩
    cases howner

/-- A smart screen that is made and deleted: the destructor waits for ever. -/
theorem destroy_deadlocks :
    Teardown.Deadlock stopInDestructor
      (run (Teardown.step stopInDestructor) Teardown.init
        [.destructorStop, .destructorWait]) :=
  (Teardown.deadlock_iff ⟨rfl, by decide, by decide⟩).mpr rfl

end XrSpeechAvs.Proofs
