import XrSpeechAvs.AvsSdt
import XrSpeechAvs.Impl.Observers

/-!
# `XrSpeechAvs.System`: the process, `Init` and the SDK together

`XrSpeechAvs.AvsSdt` has the exported functions and the callbacks. This module adds what else
happens in the process: attempts of `SmartScreen::Init` on the smart screen behind the
global, notifications of the SDK objects that an attempt has made, and messages of the video
skill. They share the smart screen with the calls, and their messages end up in
`avs_server_msg` like those of a call.

Every attempt makes SDK objects of its own, and nothing unregisters their observers. So each
attempt is kept with its registrations and with the input manager that it has made
(`Attempt`). The observers share the input manager with `m_thunderInputManager`, so it outlives
a later attempt and the smart screen. Which objects the SDK releases, and which notifications
come, is not part of the repository: any object may notify at any time.

The events come one at a time. No call comes inside an attempt, and no two notifications
overlap. An attempt that faults ends the run, and a deletion is taken to complete, as in
`Process.avsDeInitialize`.
-/

set_option autoImplicit false

namespace XrSpeechAvs

open XrSpeechAvs.Impl

/-- An attempt of `Init`, as the input manager sees it: who is registered with the SDK objects of
the attempt, and the input manager that the attempt has made. -/
structure Attempt where
  registrations : List Registration
  manager : Option ThunderInputManager
  deriving DecidableEq, Repr

/-- Whether the input manager is registered with the subject of the notification. -/
def Attempt.hears (a : Attempt) (e : ManagerEvent) : Bool :=
  decide ({ subject := e.subject, observer := .thunderInputManager } ∈ a.registrations)

/-- The process, the attempts so far, oldest first, the attempt whose input manager is
`m_thunderInputManager`, and whether `avs_server_msg` is set as the handler of the messages of
the video skill. -/
structure System where
  process : Process
  attempts : List Attempt
  current : Option Nat
  vskMsgHandler : Bool

/-- Undefined behaviour of a call, or of an attempt. -/
inductive SystemFault where
  | call (f : Fault)
  | init (f : InitFault)
  deriving DecidableEq, Repr

/-- What happens in the process. A notification comes from an object of the given attempt. -/
inductive SystemEvent where
  | call (c : Call)
  | init (env : InitEnv)
  | notify (attempt : Nat) (e : ManagerEvent)
  | vskMsg (message : Text) (length : Nat)

namespace System

/-- Before the first call. -/
def init : System where
  process := .init
  attempts := []
  current := none
  vskMsgHandler := false

/-- A call into the process. -/
def onProcess (s : System) (r : Except Fault Process) : Except SystemFault System :=
  match r with
  | .ok t => .ok { s with process := t }
  | .error f => .error (.call f)

/-- The smart screen behind the global, with its address. -/
def liveScreen (s : System) : Option (Ptr × SmartScreen) :=
  s.process.avsSmartScreen.bind fun p => (s.process.screens p).map fun screen => (p, screen)

/-- The input manager that an attempt has made. -/
def manager (s : System) (attempt : Nat) : Option ThunderInputManager :=
  s.attempts[attempt]?.bind Attempt.manager

/-- The system after an attempt on the smart screen at `p` that has left as `w`. The attempt has
set the handler exactly when it has made an input manager. -/
def withAttempt (s : System) (p : Ptr) (w : Wired) : System where
  process := { s.process with screens := Function.update s.process.screens p (some w.screen) }
  attempts := s.attempts ++ [{ registrations := w.registrations, manager := w.made }]
  current := if w.vskMsgHandler then some s.attempts.length else s.current
  vskMsgHandler := s.vskMsgHandler || w.vskMsgHandler

/-- One attempt of `Init`. -/
def attemptInit (s : System) (env : InitEnv) : Except SystemFault System :=
  match s.process.avsSmartScreen with
  | none => .ok s
  | some p =>
    match s.process.screens p with
    | none => .error (.call (.useAfterFree p))
    | some screen =>
      match initWired env (.entering screen) with
      | (.fault f, _) => .error (.init f)
      | (_, w) => .ok (s.withAttempt p w)

/-- The process after the input manager of the live smart screen has become `manager`. -/
def withInputManager (s : System) (manager : ThunderInputManager) : Process :=
  match s.liveScreen with
  | none => s.process
  | some (p, screen) => { s.process with
      screens := Function.update s.process.screens p
        (some { screen with thunderInputManager := some manager }) }

/-- The system after the input manager of an attempt has become `manager`. The smart screen
shares the one of the current attempt. -/
def withManager (s : System) (attempt : Nat) (manager : ThunderInputManager) : System :=
  { s with
    process := if s.current = some attempt then s.withInputManager manager else s.process
    attempts := s.attempts.modify attempt fun a => { a with manager := some manager } }

/-- The input manager that a notification reaches. It is registered with objects of its own
attempt only. -/
def listener (s : System) (attempt : Nat) (e : ManagerEvent) : Option ThunderInputManager :=
  s.attempts[attempt]?.bind fun a => if a.hears e then a.manager else none

/-- A notification of an SDK object, and the message that the input manager passes on. Nothing
happens when no input manager is registered with the object. -/
def notify (s : System) (attempt : Nat) (e : ManagerEvent) : Except SystemFault System :=
  match s.listener attempt e with
  | none => .ok s
  | some manager =>
    let t := s.withManager attempt (e.apply manager)
    match e.forwarded manager with
    | none => .ok t
    | some msg => t.onProcess (t.process.avsServerMsg msg.message msg.length)

/-- A message of the video skill. -/
def vskMsg (s : System) (message : Text) (length : Nat) : Except SystemFault System :=
  if s.vskMsgHandler then s.onProcess (s.process.avsServerMsg message length) else .ok s

/-- One event. -/
def step (s : System) : SystemEvent → Except SystemFault System
  | .call c => s.onProcess (s.process.step c)
  | .init env => s.attemptInit env
  | .notify attempt e => s.notify attempt e
  | .vskMsg message length => s.vskMsg message length

/-- A call that succeeds changes the process only. -/
theorem onProcess_ok {s t : System} {r : Except Fault Process} :
    s.onProcess r = .ok t ↔ ∃ p, r = .ok p ∧ t = { s with process := p } := by
  cases r with
  | error f =>
    constructor
    · intro h
      cases h
    · rintro ⟨p, h, -⟩
      cases h
  | ok p =>
    constructor
    · intro h
      exact ⟨p, rfl, (Except.ok.inj h).symm⟩
    · rintro ⟨q, hq, rfl⟩
      rw [Except.ok.inj hq]
      rfl

/-- The smart screen behind the global is live. -/
theorem liveScreen_eq_some {s : System} {p : Ptr} {screen : SmartScreen} :
    s.liveScreen = some (p, screen) ↔
      s.process.avsSmartScreen = some p ∧ s.process.screens p = some screen := by
  unfold liveScreen
  constructor
  · intro h
    obtain ⟨q, hq, hmap⟩ := Option.bind_eq_some_iff.mp h
    obtain ⟨found, hfound, heq⟩ := Option.map_eq_some_iff.mp hmap
    obtain ⟨rfl, rfl⟩ := Prod.mk.inj heq
    exact ⟨hq, hfound⟩
  · rintro ⟨hp, hscreen⟩
    rw [hp, Option.bind_some, hscreen]
    rfl

/-- An attempt that goes through: there is no smart screen, or the live one is now what the
attempt has made of it. -/
theorem attemptInit_cases {s t : System} {env : InitEnv} (h : s.attemptInit env = .ok t) :
    (s.process.avsSmartScreen = none ∧ t = s) ∨
    ∃ p screen, s.process.avsSmartScreen = some p ∧ s.process.screens p = some screen ∧
      t = s.withAttempt p (initWired env (.entering screen)).2 := by
  unfold attemptInit at h
  cases hp : s.process.avsSmartScreen with
  | none =>
    rw [hp] at h
    exact Or.inl ⟨rfl, (Except.ok.inj h).symm⟩
  | some p =>
    rw [hp] at h
    cases hscreen : s.process.screens p with
    | none =>
      simp only [hscreen] at h
      cases h
    | some screen =>
      simp only [hscreen] at h
      refine Or.inr ⟨p, screen, rfl, hscreen, ?_⟩
      -- The attempt has left without a fault.
      rcases hinit : initWired env (.entering screen) with ⟨out, w⟩
      rw [hinit] at h
      cases out with
      | fault f => cases h
      | next u => exact (Except.ok.inj h).symm
      | ret r => exact (Except.ok.inj h).symm

/-- An attempt on the live smart screen that goes through makes of it what `initWired` says. -/
theorem attemptInit_live {s t : System} {env : InitEnv} {p : Ptr} {screen : SmartScreen}
    (hlive : s.liveScreen = some (p, screen)) (h : s.attemptInit env = .ok t) :
    t = s.withAttempt p (initWired env (.entering screen)).2 := by
  obtain ⟨hp, hscreen⟩ := liveScreen_eq_some.mp hlive
  obtain ⟨hnone, -⟩ | ⟨q, found, hq, hfound, ht⟩ := attemptInit_cases h
  · rw [hp] at hnone
    cases hnone
  · obtain rfl : p = q := Option.some.inj (hp.symm.trans hq)
    obtain rfl : screen = found := Option.some.inj (hscreen.symm.trans hfound)
    exact ht

/-- After it, the live smart screen is at the same address. -/
theorem liveScreen_withAttempt {s : System} {p : Ptr} {screen : SmartScreen}
    (hlive : s.liveScreen = some (p, screen)) (w : Wired) :
    (s.withAttempt p w).liveScreen = some (p, w.screen) :=
  liveScreen_eq_some.mpr ⟨(liveScreen_eq_some.mp hlive).1, Function.update_self ..⟩

/-- An attempt on the live smart screen that leaves without a fault goes through. -/
theorem attemptInit_of_live {s : System} {env : InitEnv} {p : Ptr} {screen : SmartScreen}
    (hp : s.process.avsSmartScreen = some p) (hlive : s.process.screens p = some screen)
    (hno : ∀ f, (initWired env (.entering screen)).1 ≠ .fault f) :
    s.attemptInit env = .ok (s.withAttempt p (initWired env (.entering screen)).2) := by
  unfold attemptInit
  rw [hp]
  simp only
  rw [hlive]
  rcases hinit : initWired env (.entering screen) with ⟨out, w⟩
  rw [hinit] at hno
  cases out with
  | fault f => exact absurd rfl (hno f)
  | next u => simp only [hinit]
  | ret r => simp only [hinit]

/-- A notification that goes through: it reaches no input manager, or the one that it reaches
has handled it. In the second case a message that is passed on has been served too. -/
theorem notify_cases {s t : System} {attempt : Nat} {e : ManagerEvent}
    (h : s.notify attempt e = .ok t) :
    (s.listener attempt e = none ∧ t = s) ∨
    ∃ manager, s.listener attempt e = some manager ∧
      ((e.forwarded manager = none ∧ t = s.withManager attempt (e.apply manager)) ∨
        ∃ msg, e.forwarded manager = some msg ∧
          (s.withManager attempt (e.apply manager)).onProcess
            ((s.withManager attempt (e.apply manager)).process.avsServerMsg msg.message
              msg.length) = .ok t) := by
  unfold notify at h
  cases hlistener : s.listener attempt e with
  | none =>
    rw [hlistener] at h
    exact Or.inl ⟨rfl, (Except.ok.inj h).symm⟩
  | some manager =>
    rw [hlistener] at h
    refine Or.inr ⟨manager, rfl, ?_⟩
    simp only at h
    -- Only a directive that is passed on calls into the process.
    cases hmsg : e.forwarded manager with
    | none =>
      rw [hmsg] at h
      exact Or.inl ⟨rfl, (Except.ok.inj h).symm⟩
    | some msg =>
      rw [hmsg] at h
      exact Or.inr ⟨msg, rfl, h⟩

/-- A message of the video skill is a server message when the handler is set, and else it is
lost. -/
theorem vskMsg_cases {s t : System} {message : Text} {length : Nat}
    (h : s.vskMsg message length = .ok t) :
    (s.vskMsgHandler = false ∧ t = s) ∨
    (s.vskMsgHandler = true ∧ s.onProcess (s.process.avsServerMsg message length) = .ok t) := by
  unfold vskMsg at h
  cases hset : s.vskMsgHandler with
  | false =>
    rw [hset, if_neg Bool.false_ne_true] at h
    exact Or.inl ⟨rfl, (Except.ok.inj h).symm⟩
  | true =>
    rw [hset, if_pos rfl] at h
    exact Or.inr ⟨rfl, h⟩

/-- An input manager hears a notification when it is registered with the object. -/
theorem listener_eq_some {s : System} {attempt : Nat} {e : ManagerEvent}
    {manager : ThunderInputManager} :
    s.listener attempt e = some manager ↔
      ∃ a, s.attempts[attempt]? = some a ∧ a.hears e = true ∧ a.manager = some manager := by
  unfold listener
  rw [Option.bind_eq_some_iff]
  refine exists_congr fun a => and_congr_right fun _ => ?_
  cases a.hears e <;> simp

/-- A replaced input manager is that of the live smart screen too, when its attempt is the current
one. Nothing else in the process changes. -/
theorem withManager_process (s : System) (attempt : Nat) (manager : ThunderInputManager) :
    ((s.withManager attempt manager).process = s.process ∧
      (s.current = some attempt → s.liveScreen = none)) ∨
    s.current = some attempt ∧ ∃ p screen, s.liveScreen = some (p, screen) ∧
      (s.withManager attempt manager).process = { s.process with
        screens := Function.update s.process.screens p
          (some { screen with thunderInputManager := some manager }) } := by
  by_cases hcurrent : s.current = some attempt
  · -- The smart screen shares the input manager of the current attempt.
    have hprocess : (s.withManager attempt manager).process = s.withInputManager manager :=
      if_pos hcurrent
    rw [hprocess]
    unfold withInputManager
    cases s.liveScreen with
    | none => exact Or.inl ⟨rfl, fun _ => rfl⟩
    | some found => exact Or.inr ⟨hcurrent, found.1, found.2, rfl, rfl⟩
  · exact Or.inl ⟨if_neg hcurrent, fun h => absurd h hcurrent⟩

end System

end XrSpeechAvs
