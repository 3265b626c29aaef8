import XrSpeechAvs.Lib.Simulation
import XrSpeechAvs.Lib.Switch

/-!
# `XrSpeechAvs.VoiceLink`: what the voice path is for

The abstract model of the path from the router to the voice service. A *voice link* is
talking or not. It counts how often that has changed, since the service is told by toggles,
and it keeps the words that it has passed on. Words are passed on whether the link is
talking or not. Once it is closed, nothing more may happen to it.

`VoiceLink.tryRun_ok_iff` gives a whole run in closed form: the link is talking when the
last switch says so, it has toggled once for each change, its words are those of all frames,
and nothing stands behind the close.
-/

set_option autoImplicit false

namespace XrSpeechAvs

open XrSpeechAvs.Lib

/-- What can happen to a voice link. -/
inductive VoiceEvent (α : Type) where
  | talk
  | hush
  | frame (words : List α)
  | close
  deriving DecidableEq, Repr

namespace VoiceEvent

variable {α : Type}

/-- The position that the event sets the link to, if it sets one. A close ends the talk. -/
def setting : VoiceEvent α → Option Bool
  | .talk => some true
  | .hush => some false
  | .frame _ => none
  | .close => some false

/-- The words that the event brings. -/
def words : VoiceEvent α → List α
  | .frame words => words
  | _ => []

/-- Whether the event is a close. -/
def isClose : VoiceEvent α → Bool
  | .close => true
  | _ => false

end VoiceEvent

/-- The settings of a run. -/
def settings {α : Type} (es : List (VoiceEvent α)) : List Bool :=
  es.filterMap VoiceEvent.setting

section
variable {α : Type} (es : List (VoiceEvent α))

/-- Without an event there is no setting. -/
@[simp] theorem settings_nil : settings ([] : List (VoiceEvent α)) = [] := rfl

/-- A talk sets the link to on. -/
@[simp] theorem settings_talk : settings (.talk :: es) = true :: settings es := rfl

/-- A hush sets it to off. -/
@[simp] theorem settings_hush : settings (.hush :: es) = false :: settings es := rfl

/-- A frame sets nothing. -/
@[simp] theorem settings_frame (words : List α) :
    settings (.frame words :: es) = settings es := rfl

/-- A close sets it to off. -/
@[simp] theorem settings_close : settings (.close :: es) = false :: settings es := rfl

end

/-- A voice link. -/
structure VoiceLink (α : Type) where
  talking : Bool
  toggles : Nat
  words : List α
  closed : Bool
  deriving DecidableEq, Repr

/-- Something happens to a closed link. -/
inductive LinkFault where
  | closed
  deriving DecidableEq, Repr

namespace VoiceLink

variable {α : Type}

/-- A link that has passed on nothing yet. -/
def opened (talking : Bool) : VoiceLink α where
  talking := talking
  toggles := 0
  words := []
  closed := false

/-- Set the link to a position. The service is told when that is a change. -/
def switch (l : VoiceLink α) (on : Bool) : VoiceLink α :=
  if l.talking = on then l else { l with talking := on, toggles := l.toggles + 1 }

/-- What an event makes of an open link. -/
def apply (l : VoiceLink α) : VoiceEvent α → VoiceLink α
  | .talk => l.switch true
  | .hush => l.switch false
  | .frame words => { l with words := l.words ++ words }
  | .close => { l.switch false with closed := true }

/-- One event. -/
def step (l : VoiceLink α) (e : VoiceEvent α) : Except LinkFault (VoiceLink α) :=
  if l.closed then .error .closed else .ok (l.apply e)

/-- The link after a run, in closed form. -/
def after (l : VoiceLink α) (es : List (VoiceEvent α)) : VoiceLink α where
  talking := position l.talking (settings es)
  toggles := l.toggles + changes l.talking (settings es)
  words := l.words ++ es.flatMap VoiceEvent.words
  closed := l.closed || es.any VoiceEvent.isClose

/-- A setting closes nothing. -/
@[simp] theorem switch_closed (l : VoiceLink α) (on : Bool) :
    (l.switch on).closed = l.closed := by
  unfold switch
  split <;> rfl

/-- An event succeeds on an open link. -/
theorem step_of_open {l : VoiceLink α} (h : l.closed = false) (e : VoiceEvent α) :
    l.step e = .ok (l.apply e) := by
  unfold step
  rw [h]
  rfl

/-- An event fails on a closed link. -/
theorem step_of_closed {l : VoiceLink α} (h : l.closed = true) (e : VoiceEvent α) :
    l.step e = .error .closed := by
  unfold step
  rw [h]
  rfl

/-- An event closes the link exactly when it is a close. -/
theorem apply_closed {l : VoiceLink α} (h : l.closed = false) (e : VoiceEvent α) :
    (l.apply e).closed = e.isClose := by
  cases e with
  | talk => exact (l.switch_closed true).trans h
  | hush => exact (l.switch_closed false).trans h
  | frame words => exact h
  | close => rfl

/-- The empty run leaves the link as it is. -/
@[simp] theorem after_nil (l : VoiceLink α) : l.after [] = l := by
  simp [after]

/-- A setting, and then the rest of the settings. -/
theorem after_switch (l : VoiceLink α) (on : Bool) (es : List (VoiceEvent α)) :
    (l.switch on).after es = { l.after es with
      talking := position on (settings es)
      toggles := l.toggles + ((if on = l.talking then 0 else 1) + changes on (settings es)) } := by
  unfold switch after
  by_cases h : l.talking = on
  · rw [if_pos h, if_pos h.symm, h, Nat.zero_add]
  · rw [if_neg h, if_neg fun h' => h h'.symm, Nat.add_assoc]

/-- The closed form goes through an event. -/
theorem after_cons (l : VoiceLink α) (e : VoiceEvent α) (es : List (VoiceEvent α)) :
    l.after (e :: es) = (l.apply e).after es := by
  cases e with
  | talk =>
    show l.after (.talk :: es) = (l.switch true).after es
    rw [after_switch]
    simp [after, VoiceEvent.words, VoiceEvent.isClose]
  | hush =>
    show l.after (.hush :: es) = (l.switch false).after es
    rw [after_switch]
    simp [after, VoiceEvent.words, VoiceEvent.isClose]
  | frame words =>
    simp [apply, after, VoiceEvent.words, VoiceEvent.isClose]
  | close =>
    -- A close is a setting, and it closes the link besides.
    have hclose : (l.apply .close).after es
        = { (l.switch false).after es with closed := true } := by
      simp [apply, after]
    rw [hclose, after_switch]
    simp [after, VoiceEvent.words, VoiceEvent.isClose]

/-- No event stands behind a close. -/
def ClosesLast (es : List (VoiceEvent α)) : Prop := ∀ e ∈ es.dropLast, e.isClose = false

/-- In the empty run nothing stands behind a close. -/
@[simp] theorem closesLast_nil : ClosesLast ([] : List (VoiceEvent α)) := by
  intro e he
  cases he

/-- A close may only be the last event. -/
theorem closesLast_cons (e : VoiceEvent α) (es : List (VoiceEvent α)) :
    ClosesLast (e :: es) ↔ (e.isClose = true → es = []) ∧ ClosesLast es := by
  cases es with
  | nil => simp [ClosesLast]
  | cons e' es =>
    simp only [ClosesLast, List.dropLast_cons_cons, List.forall_mem_cons, reduceCtorEq, imp_false,
      Bool.not_eq_true]

/-- Nothing but the empty run succeeds on a closed link. -/
theorem tryRun_of_closed {l m : VoiceLink α} (h : l.closed = true)
    {es : List (VoiceEvent α)} : tryRun step l es = .ok m ↔ es = [] ∧ m = l := by
  cases es with
  | nil =>
    rw [tryRun_nil, Except.ok.injEq]
    exact ⟨fun heq => ⟨rfl, heq.symm⟩, fun heq => heq.2.symm⟩
  | cons e es =>
    rw [tryRun_cons_ok]
    constructor
    · rintro ⟨n, hn, -⟩
      rw [step_of_closed h] at hn
      cases hn
    · rintro ⟨hnil, -⟩
      cases hnil

/-- A run on an open link succeeds exactly when no event stands behind a close, and it ends
in the closed form. -/
theorem tryRun_ok_iff {l m : VoiceLink α} (h : l.closed = false)
    (es : List (VoiceEvent α)) : tryRun step l es = .ok m ↔ ClosesLast es ∧ m = l.after es := by
  induction es generalizing l with
  | nil =>
    rw [tryRun_nil, after_nil, Except.ok.injEq]
    exact ⟨fun heq => ⟨closesLast_nil, heq.symm⟩, fun heq => heq.2.symm⟩
  | cons e es ih =>
    have hfirst : tryRun step l (e :: es) = .ok m ↔ tryRun step (l.apply e) es = .ok m := by
      rw [tryRun_cons, step_of_open h]
      rfl
    rw [hfirst, closesLast_cons, after_cons]
    cases hclose : e.isClose with
    | false =>
      have hopen : (l.apply e).closed = false := (apply_closed h e).trans hclose
      simp [ih hopen]
    | true =>
      -- Behind the close there is nothing left.
      have hclosed : (l.apply e).closed = true := (apply_closed h e).trans hclose
      rw [tryRun_of_closed hclosed]
      constructor
      · rintro ⟨rfl, rfl⟩
        exact ⟨⟨fun _ => rfl, closesLast_nil⟩, (after_nil _).symm⟩
      · rintro ⟨⟨hnil, -⟩, rfl⟩
        obtain rfl := hnil rfl
        exact ⟨rfl, after_nil _⟩

end VoiceLink

end XrSpeechAvs
