import XrSpeechAvs.Lib.History
import XrSpeechAvs.Proofs.LimitedInteraction
import XrSpeechAvs.Proofs.ServerMessages
import XrSpeechAvs.Proofs.VoiceLink

/-!
# `XrSpeechAvs.Proofs.ManagerTrace`: what `VoiceToApps` is told, by history

The input manager keeps the latest player activity, and it sends `audioPlaying` along with
each dialog state. Both come from the SDK, and the calls of the application and of the router
run in between. This module describes the input manager by the notifications so far, without
its state.

* `told`: what a notification makes it tell its `VoiceToApps` object, by the ones before.
* `traced_apply`: the step lemma, for one notification.
* `manager_trace`: the law from a successful attempt of `Init` on, over whole runs. What the
  input manager hears in them is known from `XrSpeechAvs.Proofs.InputManagers`. Notifications
  are handled one at a time. `XrSpeechAvs.Proofs.LimitedInteraction` is about those that overlap.

A `FATAL_ERROR` of the capabilities is not heard. So it never limits the interaction, although
`onCapabilitiesStateChange` is there for it.
-/

set_option autoImplicit false

namespace XrSpeechAvs.Proofs

open XrSpeechAvs.Impl
open XrSpeechAvs.Lib

/-! ### The input manager by its history -/

/-- The player activity that a notification brings. -/
def activity : ManagerEvent → Option PlayerActivity
  | .onPlayerActivityChanged state => some state
  | _ => none

/-- The call on the limited interaction flag that a notification is. -/
def observerCall : ManagerEvent → Option ObserverCall
  | .onLogout => some .onLogout
  | .onAuthStateChange newState => some (.onAuthStateChange newState)
  | .onCapabilitiesStateChange newState => some (.onCapabilitiesStateChange newState)
  | _ => none

/-- A notification that limits the interaction. -/
def limits (e : ManagerEvent) : Bool := (observerCall e).any ObserverCall.isLimiting

/-- Playing, buffering or paused. -/
def playing : PlayerActivity → Bool
  | .PLAYING | .BUFFER_UNDERRUN | .PAUSED => true
  | _ => false

/-- What the input manager tells its `VoiceToApps` object on a notification, behind the
notifications `past`. `ioParse` is what the object returned at the start. -/
def told (ioParse : Int) (past : List ManagerEvent) : ManagerEvent → List VtaCall
  | .onDialogUXStateChanged newState =>
    (ThunderInputManager.voiceSDKState newState).toList.map fun state =>
      .handleSDKStateChangeNotification state true (playing (latest activity .IDLE past))
  | .onPlayerActivityChanged state =>
    [.handleAudioPlayerStateChangeNotification (ThunderInputManager.audioPlayerState state)]
  | .renderTemplateCard jsonPayload =>
    if ioParse = 0 then [] else [.curlCmdSendOnRcvMsg jsonPayload]
  | .receive message =>
    if ioParse ≠ 0 ∧ ThunderInputManager.contains message ThunderInputManager.speakKey = true
    then [.curlCmdSendOnRcvMsg message] else []
  | _ => []

/-- The input manager after the notifications `es`. -/
structure Traced (ioParse : Int) (es : List ManagerEvent) (manager : ThunderInputManager) :
    Prop where
  vtaFlag : manager.vtaFlag = ioParse
  playerState : manager.playerState = latest activity .IDLE es
  limited : manager.limitedInteraction = es.any limits
  calls : manager.vta.calls = .ioParse ioParse :: outputs (told ioParse) es

/-- The input manager asks its state, and the state is the latest activity. -/
theorem isAudioPlaying_eq (manager : ThunderInputManager) :
    manager.isAudioPlaying = playing manager.playerState := by
  unfold ThunderInputManager.isAudioPlaying
  cases manager.playerState <;> rfl

section
variable {ioParse : Int} {past : List ManagerEvent} {manager : ThunderInputManager}

/-- A new input manager has no history. -/
theorem traced_new (ioParse : Int) : Traced ioParse [] (.new ioParse) where
  vtaFlag := rfl
  playerState := rfl
  limited := rfl
  calls := rfl

/-- A notification that brings no activity, and that is no call on the flag of the limited
interaction: the history grows by what is told. -/
theorem Traced.tell (h : Traced ioParse past manager) {e : ManagerEvent} {vta : VoiceToApps}
    (hactivity : activity e = none) (hcall : observerCall e = none)
    (hvta : vta.calls = manager.vta.calls ++ told ioParse past e) :
    Traced ioParse (past ++ [e]) { manager with vta := vta } where
  vtaFlag := h.vtaFlag
  playerState := by
    rw [latest_concat, hactivity]
    exact h.playerState
  limited := by
    rw [List.any_append, List.any_cons, limits, hcall]
    simpa using h.limited
  calls := by
    rw [outputs_concat, ← List.cons_append, ← h.calls]
    exact hvta

/-- A call on the flag of the limited interaction. It is told to nobody. -/
theorem Traced.observe (h : Traced ioParse past manager) {e : ManagerEvent} {c : ObserverCall}
    (hcall : observerCall e = some c) (hactivity : activity e = none)
    (htold : told ioParse past e = []) (happly : ∃ limited,
      c.apply manager = { manager with limitedInteraction := limited }) :
    Traced ioParse (past ++ [e]) (c.apply manager) := by
  have hlimited := ObserverCall.apply_limitedInteraction manager c
  obtain ⟨limited, heq⟩ := happly
  rw [heq] at hlimited ⊢
  refine ⟨h.vtaFlag, ?_, ?_, ?_⟩
  · rw [latest_concat, hactivity]
    exact h.playerState
  · rw [List.any_append, List.any_cons, limits, hcall, ← h.limited]
    simpa using hlimited
  · rw [outputs_concat, htold, List.append_nil]
    exact h.calls

/-- The step lemma: a notification makes the history longer by itself. -/
theorem traced_apply (h : Traced ioParse past manager) (e : ManagerEvent) :
    Traced ioParse (past ++ [e]) (e.apply manager) := by
  cases e with
  | onLogout => exact h.observe (c := .onLogout) rfl rfl rfl ⟨_, rfl⟩
  | onAuthStateChange newState =>
    exact h.observe (c := .onAuthStateChange newState) rfl rfl rfl ⟨_, rfl⟩
  | onCapabilitiesStateChange newState =>
    exact h.observe (c := .onCapabilitiesStateChange newState) rfl rfl rfl ⟨_, rfl⟩
  | onDialogUXStateChanged newState =>
    have hplaying : manager.isAudioPlaying = playing (latest activity .IDLE past) := by
      rw [isAudioPlaying_eq, h.playerState]
    show Traced _ _ (manager.notifyDialogUXStateChanged newState)
    unfold ThunderInputManager.notifyDialogUXStateChanged
    -- A state that is not mapped is told to nobody.
    cases hstate : ThunderInputManager.voiceSDKState newState with
    | none => exact h.tell rfl rfl (by simp [told, hstate])
    | some state => exact h.tell rfl rfl (by simp [told, hstate, hplaying])
  | onPlayerActivityChanged state =>
    refine ⟨h.vtaFlag, ?_, ?_, ?_⟩
    · rw [latest_concat]
      rfl
    · have hlimited : (past ++ [ManagerEvent.onPlayerActivityChanged state]).any limits
          = past.any limits := by simp [limits, observerCall]
      rw [hlimited]
      exact h.limited
    · rw [outputs_concat, ← List.cons_append, ← h.calls]
      rfl
  | renderTemplateCard jsonPayload =>
    show Traced _ _ (manager.renderTemplateCard jsonPayload)
    unfold ThunderInputManager.renderTemplateCard
    obtain rfl : manager.vtaFlag = ioParse := h.vtaFlag
    by_cases hflag : manager.vtaFlag = 0
    · rw [if_pos hflag]
      exact h.tell rfl rfl (by simp [told, hflag])
    · rw [if_neg hflag]
      exact h.tell rfl rfl (by simp [told, hflag])
  | receive message =>
    show Traced _ _ (manager.receive message).1
    unfold ThunderInputManager.receive
    obtain rfl : manager.vtaFlag = ioParse := h.vtaFlag
    by_cases hflag : manager.vtaFlag = 0
    · rw [if_pos hflag]
      exact h.tell rfl rfl (by simp [told, hflag])
    · rw [if_neg hflag]
      by_cases hkey : ThunderInputManager.contains message ThunderInputManager.speakKey = true
      · rw [if_pos hkey]
        exact h.tell rfl rfl (by simp [told, hflag, hkey])
      · rw [if_neg hkey]
        exact h.tell rfl rfl (by simp [told, hkey])

end

/-- Over any notifications, a new input manager is described by them. -/
theorem traced_run (ioParse : Int) (es : List ManagerEvent) :
    Traced ioParse es (run ManagerEvent.apply (.new ioParse) es) :=
  history_run (traced_new ioParse) (fun _ _ e h => traced_apply h e) es

/-! ### The input manager in the system -/

/-- The notification that the input manager of a successful attempt hears in an event. -/
def managerEvents (attempt : Nat) (e : SystemEvent) : List ManagerEvent :=
  (notifications attempt e).filter heard

/-- Without another attempt, there are no more entries. -/
theorem no_attempts_run {s t : System} {i : Nat} {es : List SystemEvent}
    (hnone : s.attempts[i]? = none) (hno : ∀ e ∈ es, NoAttempt e)
    (ht : tryRun System.step s es = .ok t) : t.attempts[i]? = none := by
  refine tryRun_invariant_of (I := fun s => s.attempts[i]? = none)
    (C := fun _ e => NoAttempt e) (fun s e t hs he hstep => ?_) hnone
    (tryEachStep_of_forall_mem hno) ht
  rw [attempts_step he hstep, hs]
  rfl

/-- From any state that the system reaches, a successful attempt of `Init` makes an input manager
that is described by its notifications: over every run, whatever the application, the router and
the video skill do in between, and also over other attempts, it has told its `VoiceToApps` object
what the notifications that it hears say, and nothing else. It is `m_thunderInputManager` as long
as there is no other attempt. The notifications come one at a time. -/
theorem manager_trace (first es : List SystemEvent) (env : InitEnv) {before s t : System}
    (hfirst : tryRun System.step System.init first = .ok before)
    (hattempt : ∃ p screen, before.liveScreen = some (p, screen) ∧
      (init env screen).1 = .ret true)
    (hinit : before.step (.init env) = .ok s) (ht : tryRun System.step s es = .ok t) :
    ∃ manager, t.manager before.attempts.length = some manager ∧
      Traced env.ioParse (es.flatMap (managerEvents before.attempts.length)) manager ∧
      ((∀ e ∈ es, NoAttempt e) → ∀ p screen, t.liveScreen = some (p, screen) →
        screen.thunderInputManager = some manager) := by
  obtain ⟨p, screen, hlive, htrue⟩ := hattempt
  have hmanager := manager_run_of_true hlive htrue hinit ht
  have hshared := shared_of_attempt hfirst hinit ht
  have hheard : es.flatMap (managerEvents before.attempts.length)
      = (es.flatMap (notifications before.attempts.length)).filter heard :=
    (List.filter_flatMap ..).symm
  refine ⟨_, hmanager, hheard ▸ traced_run env.ioParse _, fun hno q last hlast => ?_⟩
  -- This attempt is the last one that has made an input manager.
  have hmade : LastMade t before.attempts.length := by
    refine ⟨by rw [hmanager]; rfl, fun j hj => Nat.le_of_not_lt fun hlt => ?_⟩
    have hbeyond : t.attempts[j]? = none := no_attempts_run ?_ hno ht
    · rw [System.manager, hbeyond] at hj
      cases hj
    · obtain rfl := System.attemptInit_live hlive hinit
      exact List.getElem?_eq_none (by rw [System.withAttempt, List.length_append]; exact hlt)
  rw [hshared.member q last hlast, (hshared.current _).mpr hmade, Option.bind_some, hmanager]

/-- A stream while music plays, with a template card and a `FATAL_ERROR` that are not heard. -/
def musicSession : List SystemEvent :=
  [.notify 0 (.onDialogUXStateChanged .LISTENING), .call .voiceStart,
    .notify 0 (.onPlayerActivityChanged .PLAYING), .notify 0 (.renderTemplateCard ['c']),
    .call .voiceStop, .notify 0 (.onCapabilitiesStateChange .FATAL_ERROR),
    .notify 0 (.onDialogUXStateChanged .FINISHED), .notify 0 (.onDialogUXStateChanged .IDLE)]

/-- The law for that session: the second dialog state comes with the music. -/
theorem manager_trace_musicSession :
    ∃ t p screen manager, tryRun System.step System.init
        (.call (.avsInitialize 1) :: .init ledsEnv :: musicSession) = .ok t ∧
      t.liveScreen = some (p, screen) ∧ screen.thunderInputManager = some manager ∧
      manager.limitedInteraction = false ∧ manager.vta.calls
        = [.ioParse 1, .handleSDKStateChangeNotification .VTA_LISTENING true false,
          .handleAudioPlayerStateChangeNotification .PLAYING,
          .handleSDKStateChangeNotification .VTA_IDLE true true] := by
  have hsome : ((tryRun System.step System.init
      (.call (.avsInitialize 1) :: .init ledsEnv :: musicSession)).toOption.bind
        System.liveScreen).isSome = true := by
    decide +kernel
  cases hrun : tryRun System.step System.init
      (.call (.avsInitialize 1) :: .init ledsEnv :: musicSession) with
  | error f =>
    rw [hrun] at hsome
    cases hsome
  | ok t =>
    rw [hrun] at hsome
    obtain ⟨⟨p, screen⟩, hlive⟩ := Option.isSome_iff_exists.mp hsome
    obtain ⟨before, hbefore, hrest⟩ := tryRun_cons_ok.mp hrun
    obtain ⟨s, hs, ht⟩ := tryRun_cons_ok.mp hrest
    have hattempt : ∃ p screen, before.liveScreen = some (p, screen) ∧
        (init ledsEnv screen).1 = .ret true := by
      obtain rfl := Except.ok.inj hbefore
      exact ⟨1, .new, rfl, rfl⟩
    have hfirst : before.attempts.length = 0 := by
      obtain rfl := Except.ok.inj hbefore
      rfl
    have hno : ∀ e ∈ musicSession, NoAttempt e := by
      simp [musicSession, NoAttempt]
    obtain ⟨manager, -, htraced, hmember⟩ := manager_trace [.call (.avsInitialize 1)]
      musicSession ledsEnv hbefore hattempt hs ht
    rw [hfirst] at htraced
    refine ⟨t, p, screen, manager, rfl, hlive, hmember hno p screen hlive, ?_, ?_⟩
    · exact htraced.limited.trans (by decide)
    · exact htraced.calls.trans (by decide)

end XrSpeechAvs.Proofs
