import XrSpeechAvs.Proofs.InitMembers

/-!
# `XrSpeechAvs.Proofs.VoiceToApps`: the two `voiceToApps` objects

A `voiceToApps` object reads its settings in `ioParse`. It may be used after an `ioParse`
that returned a value other than zero (`usedAfterParse`). There are two such objects. The
one of the input manager is parsed in the constructor of the manager, and the result is
kept in `m_vtaFlag`. The one of the smart screen is never parsed.

* `init_vta`: what `SmartScreen::Init` does to the two objects.
* `onEvent_calls`: what an event of the SDK does to the one of the manager.
* `screenVta_lawful_iff` and `managerVta_lawful_iff`: over any run of attempts and events,
  the exact steps under which each of the two is used lawfully.
* `vta_lawful_iff`: both together.
* `unparsed_vta_is_used`: both laws broken on short runs.
-/

set_option autoImplicit false

namespace XrSpeechAvs.Proofs

open XrSpeechAvs.Impl
open XrSpeechAvs.Lib

/-! ### The law -/

/-- Every use comes after an `ioParse` with a result other than zero. `parsed` says whether
there has been one before the list. -/
def usedAfterParse (parsed : Bool) : List VtaCall → Bool
  | [] => true
  | .ioParse result :: cs => usedAfterParse (parsed || result != 0) cs
  | .handleSDKStateChangeNotification _ _ _ :: cs => parsed && usedAfterParse parsed cs
  | .handleAudioPlayerStateChangeNotification _ :: cs => parsed && usedAfterParse parsed cs
  | .curlCmdSendOnRcvMsg _ :: cs => parsed && usedAfterParse parsed cs

/-- A call that is not an `ioParse`. -/
def isUse : VtaCall → Bool
  | .ioParse _ => false
  | _ => true

/-- After a successful `ioParse` every call is lawful. -/
theorem usedAfterParse_true (cs : List VtaCall) : usedAfterParse true cs = true := by
  induction cs with
  | nil => rfl
  | cons c cs ih => cases c <;> simp [usedAfterParse, ih]

/-- An object that is never parsed may not be used. -/
theorem usedAfterParse_uses {cs : List VtaCall} (h : ∀ c ∈ cs, isUse c = true) :
    usedAfterParse false cs = true ↔ cs = [] := by
  cases cs with
  | nil => simp [usedAfterParse]
  | cons c cs =>
    have hc : isUse c = true := h c (List.mem_cons_self ..)
    cases c <;> simp_all [usedAfterParse, isUse]

/-- An object that is parsed once and first may be used when the result is not zero. -/
theorem usedAfterParse_parsed {result : Int} {cs : List VtaCall}
    (h : ∀ c ∈ cs, isUse c = true) :
    usedAfterParse false (.ioParse result :: cs) = true ↔ result ≠ 0 ∨ cs = [] := by
  by_cases hr : result = 0
  · subst hr
    show usedAfterParse false cs = true ↔ _
    rw [usedAfterParse_uses h]
    simp
  · have hne : (result != 0) = true := by simpa using hr
    show usedAfterParse (false || (result != 0)) cs = true ↔ _
    rw [hne, Bool.false_or, usedAfterParse_true]
    simp [hr]

/-- The manager uses its object lawfully. When `ioParse` returned zero, nothing but that
call is made on it. -/
structure ManagerLawful (manager : ThunderInputManager) : Prop where
  used : usedAfterParse false manager.vta.calls = true
  silent : manager.vtaFlag = 0 → manager.vta.calls = [.ioParse 0]

/-- The object of the smart screen is used lawfully. -/
def ScreenVtaLawful (s : SmartScreen) : Prop := usedAfterParse false s.vta.calls = true

/-- The object of the input manager, if there is one, is used lawfully. -/
def ManagerVtaLawful (s : SmartScreen) : Prop :=
  ∀ manager, s.thunderInputManager = some manager → ManagerLawful manager

/-- Both objects are used lawfully. -/
def VtaLawful (s : SmartScreen) : Prop := ScreenVtaLawful s ∧ ManagerVtaLawful s

/-! ### The runs -/

/-- An event of the SDK for the input manager. -/
inductive ObserverEvent where
  | onDialogUXStateChanged (newState : DialogUXState)
  | onPlayerActivityChanged (state : PlayerActivity)
  | renderTemplateCard (jsonPayload : Text)
  | receive (message : Text)
  deriving DecidableEq, Repr

/-- An event at the input manager. -/
def onEvent (manager : ThunderInputManager) : ObserverEvent → ThunderInputManager
  | .onDialogUXStateChanged newState => manager.onDialogUXStateChanged newState
  | .onPlayerActivityChanged state => manager.onPlayerActivityChanged state
  | .renderTemplateCard jsonPayload => manager.renderTemplateCard jsonPayload
  | .receive message => (manager.receive message).1

/-- An attempt of `SmartScreen::Init`, or an event. -/
inductive VtaEvent where
  | init (env : InitEnv)
  | observe (event : ObserverEvent)

/-- One step. An event does nothing when there is no input manager yet. -/
def vtaStep (s : SmartScreen) : VtaEvent → SmartScreen
  | .init env => attempt s env
  | .observe event => { s with
      thunderInputManager := s.thunderInputManager.map fun manager => onEvent manager event }

/-- `Init` comes to the input manager. -/
def ReachesManager (env : InitEnv) (pool : List Obj) : Prop :=
  ReachesVoice env pool ∧ env.guiManager.isSome = true ∧ env.client.isSome = true ∧
    env.shutdownManager.isSome = true

/-- `Init` comes to its end: every test holds. -/
def ReachesEnd (env : InitEnv) (pool : List Obj) : Prop :=
  ReachesVoice env pool ∧ env.guiManager.isSome = true ∧
    passes (guards (clientLines env)) = true

/-- The events that make no call on an object whose `ioParse` returned zero. -/
def QuietEvent : ObserverEvent → Prop
  | .onDialogUXStateChanged newState => ThunderInputManager.voiceSDKState newState = none
  | .onPlayerActivityChanged _ => False
  | .renderTemplateCard _ => True
  | .receive _ => True

/-- The steps that keep the law for the object of the smart screen: an attempt must not
come to its end. -/
def ScreenStepOk (s : SmartScreen) : VtaEvent → Prop
  | .init env => ¬ ReachesEnd env s.audioMediaPlayerPool
  | .observe _ => True

/-- The steps that keep the law for the object of the manager: an event must be quiet while
`m_vtaFlag` is zero. -/
def ManagerStepOk (s : SmartScreen) : VtaEvent → Prop
  | .init _ => True
  | .observe event => ∀ manager, s.thunderInputManager = some manager →
      manager.vtaFlag = 0 → QuietEvent event

/-- The steps that keep both laws. -/
def VtaStepOk (s : SmartScreen) (e : VtaEvent) : Prop := ScreenStepOk s e ∧ ManagerStepOk s e

/-! ### What an event does -/

/-- An event keeps the flag and adds uses. While the flag is zero it adds none exactly when
it is quiet. -/
theorem onEvent_calls (manager : ThunderInputManager) (e : ObserverEvent) :
    ∃ new, (onEvent manager e).vta.calls = manager.vta.calls ++ new ∧
      (∀ c ∈ new, isUse c = true) ∧ (onEvent manager e).vtaFlag = manager.vtaFlag ∧
      (manager.vtaFlag = 0 → (new = [] ↔ QuietEvent e)) := by
  -- An event that is ignored adds nothing.
  have hignored : onEvent manager e = manager → (manager.vtaFlag = 0 → QuietEvent e) →
      ∃ new, (onEvent manager e).vta.calls = manager.vta.calls ++ new ∧
        (∀ c ∈ new, isUse c = true) ∧ (onEvent manager e).vtaFlag = manager.vtaFlag ∧
        (manager.vtaFlag = 0 → (new = [] ↔ QuietEvent e)) := by
    intro hsame hquiet
    rw [hsame]
    refine ⟨[], (List.append_nil _).symm, ?_, rfl, ?_⟩
    · intro c hc
      cases hc
    · intro hzero
      exact ⟨fun _ => hquiet hzero, fun _ => rfl⟩
  cases e with
  | onDialogUXStateChanged newState =>
    -- The test of the flag only logs, so the mapping of the state decides.
    have hrun : onEvent manager (.onDialogUXStateChanged newState)
        = manager.notifyDialogUXStateChanged newState := rfl
    unfold ThunderInputManager.notifyDialogUXStateChanged at hrun
    cases hstate : ThunderInputManager.voiceSDKState newState with
    | none =>
      rw [hstate] at hrun
      exact hignored hrun fun _ => hstate
    | some state =>
      rw [hstate] at hrun
      rw [hrun]
      refine ⟨[.handleSDKStateChangeNotification state true manager.isAudioPlaying], rfl, ?_,
        rfl, fun _ => ?_⟩
      · simp [isUse]
      · simp [QuietEvent, hstate]
  | onPlayerActivityChanged state =>
    refine ⟨[.handleAudioPlayerStateChangeNotification
      (ThunderInputManager.audioPlayerState state)], rfl, ?_, rfl, fun _ => ?_⟩
    · simp [isUse]
    · simp [QuietEvent]
  | renderTemplateCard jsonPayload =>
    by_cases hflag : manager.vtaFlag = 0
    · exact hignored (if_pos hflag) fun _ => trivial
    · have hrun : onEvent manager (.renderTemplateCard jsonPayload)
          = { manager with vta := manager.vta.call (.curlCmdSendOnRcvMsg jsonPayload) } :=
        if_neg hflag
      rw [hrun]
      refine ⟨[.curlCmdSendOnRcvMsg jsonPayload], rfl, ?_, rfl, fun hzero => absurd hzero hflag⟩
      simp [isUse]
  | receive message =>
    have hrun : onEvent manager (.receive message) = (manager.receive message).1 := rfl
    unfold ThunderInputManager.receive at hrun
    by_cases hflag : manager.vtaFlag = 0
    · rw [if_pos hflag] at hrun
      exact hignored hrun fun _ => trivial
    · rw [if_neg hflag] at hrun
      by_cases hkey : ThunderInputManager.contains message ThunderInputManager.speakKey = true
      · rw [if_pos hkey] at hrun
        rw [hrun]
        refine ⟨[.curlCmdSendOnRcvMsg message], rfl, ?_, rfl, fun hzero => absurd hzero hflag⟩
        simp [isUse]
      · rw [if_neg hkey] at hrun
        exact hignored hrun fun _ => trivial

/-! ### What an attempt does -/

/-- What the last part does to the two objects, on a `GUIManager`. -/
theorem initClient_vta (env : InitEnv) (s : SmartScreen) (guiManager : Obj)
    (h : s.guiManager = some guiManager) :
    (initClient env s).2.thunderInputManager
      = (if env.client.isSome && env.shutdownManager.isSome
          then some (.new env.ioParse) else s.thunderInputManager) ∧
    (initClient env s).2.vta
      = if passes (guards (clientLines env))
          then s.vta.call (.handleSDKStateChangeNotification .VTA_INIT true false)
          else s.vta := by
  cases s
  dsimp only at h
  subst h
  unfold initClient clientLines check need
  -- Each test either ends the part, or the next one decides.
  generalize env.client.isSome = client
  generalize env.shutdownManager.isSome = shutdownManager
  generalize env.registrationManager.isSome = registrationManager
  generalize env.guiClientStarts = starts
  generalize env.registrationManagerAgain.isSome = again
  cases client with
  | false => exact ⟨rfl, rfl⟩
  | true =>
    cases shutdownManager with
    | false => exact ⟨rfl, rfl⟩
    | true =>
      cases registrationManager with
      | false => exact ⟨rfl, rfl⟩
      | true =>
        cases starts with
        | false => exact ⟨rfl, rfl⟩
        | true => cases again <;> exact ⟨rfl, rfl⟩

/-- The last two parts of `Init`, on a stream: without a `GUIManager` the objects stay, and
with one the client part decides. -/
theorem initRest_vta (env : InitEnv) (t : SmartScreen) (stream : AudioInputStream)
    (h : env.sharedDataStream = some stream) :
    (initRest env t).2.thunderInputManager
      = (if env.guiManager.isSome && (env.client.isSome && env.shutdownManager.isSome)
          then some (.new env.ioParse) else t.thunderInputManager) ∧
    (initRest env t).2.vta
      = if env.guiManager.isSome && passes (guards (clientLines env))
          then t.vta.call (.handleSDKStateChangeNotification .VTA_INIT true false)
          else t.vta := by
  have hvoice := initVoice_run env t stream h
  cases hmanager : env.guiManager with
  | none =>
    -- The interaction handler refuses the null manager, and `Init` returns.
    rw [hmanager] at hvoice
    have hret : (initVoice env t).1 = .ret false := by
      rw [hvoice]
      simp [voiceLines, check, hmanager]
    have hrest : initRest env t = (.ret false, (initVoice env t).2) :=
      Script.bind_of_ret _ hret
    rw [hrest, hvoice]
    exact ⟨rfl, rfl⟩
  | some guiManager =>
    rw [hmanager] at hvoice
    have hnext : (initVoice env t).1 = .next () := by
      rw [hvoice]
      simp [voiceLines, check, hmanager]
    have hrest : initRest env t
        = (initClient env >>= fun _ => Script.ret true) (withVoice t stream (some guiManager)) := by
      have hbind : initRest env t
          = (initClient env >>= fun _ => Script.ret true) (initVoice env t).2 :=
        Script.bind_of_next _ hnext
      rw [hbind, hvoice]
    -- The return at the end keeps the state.
    have hlast : (initRest env t).2
        = (initClient env (withVoice t stream (some guiManager))).2 := by
      have hkeeps : ∀ _ : Unit, Keeps id (Script.ret true : InitM Unit) := fun _ => Keeps.ret true
      rw [hrest]
      exact proj_bind_of_keeps hkeeps _
    rw [hlast]
    exact initClient_vta env (withVoice t stream (some guiManager)) guiManager rfl

/-- What an attempt does to the two objects. When it comes to the input manager, a new one
parses its own object. When it comes to its end, it uses the object of the smart screen. -/
structure AttemptVta (s : SmartScreen) (env : InitEnv) : Prop where
  manager_new : ReachesManager env s.audioMediaPlayerPool →
    (attempt s env).thunderInputManager = some (.new env.ioParse)
  manager_kept : ¬ ReachesManager env s.audioMediaPlayerPool →
    (attempt s env).thunderInputManager = s.thunderInputManager
  screen_used : ReachesEnd env s.audioMediaPlayerPool →
    (attempt s env).vta = s.vta.call (.handleSDKStateChangeNotification .VTA_INIT true false)
  screen_kept : ¬ ReachesEnd env s.audioMediaPlayerPool → (attempt s env).vta = s.vta

/-- Every attempt does to the two objects what `AttemptVta` says. -/
theorem init_vta (s : SmartScreen) (env : InitEnv) : AttemptVta s env := by
  by_cases hreach : ReachesVoice env s.audioMediaPlayerPool
  · -- The parts up to here have left both objects as they were.
    obtain ⟨stream, t, hstream, hlate, hinit⟩ := init_of_reached hreach
    have hmanager : t.thunderInputManager = s.thunderInputManager :=
      congrArg LateMembers.thunderInputManager hlate
    have hvta : t.vta = s.vta := congrArg LateMembers.vta hlate
    obtain ⟨hnewManager, hnewVta⟩ := initRest_vta env t stream hstream
    rw [← hinit, hmanager] at hnewManager
    rw [← hinit, hvta] at hnewVta
    refine ⟨fun h => ?_, fun h => ?_, fun h => ?_, fun h => ?_⟩
    · obtain ⟨-, hgui, hclient, hshutdown⟩ := h
      rw [hgui, hclient, hshutdown] at hnewManager
      exact hnewManager
    · have hnot : ¬ (env.guiManager.isSome
          && (env.client.isSome && env.shutdownManager.isSome)) = true := by
        intro hall
        simp only [Bool.and_eq_true] at hall
        exact h ⟨hreach, hall⟩
      rw [if_neg hnot] at hnewManager
      exact hnewManager
    · obtain ⟨-, hgui, hpasses⟩ := h
      rw [hgui, hpasses] at hnewVta
      exact hnewVta
    · have hnot : ¬ (env.guiManager.isSome && passes (guards (clientLines env))) = true := by
        intro hall
        rw [Bool.and_eq_true] at hall
        exact h ⟨hreach, hall⟩
      rw [if_neg hnot] at hnewVta
      exact hnewVta
  · have hlate : late (attempt s env) = late s := init_of_not_reached hreach
    refine ⟨fun h => absurd h.1 hreach, fun _ => ?_, fun h => absurd h.1 hreach, fun _ => ?_⟩
    · exact congrArg LateMembers.thunderInputManager hlate
    · exact congrArg LateMembers.vta hlate

/-! ### The law over runs -/

/-- In every state, the object of the smart screen has no `ioParse` at all. The object of a
manager has one, at its start, and its result is the flag. -/
structure VtaInvariant (s : SmartScreen) : Prop where
  screen : ∀ c ∈ s.vta.calls, isUse c = true
  manager : ∀ manager, s.thunderInputManager = some manager →
    ∃ uses, manager.vta.calls = .ioParse manager.vtaFlag :: uses ∧ ∀ c ∈ uses, isUse c = true

/-- Under the invariant, the object of the smart screen may not be used at all. -/
theorem screenVtaLawful_iff {s : SmartScreen} (h : VtaInvariant s) :
    ScreenVtaLawful s ↔ s.vta.calls = [] := usedAfterParse_uses h.screen

/-- Under the invariant, the object of the manager may not be used while the flag is
zero. -/
theorem managerVtaLawful_iff {s : SmartScreen} (h : VtaInvariant s) :
    ManagerVtaLawful s ↔ ∀ manager, s.thunderInputManager = some manager →
      manager.vtaFlag = 0 → manager.vta.calls = [.ioParse 0] := by
  constructor
  · intro hlaw manager hmanager
    exact (hlaw manager hmanager).silent
  · intro hquiet manager hmanager
    have hsilent := hquiet manager hmanager
    obtain ⟨uses, hcalls, huses⟩ := h.manager manager hmanager
    refine ⟨?_, hsilent⟩
    rw [hcalls, usedAfterParse_parsed huses]
    -- Either the parse succeeded, or there is no use after it.
    by_cases hzero : manager.vtaFlag = 0
    · have hnone := hsilent hzero
      rw [hcalls] at hnone
      exact Or.inr (List.cons.inj hnone).2
    · exact Or.inl hzero

/-- Every step keeps the invariant. -/
theorem vtaInvariant_step (s : SmartScreen) (e : VtaEvent) (h : VtaInvariant s) :
    VtaInvariant (vtaStep s e) := by
  cases e with
  | init env =>
    have hattempt := init_vta s env
    refine ⟨fun c hc => ?_, fun manager hmanager => ?_⟩
    · show isUse c = true
      have hc : c ∈ (attempt s env).vta.calls := hc
      by_cases hend : ReachesEnd env s.audioMediaPlayerPool
      · rw [hattempt.screen_used hend, VoiceToApps.calls_call, List.mem_append] at hc
        cases hc with
        | inl hold => exact h.screen c hold
        | inr hnew =>
          rw [List.mem_singleton.mp hnew]
          rfl
      · rw [hattempt.screen_kept hend] at hc
        exact h.screen c hc
    · have hmanager : (attempt s env).thunderInputManager = some manager := hmanager
      by_cases hreach : ReachesManager env s.audioMediaPlayerPool
      · rw [hattempt.manager_new hreach] at hmanager
        obtain rfl := Option.some.inj hmanager
        exact ⟨[], rfl, fun c hc => by cases hc⟩
      · rw [hattempt.manager_kept hreach] at hmanager
        exact h.manager manager hmanager
  | observe event =>
    refine ⟨h.screen, fun manager hmanager => ?_⟩
    obtain ⟨old, hold, hevent⟩ := Option.map_eq_some_iff.mp hmanager
    obtain ⟨uses, hcalls, huses⟩ := h.manager old hold
    obtain ⟨new, hnew, hnewUses, hflag, -⟩ := onEvent_calls old event
    rw [← hevent]
    -- The uses of the event come behind the old ones.
    refine ⟨uses ++ new, ?_, fun c hc => ?_⟩
    · rw [hnew, hcalls, hflag, List.cons_append]
    · cases List.mem_append.mp hc with
      | inl hin => exact huses c hin
      | inr hin => exact hnewUses c hin

/-- The law for the object of the smart screen survives a step exactly when the step is
`ScreenStepOk`. -/
theorem screenVtaLawful_step_iff (s : SmartScreen) (e : VtaEvent) (hI : VtaInvariant s)
    (h : ScreenVtaLawful s) : ScreenVtaLawful (vtaStep s e) ↔ ScreenStepOk s e := by
  rw [screenVtaLawful_iff (vtaInvariant_step s e hI)]
  have hunused : s.vta.calls = [] := (screenVtaLawful_iff hI).mp h
  cases e with
  | init env =>
    have hattempt := init_vta s env
    show (attempt s env).vta.calls = [] ↔ ¬ ReachesEnd env s.audioMediaPlayerPool
    constructor
    · intro hafter hend
      -- The end uses the object of the smart screen.
      rw [hattempt.screen_used hend, VoiceToApps.calls_call, hunused] at hafter
      cases hafter
    · intro hend
      rw [hattempt.screen_kept hend, hunused]
  | observe event => exact ⟨fun _ => trivial, fun _ => hunused⟩

/-- The law for the object of the manager survives a step exactly when the step is
`ManagerStepOk`. -/
theorem managerVtaLawful_step_iff (s : SmartScreen) (e : VtaEvent) (hI : VtaInvariant s)
    (h : ManagerVtaLawful s) : ManagerVtaLawful (vtaStep s e) ↔ ManagerStepOk s e := by
  rw [managerVtaLawful_iff (vtaInvariant_step s e hI)]
  have hsilent := (managerVtaLawful_iff hI).mp h
  cases e with
  | init env =>
    have hattempt := init_vta s env
    refine ⟨fun _ => trivial, fun _ manager hmanager hzero => ?_⟩
    have hmanager : (attempt s env).thunderInputManager = some manager := hmanager
    -- A new manager has parsed its object and nothing else.
    by_cases hreach : ReachesManager env s.audioMediaPlayerPool
    · rw [hattempt.manager_new hreach] at hmanager
      obtain rfl := Option.some.inj hmanager
      have hparse : env.ioParse = 0 := hzero
      show [VtaCall.ioParse env.ioParse] = [.ioParse 0]
      rw [hparse]
    · rw [hattempt.manager_kept hreach] at hmanager
      exact hsilent manager hmanager hzero
  | observe event =>
    constructor
    · intro hafter manager hmanager hzero
      obtain ⟨new, hnew, -, hflag, hquiet⟩ := onEvent_calls manager event
      have hnext : (vtaStep s (.observe event)).thunderInputManager
          = some (onEvent manager event) := by
        show s.thunderInputManager.map _ = _
        rw [hmanager]
        rfl
      -- Both lists of calls are the single `ioParse`.
      have hcalls := hafter (onEvent manager event) hnext (hflag.trans hzero)
      rw [hnew, hsilent manager hmanager hzero] at hcalls
      have hnone : new = [] := List.append_right_eq_self.mp hcalls
      exact (hquiet hzero).mp hnone
    · intro hok manager hmanager hzero
      obtain ⟨old, hold, rfl⟩ := Option.map_eq_some_iff.mp hmanager
      obtain ⟨new, hnew, -, hflag, hquiet⟩ := onEvent_calls old event
      have hold0 : old.vtaFlag = 0 := hflag.symm.trans hzero
      have hnone : new = [] := (hquiet hold0).mpr (hok old hold hold0)
      rw [hnew, hnone, List.append_nil]
      exact hsilent old hold hold0

/-- A constructed smart screen has made no call. -/
theorem vtaInvariant_new : VtaInvariant .new := by
  refine ⟨fun c hc => ?_, fun manager hmanager => ?_⟩
  · cases hc
  · cases hmanager

/-- In every run of attempts and events, the object of the smart screen is used lawfully in
every state exactly when no attempt comes to its end. -/
theorem screenVta_lawful_iff (es : List VtaEvent) :
    Throughout vtaStep ScreenVtaLawful .new es ↔ EachStep vtaStep ScreenStepOk .new es :=
  throughout_iff_eachStep (I := VtaInvariant) (A := fun _ _ => True)
    (fun s e hI _ => vtaInvariant_step s e hI)
    (fun s e hI h _ => screenVtaLawful_step_iff s e hI h) vtaInvariant_new rfl
    (eachStep_of_forall (fun _ _ => trivial) _ _)

/-- In every run of attempts and events, the object of the input manager is used lawfully in
every state exactly when every event is quiet that comes while the flag is zero. -/
theorem managerVta_lawful_iff (es : List VtaEvent) :
    Throughout vtaStep ManagerVtaLawful .new es ↔ EachStep vtaStep ManagerStepOk .new es := by
  have hnew : ManagerVtaLawful .new := by
    intro manager hmanager
    cases hmanager
  exact throughout_iff_eachStep (I := VtaInvariant) (A := fun _ _ => True)
    (fun s e hI _ => vtaInvariant_step s e hI)
    (fun s e hI h _ => managerVtaLawful_step_iff s e hI h) vtaInvariant_new hnew
    (eachStep_of_forall (fun _ _ => trivial) _ _)

/-- In every run of attempts of `Init`, with any outcomes, and of events of the SDK: the two
objects are used lawfully in every state exactly when every step is `VtaStepOk`. -/
theorem vta_lawful_iff (es : List VtaEvent) :
    Throughout vtaStep VtaLawful .new es ↔ EachStep vtaStep VtaStepOk .new es := by
  have hlaw : Throughout vtaStep VtaLawful .new es
      ↔ Throughout vtaStep ScreenVtaLawful .new es
        ∧ Throughout vtaStep ManagerVtaLawful .new es := throughout_and
  have hok : EachStep vtaStep VtaStepOk .new es
      ↔ EachStep vtaStep ScreenStepOk .new es ∧ EachStep vtaStep ManagerStepOk .new es :=
    eachStep_and
  rw [hlaw, hok, screenVta_lawful_iff, managerVta_lawful_iff]

/-- An attempt that returns true has used the object of the smart screen, which was never
parsed. When `ioParse` returned zero in it, a player event and a dialog event use the object
of the manager. -/
theorem unparsed_vta_is_used :
    (run vtaStep .new [.init (fullEnv (smallConfig 1 ['6']))]).vta.calls
      = [.handleSDKStateChangeNotification .VTA_INIT true false] ∧
    (run vtaStep .new [.init (fullEnv (smallConfig 1 ['6'])),
        .observe (.onPlayerActivityChanged .PLAYING),
        .observe (.onDialogUXStateChanged .LISTENING)]).thunderInputManager.map
        (fun manager => (manager.vtaFlag, manager.vta.calls))
      = some (0, [.ioParse 0, .handleAudioPlayerStateChangeNotification .PLAYING,
          .handleSDKStateChangeNotification .VTA_LISTENING true true]) ∧
    ¬ Throughout vtaStep VtaLawful .new [.init (fullEnv (smallConfig 1 ['6']))] ∧
    ¬ Throughout vtaStep ManagerVtaLawful .new
      [.init (fullEnv (smallConfig 1 ['6'])), .observe (.onPlayerActivityChanged .PLAYING)] := by
  refine ⟨rfl, rfl, fun h => ?_, fun h => ?_⟩
  · -- The object of the smart screen has a call and was never parsed.
    have hscreen : ScreenVtaLawful _ := h.last.1
    cases hscreen
  · have hsilent := (h.last _ rfl).silent rfl
    cases hsilent

end XrSpeechAvs.Proofs
