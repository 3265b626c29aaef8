import XrSpeechAvs.Lib.History
import XrSpeechAvs.Proofs.InitFlag
import XrSpeechAvs.Proofs.VoicePart

/-!
# `XrSpeechAvs.Proofs.SdkTrace`: what the SDK is given, by history

Three things decide what the SDK is given: the flag of the transmission, the `GUIManager` that
the interaction handler is bound to, and whether there is a writer. The flag is set by the
begins and ends of streams, and the other two by the attempts of `Init` that come to
`initVoice`, whether they succeed or not. `SdkEvent` has these events and the frames.

The law is in terms of the events so far. A setting of the flag that changes it is one toggle
of the manager attached last, if that is not null (`toggled`). A frame is written when the
attempt that attached last got a writer (`written`). `sdk_trace` says that the SDK is given
this and nothing else, in every run, whatever attempts it makes. The events of a run come one at
a time, its attempts return true or false, and its deletions are taken to complete.

`sdk_silent` is what this means for a run without such an attempt. The exported functions make
no attempt, so they alone never reach the SDK.
-/

set_option autoImplicit false

namespace XrSpeechAvs.Proofs

open XrSpeechAvs.Impl
open XrSpeechAvs.Lib

/-! ### The events and the account -/

/-- What matters to the SDK. -/
inductive SdkEvent where
  /-- An attempt comes to `initVoice`, with a `GUIManager` or none, and with a writer or none. -/
  | attach (manager : Option Obj) (writes : Bool)
  /-- A stream begins or ends, or the smart screen is torn down. -/
  | flag (on : Bool)
  | frame (words : List Word)
  deriving DecidableEq, Repr

namespace SdkEvent

/-- The setting of the flag. -/
def setting : SdkEvent → Option Bool
  | .flag on => some on
  | _ => none

/-- The manager that is attached, which may be null. -/
def target : SdkEvent → Option (Option Obj)
  | .attach manager _ => some manager
  | _ => none

/-- Whether there is a writer from here on. -/
def writing : SdkEvent → Option Bool
  | .attach _ writes => some writes
  | _ => none

end SdkEvent

/-- The managers that an event toggles, behind the events `past`. -/
def toggled (past : List SdkEvent) : SdkEvent → List Obj
  | .flag on =>
    if on = latest SdkEvent.setting false past then []
    else (latest SdkEvent.target none past).toList
  | _ => []

/-- The words that an event writes, behind the events `past`. -/
def written (past : List SdkEvent) : SdkEvent → List Word
  | .frame words => if latest SdkEvent.writing false past then words else []
  | _ => []

/-- Whether an attempt comes to `initVoice`. -/
def reachesVoice (env : InitEnv) (pool : List Obj) : Bool :=
  passes (guards (configLines env)) && env.configEntry.any fun appConfig =>
    passes (guards (frontLines env appConfig pool))

/-- The test decides whether an attempt comes to `initVoice`. -/
theorem reachesVoice_iff (env : InitEnv) (pool : List Obj) :
    reachesVoice env pool = true ↔ ReachesVoice env pool := by
  unfold reachesVoice ReachesVoice
  rw [Bool.and_eq_true]
  cases env.configEntry <;> simp

/-- An attempt that comes there. -/
def attached (env : InitEnv) : SdkEvent :=
  .attach env.guiManager (env.sharedDataStream.bind AudioInputStream.createWriter).isSome

/-- The events of an attempt on a smart screen. -/
def attemptSdk (env : InitEnv) (screen : SmartScreen) : List SdkEvent :=
  if reachesVoice env screen.audioMediaPlayerPool then [attached env] else []

/-- The events of an operation. -/
def opSdk : VoiceOp → List SdkEvent
  | .nothing | .construct _ => []
  | .start => [.flag true]
  | .stop | .delete => [.flag false]
  | .write words => [.frame words]

/-- The events of the system. Without a smart screen, a call is none. -/
def systemSdk (s : System) : SystemEvent → List SdkEvent
  | .call c =>
    if s.process.avsSmartScreen.isSome then opSdk (s.process.registry.voiceOp c) else []
  | .init env => s.liveScreen.toList.flatMap fun found => attemptSdk env found.2
  | _ => []

/-! ### One smart screen -/

/-- What the smart screen and the SDK are behind the events `past`. -/
structure Account (past : List SdkEvent) (screen : SmartScreen) (sdk : Sdk) : Prop where
  isStarted : screen.isStarted = latest SdkEvent.setting false past
  manager : screen.aspInputInteractionHandler.bind InteractionHandler.interactionManager
    = latest SdkEvent.target none past
  writer : screen.vWriter.isSome = latest SdkEvent.writing false past
  toggles : sdk.holdToTalks = outputs toggled past
  words : sdk.words = outputs written past

/-- A function on a smart screen acts as the events `es`. -/
def ActsBy (f : SmartScreen → Sdk → SmartScreen × Sdk) (screen : SmartScreen)
    (es : List SdkEvent) : Prop :=
  ∀ past sdk, Account past screen sdk → Account (past ++ es) (f screen sdk).1 (f screen sdk).2

/-- A toggle goes to the manager of the handler, if there is one. -/
theorem sendToggle_holdToTalks (screen : SmartScreen) (sdk : Sdk) :
    (screen.sendToggle sdk).holdToTalks = sdk.holdToTalks
        ++ (screen.aspInputInteractionHandler.bind InteractionHandler.interactionManager).toList ∧
      (screen.sendToggle sdk).words = sdk.words := by
  unfold SmartScreen.sendToggle
  cases screen.aspInputInteractionHandler with
  | none => exact ⟨(List.append_nil _).symm, rfl⟩
  | some handler =>
    simp only [Option.bind_some, InteractionHandler.holdToTalk]
    cases handler.interactionManager with
    | none => exact ⟨(List.append_nil _).symm, rfl⟩
    | some manager => exact ⟨rfl, rfl⟩

/-- To set the flag, with a toggle when that changes it. `Start` and `Stop` are this. -/
def setFlag (on : Bool) (screen : SmartScreen) (sdk : Sdk) : SmartScreen × Sdk :=
  if screen.isStarted = on then (screen, sdk)
  else ({ screen with isStarted := on }, screen.sendToggle sdk)

/-- `Start` sets the flag. -/
theorem start_eq_setFlag : SmartScreen.start = setFlag true := by
  funext screen sdk
  exact SmartScreen.start_eq screen sdk

/-- `Stop` clears the flag. -/
theorem stop_eq_setFlag : SmartScreen.stop = setFlag false := by
  funext screen sdk
  rw [SmartScreen.stop_eq]
  unfold setFlag
  cases screen.isStarted <;> rfl

/-- To set the flag acts as the setting. -/
theorem setFlag_actsBy (on : Bool) (screen : SmartScreen) :
    ActsBy (setFlag on) screen [.flag on] := by
  intro past sdk h
  -- The flag is the last setting, so it changes exactly when the new one differs.
  have hsame : on = latest SdkEvent.setting false past ↔ screen.isStarted = on := by
    rw [← h.isStarted]
    exact eq_comm
  unfold setFlag
  by_cases hflag : screen.isStarted = on
  · rw [if_pos hflag]
    refine ⟨?_, ?_, ?_, ?_, ?_⟩
    · simp [SdkEvent.setting, hflag]
    · simpa [SdkEvent.target] using h.manager
    · simpa [SdkEvent.writing] using h.writer
    · simpa [toggled, hsame.mpr hflag] using h.toggles
    · simpa [written] using h.words
  · rw [if_neg hflag]
    -- The flag changes, and the manager attached last is toggled.
    obtain ⟨htoggles, hwords⟩ := sendToggle_holdToTalks screen sdk
    have hnot : ¬ on = latest SdkEvent.setting false past := fun heq => hflag (hsame.mp heq)
    refine ⟨?_, ?_, ?_, ?_, ?_⟩
    · simp [SdkEvent.setting]
    · simpa [SdkEvent.target] using h.manager
    · simpa [SdkEvent.writing] using h.writer
    · show (screen.sendToggle sdk).holdToTalks = _
      rw [htoggles, h.toggles, h.manager, outputs_concat, toggled, if_neg hnot]
    · simpa [written] using hwords.trans h.words

/-- A write acts as a frame. -/
theorem write_actsBy (words : List Word) (screen : SmartScreen) :
    ActsBy (fun screen sdk => (screen, screen.write sdk words)) screen [.frame words] := by
  intro past sdk h
  -- Without a writer, `write` leaves the words alone.
  have hwrite : screen.write sdk words
      = { sdk with words := sdk.words ++ written past (.frame words) } := by
    unfold SmartScreen.write written
    rw [h.writer]
    cases latest SdkEvent.writing false past with
    | true => rfl
    | false => simp
  simp only [hwrite]
  refine ⟨?_, ?_, ?_, ?_, ?_⟩
  · simpa [SdkEvent.setting] using h.isStarted
  · simpa [SdkEvent.target] using h.manager
  · simpa [SdkEvent.writing] using h.writer
  · simpa [toggled] using h.toggles
  · simp [h.words]

/-- An attempt acts as its events. -/
theorem attempt_actsBy (env : InitEnv) (screen : SmartScreen) :
    ActsBy (fun screen sdk => (attempt screen env, sdk)) screen (attemptSdk env screen) := by
  intro past sdk h
  have hmembers := attemptMembers screen env
  have hflag : (attempt screen env).isStarted = screen.isStarted := init_isStarted env screen
  unfold attemptSdk
  by_cases hreach : ReachesVoice env screen.audioMediaPlayerPool
  · rw [if_pos ((reachesVoice_iff _ _).mpr hreach)]
    -- The attempt comes to `initVoice`, and it replaces the handler and the writer.
    obtain ⟨stream, hstream, hvoice⟩ := hmembers.voice_new hreach
    have hhandler := congrArg VoiceMembers.aspInputInteractionHandler hvoice
    have hwriter := congrArg VoiceMembers.vWriter hvoice
    have hhandler : (attempt screen env).aspInputInteractionHandler
        = some { interactionManager := env.guiManager } := hhandler
    have hwriter : (attempt screen env).vWriter = stream.createWriter := hwriter
    refine ⟨?_, ?_, ?_, ?_, ?_⟩
    · simpa [SdkEvent.setting, attached, hflag] using h.isStarted
    · simp [SdkEvent.target, attached, hhandler]
    · simp [SdkEvent.writing, attached, hwriter, hstream]
    · simpa [toggled, attached] using h.toggles
    · simpa [written, attached] using h.words
  · rw [if_neg fun hpass => hreach ((reachesVoice_iff _ _).mp hpass), List.append_nil]
    -- The attempt leaves before `initVoice`, and the members stay.
    have hkept := hmembers.voice_kept hreach
    have hhandler : (attempt screen env).aspInputInteractionHandler
        = screen.aspInputInteractionHandler :=
      congrArg VoiceMembers.aspInputInteractionHandler hkept
    have hwriter : (attempt screen env).vWriter = screen.vWriter :=
      congrArg VoiceMembers.vWriter hkept
    exact ⟨hflag.trans h.isStarted, hhandler ▸ h.manager, hwriter ▸ h.writer, h.toggles,
      h.words⟩

/-! ### The voice part -/

/-- What the voice part is behind the events `past`. There are none before the first smart
screen. -/
structure Accounted (past : List SdkEvent) (v : VoicePart) : Prop where
  toggles : v.sdk.holdToTalks = outputs toggled past
  words : v.sdk.words = outputs written past
  unborn : v.avsSmartScreen = none → past = []
  live : ∀ p screen, v.avsSmartScreen = some p → v.screens p = some screen →
    Account past screen v.sdk

section
variable {past : List SdkEvent} {v w : VoicePart}

/-- A function on the live smart screen extends the account by its events. -/
theorem Accounted.act (h : Accounted past v) {f : SmartScreen → Sdk → SmartScreen × Sdk}
    (es : SmartScreen → List SdkEvent) (hf : ∀ screen, ActsBy f screen (es screen))
    (hw : v.act f = .ok w) :
    (v.avsSmartScreen = none ∧ Accounted past w) ∨
    ∃ p screen, v.avsSmartScreen = some p ∧ v.screens p = some screen ∧
      Accounted (past ++ es screen) w := by
  obtain ⟨hnone, rfl⟩ | ⟨p, screen, hp, hlive, rfl⟩ := VoicePart.act_cases hw
  · exact Or.inl ⟨hnone, h⟩
  · have hafter := hf screen past v.sdk (h.live p screen hp hlive)
    refine Or.inr ⟨p, screen, hp, hlive, hafter.toggles, hafter.words, fun hnone => ?_, ?_⟩
    · have hnone : v.avsSmartScreen = none := hnone
      rw [hp] at hnone
      cases hnone
    · -- The smart screen that is live afterwards is the one acted on.
      intro q found hq hfound
      obtain rfl : p = q := Option.some.inj (hp.symm.trans hq)
      have hfound : Function.update v.screens p (some (f screen v.sdk).1) p = some found := hfound
      rw [Function.update_self] at hfound
      rw [← Option.some.inj hfound]
      exact hafter

/-- A function whose events do not depend on the smart screen. -/
theorem Accounted.act_const (h : Accounted past v) {f : SmartScreen → Sdk → SmartScreen × Sdk}
    {e : SdkEvent} (hf : ∀ screen, ActsBy f screen [e]) (hw : v.act f = .ok w) :
    Accounted (past ++ if v.avsSmartScreen.isSome then [e] else []) w := by
  obtain ⟨hnone, hafter⟩ | ⟨p, screen, hp, -, hafter⟩ := h.act (fun _ => [e]) hf hw
  · simpa [hnone] using hafter
  · simpa [hp] using hafter

/-- Every operation extends the account by its events, when there is a smart screen. -/
theorem Accounted.step (h : Accounted past v) {op : VoiceOp} (hw : v.step op = .ok w) :
    Accounted (past ++ if v.avsSmartScreen.isSome then opSdk op else []) w := by
  cases op with
  | nothing =>
    obtain rfl := Except.ok.inj hw
    simpa [opSdk] using h
  | construct mem =>
    unfold VoicePart.step at hw
    cases hp : v.avsSmartScreen with
    | some p =>
      rw [hp] at hw
      obtain rfl := Except.ok.inj hw
      simpa [opSdk] using h
    | none =>
      rw [hp] at hw
      obtain rfl := Except.ok.inj hw
      -- Nothing has happened yet, and a new smart screen is as it is behind no events.
      obtain rfl := h.unborn hp
      refine ⟨h.toggles, h.words, fun _ => rfl, fun q found hq hfound => ?_⟩
      obtain rfl : mem = q := Option.some.inj hq
      have hfound : Function.update v.screens mem (some SmartScreen.new) mem = some found :=
        hfound
      rw [Function.update_self] at hfound
      rw [← Option.some.inj hfound]
      exact ⟨rfl, rfl, rfl, h.toggles, h.words⟩
  | start =>
    have hw : v.act SmartScreen.start = .ok w := hw
    rw [start_eq_setFlag] at hw
    exact h.act_const (setFlag_actsBy true) hw
  | stop =>
    have hw : v.act SmartScreen.stop = .ok w := hw
    rw [stop_eq_setFlag] at hw
    exact h.act_const (setFlag_actsBy false) hw
  | write words =>
    have hw : v.act (fun screen sdk => (screen, screen.write sdk words)) = .ok w := hw
    exact h.act_const (write_actsBy words) hw
  | delete =>
    obtain ⟨hnone, rfl⟩ | ⟨p, screen, hp, hlive, rfl⟩ := VoicePart.delete_cases hw
    · simpa [hnone] using h
    · -- The destructor stops the transmission, and then the smart screen is gone.
      have hstop := setFlag_actsBy false screen past v.sdk (h.live p screen hp hlive)
      rw [← stop_eq_setFlag] at hstop
      have hevents : (if v.avsSmartScreen.isSome = true then opSdk .delete else [])
          = [.flag false] := by
        rw [hp]
        rfl
      rw [hevents]
      refine ⟨hstop.toggles, hstop.words, fun hnone => ?_, fun q found hq hfound => ?_⟩
      · have hnone : v.avsSmartScreen = none := hnone
        rw [hp] at hnone
        cases hnone
      · have hq : v.avsSmartScreen = some q := hq
        obtain rfl : p = q := Option.some.inj (hp.symm.trans hq)
        have hfound : Function.update v.screens p none p = some found := hfound
        rw [Function.update_self] at hfound
        cases hfound

end

/-! ### The system -/

/-- The step lemma: every event of the system extends the account by its events. -/
theorem accounted_step {past : List SdkEvent} {s t : System} {e : SystemEvent}
    (hI : s.process.registry.Identified) (h : Accounted past s.process.voicePart)
    (ht : s.step e = .ok t) : Accounted (past ++ systemSdk s e) t.process.voicePart := by
  cases e with
  | call c => exact h.step (call_voicePart hI ht)
  | init env =>
    obtain ⟨hnone, hafter⟩ | ⟨p, screen, hp, hlive, hafter⟩ :=
      h.act (attemptSdk env) (attempt_actsBy env) (init_voicePart ht)
    · have hnone : s.process.avsSmartScreen = none := hnone
      simpa [systemSdk, System.liveScreen, hnone] using hafter
    · have hscreen : s.liveScreen = some (p, screen) :=
        System.liveScreen_eq_some.mpr ⟨hp, hlive⟩
      simpa [systemSdk, hscreen] using hafter
  | notify attempt event =>
    rw [show systemSdk s (.notify attempt event) = [] from rfl, List.append_nil]
    -- A notification may replace the input manager, and nothing that the account reads.
    obtain hkeep | ⟨p, screen, manager, hp, hlive, hnotified⟩ := notify_voicePart hI ht
    · exact hkeep ▸ h
    · rw [hnotified]
      refine ⟨h.toggles, h.words, h.unborn, fun q found hq hfound => ?_⟩
      obtain rfl : p = q := Option.some.inj (hp.symm.trans hq)
      have hfound : Function.update s.process.voicePart.screens p
          (some { screen with thunderInputManager := manager }) p = some found := hfound
      rw [Function.update_self] at hfound
      rw [← Option.some.inj hfound]
      have haccount := h.live p screen hp hlive
      exact ⟨haccount.isStarted, haccount.manager, haccount.writer, haccount.toggles,
        haccount.words⟩
  | vskMsg message length =>
    rw [show systemSdk s (.vskMsg message length) = [] from rfl, List.append_nil,
      vskMsg_voicePart hI ht]
    exact h

/-- Over every run, the account of the voice part is by the events that the run has shown. -/
theorem accounted_run {es : List SystemEvent} {t : System}
    (ht : tryRun System.step System.init es = .ok t) :
    Accounted (shown System.step systemSdk System.init es) t.process.voicePart := by
  -- The account of no events holds before the first smart screen.
  have hinit : Accounted [] System.init.process.voicePart := by
    refine ⟨rfl, rfl, fun _ => rfl, fun p screen hp => ?_⟩
    cases hp
  obtain ⟨-, hafter⟩ := shown_history (C := fun _ _ => True)
    (P := fun past s => s.process.registry.Identified ∧ Accounted past s.process.voicePart)
    (fun past s e t h _ hs => ⟨identified_system h.1 hs, accounted_step h.1 h.2 hs⟩)
    ⟨Process.identified_init, hinit⟩ (tryEachStep_of_forall_mem fun _ _ => trivial) ht
  exact hafter

/-- Over every run, whatever attempts of `Init` it makes and however they leave, the SDK is given
what the events so far say and nothing else: a change of the flag is one toggle of the manager
attached last, and a frame is written when the last attempt to attach got a writer. The live
smart screen has the flag that was set last. Events come one at a time, attempts return true or
false, and each deletion is taken to complete. -/
theorem sdk_trace (es : List SystemEvent) {t : System}
    (ht : tryRun System.step System.init es = .ok t) :
    t.process.sdk.holdToTalks
        = outputs toggled (shown System.step systemSdk System.init es) ∧
      t.process.sdk.words = outputs written (shown System.step systemSdk System.init es) ∧
      ∀ p screen, t.liveScreen = some (p, screen) → screen.isStarted
        = latest SdkEvent.setting false (shown System.step systemSdk System.init es) := by
  have hafter := accounted_run ht
  refine ⟨hafter.toggles, hafter.words, fun p screen hlive => ?_⟩
  obtain ⟨hp, hscreen⟩ := System.liveScreen_eq_some.mp hlive
  exact (hafter.live p screen hp hscreen).isStarted

/-- An environment with another `GUIManager`, whose attempt fails behind `initVoice`. -/
def otherManagerEnv : InitEnv :=
  { fullEnv (smallConfig 1 ['6']) with guiManager := some 40, client := none }

/-- Two attempts around a transmission. The second one fails, and still it takes the toggles
over. -/
def retrySession : List SystemEvent :=
  [.call (.avsInitialize 1), .call (.voiceData [1, 2] 2), .init (fullEnv (smallConfig 1 ['6'])),
    .call .voiceStart, .call (.voiceData [3, 4] 2), .init otherManagerEnv, .call .voiceStart,
    .call .voiceStop]

/-- The law for that session: the first `GUIManager` is told to begin, and the second one to
end. -/
theorem sdk_trace_retrySession :
    ∃ t, tryRun System.step System.init retrySession = .ok t ∧
      t.process.sdk.holdToTalks = [32, 40] ∧ t.process.sdk.words = [(3, 4)] := by
  have hsome : (tryRun System.step System.init retrySession).toOption.isSome = true := by
    decide +kernel
  have hshown : shown System.step systemSdk System.init retrySession
      = [.frame [(1, 2)], .attach (some 32) true, .flag true, .frame [(3, 4)],
        .attach (some 40) true, .flag true, .flag false] := by
    decide +kernel
  cases hrun : tryRun System.step System.init retrySession with
  | error f =>
    rw [hrun] at hsome
    cases hsome
  | ok t =>
    -- The run shows seven events, and the law says what they give.
    obtain ⟨htoggles, hwords, -⟩ := sdk_trace retrySession hrun
    rw [hshown] at htoggles hwords
    exact ⟨t, rfl, htoggles, hwords⟩

/-! ### Without an attempt -/

/-- An event that is no attempt of `Init` which comes to `initVoice`. -/
def NoVoice (s : System) : SystemEvent → Prop
  | .init env => ∀ p screen, s.liveScreen = some (p, screen) →
      ¬ ReachesVoice env screen.audioMediaPlayerPool
  | _ => True

/-- Such an event attaches nothing. -/
theorem writing_of_noVoice {s : System} {e : SystemEvent} (h : NoVoice s e) :
    ∀ d ∈ systemSdk s e, d.target = none ∧ d.writing = none := by
  -- The operations are settings of the flag and frames.
  have hop : ∀ op, ∀ d ∈ opSdk op, d.target = none ∧ d.writing = none := by
    intro op
    cases op <;> simp [opSdk, SdkEvent.target, SdkEvent.writing]
  cases e with
  | call c =>
    intro d hd
    have hd : d ∈ if s.process.avsSmartScreen.isSome then
        opSdk (s.process.registry.voiceOp c) else [] := hd
    split at hd
    · exact hop _ d hd
    · cases hd
  | init env =>
    cases hlive : s.liveScreen with
    | none => simp [systemSdk, hlive]
    | some found =>
      have hnot := h found.1 found.2 hlive
      rw [← reachesVoice_iff] at hnot
      simp [systemSdk, hlive, attemptSdk, hnot]
  | notify attempt event => simp [systemSdk]
  | vskMsg message length => simp [systemSdk]

/-- While nothing is attached, nothing is toggled and nothing is written. -/
theorem outputs_of_not_attached {es : List SdkEvent}
    (h : ∀ d ∈ es, d.target = none ∧ d.writing = none) :
    outputs toggled es = [] ∧ outputs written es = [] := by
  -- An output depends on what came before, so the induction is on the last event.
  induction es using List.reverseRecOn with
  | nil => exact ⟨rfl, rfl⟩
  | append_singleton es e ih =>
    have hpast : ∀ d ∈ es, d.target = none ∧ d.writing = none :=
      fun d hd => h d (List.mem_append_left _ hd)
    obtain ⟨htoggled, hwritten⟩ := ih hpast
    have htarget : latest SdkEvent.target none es = none :=
      latest_of_none _ fun d hd => (hpast d hd).1
    have hwriting : latest SdkEvent.writing false es = false :=
      latest_of_none _ fun d hd => (hpast d hd).2
    rw [outputs_concat, outputs_concat, htoggled, hwritten]
    cases e <;> simp [toggled, written, htarget, hwriting]

/-- Over every run in which no attempt of `Init` comes to `initVoice`, the SDK is given nothing:
no toggle and no word, whatever the application and the router call. -/
theorem sdk_silent (es : List SystemEvent) {t : System}
    (hno : TryEachStep System.step NoVoice System.init es)
    (ht : tryRun System.step System.init es = .ok t) : t.process.sdk = {} := by
  have hafter := accounted_run ht
  -- By the step lemma, nothing that the run shows attaches.
  have hquiet : ∀ d ∈ [] ++ shown System.step systemSdk System.init es,
      d.target = none ∧ d.writing = none := by
    refine shown_history
      (P := fun (past : List SdkEvent) _ => ∀ d ∈ past, d.target = none ∧ d.writing = none)
      (fun past s e t hpast he _ d hd => ?_) ?_ hno ht
    · exact (List.mem_append.mp hd).elim (hpast d) (writing_of_noVoice he d)
    · intro d hd
      cases hd
  obtain ⟨htoggled, hwritten⟩ := outputs_of_not_attached hquiet
  rw [List.nil_append] at htoggled hwritten
  have htoggles : t.process.sdk.holdToTalks = [] := hafter.toggles.trans htoggled
  have hwords : t.process.sdk.words = [] := hafter.words.trans hwritten
  cases hsdk : t.process.sdk with
  | mk holdToTalks words =>
    rw [hsdk] at htoggles hwords
    exact congrArg₂ Sdk.mk htoggles hwords

end XrSpeechAvs.Proofs
