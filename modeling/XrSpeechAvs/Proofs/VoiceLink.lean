import XrSpeechAvs.Proofs.InitFlag
import XrSpeechAvs.Proofs.Observers
import XrSpeechAvs.Proofs.VoicePart
import XrSpeechAvs.System
import XrSpeechAvs.VoiceLink

/-!
# `XrSpeechAvs.Proofs.VoiceLink`: a ready system is a voice link

A successful `Init` leaves a smart screen whose interaction handler is bound to its
`GUIManager` and that has a writer. From there on, the process is a voice link: the operations
on the smart screen are events of the link, and everything else leaves it alone.

`Linked` relates the two. `Linked.step` is the step lemma for the operations, and
`linked_simulates` the one for every event of the system but another attempt of `Init`.
`ready_run` is the law over whole runs, with the link in closed form: what the SDK has been
given is a function of the events. `voice_link` is the law from an attempt of `Init` on. A
deletion closes the link, and it is taken to complete.
-/

set_option autoImplicit false

namespace XrSpeechAvs.Proofs

open XrSpeechAvs.Impl
open XrSpeechAvs.Lib

/-! ### The events of the link -/

/-- The events of an operation. -/
def opEvents : VoiceOp → List (VoiceEvent Word)
  | .nothing | .construct _ => []
  | .start => [.talk]
  | .stop => [.hush]
  | .write words => [.frame words]
  | .delete => [.close]

/-- The events of the system. Only calls are operations. -/
def systemVoice (s : System) : SystemEvent → List (VoiceEvent Word)
  | .call c => opEvents (s.process.registry.voiceOp c)
  | _ => []

/-! ### The relation -/

/-- A smart screen that can talk through the `GUIManager` `g`, and whose flag is `talking`. -/
structure OnLink (g : Obj) (talking : Bool) (screen : SmartScreen) : Prop where
  handler : screen.aspInputInteractionHandler = some { interactionManager := some g }
  guiManager : screen.guiManager = some g
  writer : screen.vWriter.isSome = true
  started : screen.isStarted = talking

/-- What the SDK has been given since `before` is what the link has done. -/
structure Given (g : Obj) (before : Sdk) (sdk : Sdk) (l : VoiceLink Word) : Prop where
  toggles : sdk.holdToTalks = before.holdToTalks ++ List.replicate l.toggles g
  words : sdk.words = before.words ++ l.words

/-- The voice part is the link `l`. When the link is closed, the global dangles. -/
structure Linked (g : Obj) (before : Sdk) (v : VoicePart) (l : VoiceLink Word) : Prop where
  given : Given g before v.sdk l
  screen : ∃ p, v.avsSmartScreen = some p ∧
    if l.closed then v.screens p = none
    else ∃ screen, v.screens p = some screen ∧ OnLink g l.talking screen

/-- A function on a live smart screen acts as the event `e`. -/
def ActsAs (g : Obj) (f : SmartScreen → Sdk → SmartScreen × Sdk) (e : VoiceEvent Word) : Prop :=
  ∀ before screen sdk (l : VoiceLink Word), OnLink g l.talking screen → Given g before sdk l →
    OnLink g (l.apply e).talking (f screen sdk).1 ∧ Given g before (f screen sdk).2 (l.apply e)

/-- A toggle of a smart screen on the link reaches its `GUIManager`. -/
theorem sendToggle_of_onLink {g : Obj} {talking : Bool} {screen : SmartScreen}
    (h : OnLink g talking screen) (sdk : Sdk) :
    screen.sendToggle sdk = sdk.handleHoldToTalk g := by
  unfold SmartScreen.sendToggle
  rw [h.handler]
  rfl

/-- A toggle more is a toggle more. -/
theorem given_toggle {g : Obj} {before sdk : Sdk} {l : VoiceLink Word}
    (h : Given g before sdk l) (on : Bool) :
    Given g before (sdk.handleHoldToTalk g) { l with talking := on, toggles := l.toggles + 1 } where
  toggles := by
    show sdk.holdToTalks ++ [g] = _
    rw [h.toggles, List.append_assoc, List.replicate_succ']
  words := h.words

/-- `Start` acts as a talk. -/
theorem start_actsAs (g : Obj) : ActsAs g SmartScreen.start .talk := by
  intro before screen sdk l hscreen hgiven
  rw [SmartScreen.start_eq, hscreen.started]
  show OnLink g (l.switch true).talking _ ∧ Given g before _ (l.switch true)
  unfold VoiceLink.switch
  cases htalking : l.talking with
  | true =>
    rw [if_pos rfl, if_pos rfl, htalking]
    exact ⟨htalking ▸ hscreen, hgiven⟩
  | false =>
    rw [if_neg Bool.false_ne_true, if_neg Bool.false_ne_true, sendToggle_of_onLink hscreen]
    exact ⟨⟨hscreen.handler, hscreen.guiManager, hscreen.writer, rfl⟩, given_toggle hgiven true⟩

/-- `Stop` acts as a hush. -/
theorem stop_actsAs (g : Obj) : ActsAs g SmartScreen.stop .hush := by
  intro before screen sdk l hscreen hgiven
  rw [SmartScreen.stop_eq, hscreen.started]
  show OnLink g (l.switch false).talking _ ∧ Given g before _ (l.switch false)
  unfold VoiceLink.switch
  cases htalking : l.talking with
  | true =>
    rw [if_pos rfl, if_neg (by decide), sendToggle_of_onLink hscreen]
    exact ⟨⟨hscreen.handler, hscreen.guiManager, hscreen.writer, rfl⟩, given_toggle hgiven false⟩
  | false =>
    rw [if_neg Bool.false_ne_true, if_pos rfl, htalking]
    exact ⟨htalking ▸ hscreen, hgiven⟩

/-- A write acts as a frame. -/
theorem write_actsAs (g : Obj) (words : List Word) :
    ActsAs g (fun screen sdk => (screen, screen.write sdk words)) (.frame words) := by
  intro before screen sdk l hscreen hgiven
  refine ⟨hscreen, ?_, ?_⟩
  · show (screen.write sdk words).holdToTalks = _
    rw [SmartScreen.write, if_pos hscreen.writer]
    exact hgiven.toggles
  · show (screen.write sdk words).words = before.words ++ (l.words ++ words)
    rw [SmartScreen.write, if_pos hscreen.writer, ← List.append_assoc, ← hgiven.words]

/-! ### The step lemma -/

section
variable {g : Obj} {before : Sdk} {v w : VoicePart} {l : VoiceLink Word}

/-- One event of an open link. -/
theorem tryRun_single {e : VoiceEvent Word} (h : l.closed = false) :
    tryRun VoiceLink.step l [e] = .ok (l.apply e) :=
  tryRun_cons_ok.mpr ⟨_, VoiceLink.step_of_open h e, rfl⟩

/-- The global of a link is not null. -/
theorem Linked.global_ne_none (h : Linked g before v l) : v.avsSmartScreen ≠ none := by
  obtain ⟨p, hp, -⟩ := h.screen
  simp [hp]

/-- The link of a voice part whose smart screen is live is open. -/
theorem Linked.open_of_live (h : Linked g before v l) {p : Ptr} {screen : SmartScreen}
    (hp : v.avsSmartScreen = some p) (hlive : v.screens p = some screen) :
    l.closed = false ∧ OnLink g l.talking screen := by
  obtain ⟨q, hq, hscreen⟩ := h.screen
  obtain rfl : p = q := Option.some.inj (hp.symm.trans hq)
  cases hclosed : l.closed with
  | true =>
    rw [hclosed, if_pos rfl, hlive] at hscreen
    cases hscreen
  | false =>
    rw [hclosed, if_neg Bool.false_ne_true, hlive] at hscreen
    obtain ⟨screen', heq, hon⟩ := hscreen
    rw [Option.some.inj heq]
    exact ⟨rfl, hon⟩

/-- An operation on the smart screen is its event. -/
theorem Linked.act (h : Linked g before v l) {f : SmartScreen → Sdk → SmartScreen × Sdk}
    {e : VoiceEvent Word} (hf : ActsAs g f e) (he : e.isClose = false) (hw : v.act f = .ok w) :
    ∃ m, tryRun VoiceLink.step l [e] = .ok m ∧ Linked g before w m := by
  obtain ⟨hnone, -⟩ | ⟨p, screen, hp, hlive, rfl⟩ := VoicePart.act_cases hw
  · exact absurd hnone h.global_ne_none
  · obtain ⟨hopen, hon⟩ := h.open_of_live hp hlive
    obtain ⟨hafter, hgiven⟩ := hf before screen v.sdk l hon h.given
    refine ⟨l.apply e, tryRun_single hopen, hgiven, p, hp, ?_⟩
    rw [VoiceLink.apply_closed hopen, he, if_neg Bool.false_ne_true]
    exact ⟨_, Function.update_self .., hafter⟩

/-- A deletion is a close. -/
theorem Linked.delete (h : Linked g before v l) (hw : v.step .delete = .ok w) :
    ∃ m, tryRun VoiceLink.step l [.close] = .ok m ∧ Linked g before w m := by
  obtain ⟨hnone, -⟩ | ⟨p, screen, hp, hlive, rfl⟩ := VoicePart.delete_cases hw
  · exact absurd hnone h.global_ne_none
  · obtain ⟨hopen, hon⟩ := h.open_of_live hp hlive
    -- The destructor stops the transmission, and then the smart screen is gone.
    obtain ⟨-, hgiven⟩ := stop_actsAs g before screen v.sdk l hon h.given
    refine ⟨l.apply .close, tryRun_single hopen, ?_, p, hp, ?_⟩
    · exact ⟨hgiven.toggles, hgiven.words⟩
    · exact Function.update_self ..

/-- Every operation that succeeds is matched by its events. -/
theorem Linked.step (h : Linked g before v l) {op : VoiceOp} (hw : v.step op = .ok w) :
    ∃ m, tryRun VoiceLink.step l (opEvents op) = .ok m ∧ Linked g before w m := by
  cases op with
  | nothing =>
    obtain rfl := Except.ok.inj hw
    exact ⟨l, rfl, h⟩
  | construct mem =>
    obtain ⟨p, hp, -⟩ := h.screen
    simp only [VoicePart.step, hp] at hw
    obtain rfl := Except.ok.inj hw
    exact ⟨l, rfl, h⟩
  | start => exact h.act (start_actsAs g) rfl hw
  | stop => exact h.act (stop_actsAs g) rfl hw
  | write words => exact h.act (write_actsAs g words) rfl hw
  | delete => exact h.delete hw

end

/-! ### The system -/

/-- An event that is no attempt of `Init`. -/
def NoAttempt (e : SystemEvent) : Prop := ∀ env, e ≠ .init env

/-- A smart screen that differs in its input manager alone is on the same link. -/
theorem Linked.withInputManager {g : Obj} {before : Sdk} {v : VoicePart} {l : VoiceLink Word}
    (h : Linked g before v l) {p : Ptr} {screen : SmartScreen} (hp : v.avsSmartScreen = some p)
    (hlive : v.screens p = some screen) (manager : Option ThunderInputManager) :
    Linked g before (v.withScreen p { screen with thunderInputManager := manager }) l := by
  obtain ⟨hopen, hon⟩ := h.open_of_live hp hlive
  refine ⟨h.given, p, hp, ?_⟩
  rw [hopen, if_neg Bool.false_ne_true]
  exact ⟨_, Function.update_self .., hon.handler, hon.guiManager, hon.writer, hon.started⟩

/-- Every event that succeeds, and that is no attempt of `Init`, is matched by its events. -/
theorem linked_simulates (g : Obj) (before : Sdk) :
    Simulates System.step VoiceLink.step systemVoice (fun _ e => NoAttempt e)
      (fun s l => s.process.registry.Identified ∧ Linked g before s.process.voicePart l) := by
  intro s l e t hrelated hno ht
  obtain ⟨hI, h⟩ := hrelated
  have hidentified := identified_system hI ht
  cases e with
  | call c =>
    obtain ⟨m, hm, hlinked⟩ := h.step (call_voicePart hI ht)
    exact ⟨m, hm, hidentified, hlinked⟩
  | init env => exact absurd rfl (hno env)
  | notify attempt event =>
    -- A notification is no event of the link: it may only replace the input manager.
    refine ⟨l, rfl, hidentified, ?_⟩
    obtain hkeep | ⟨p, screen, manager, hp, hlive, hnotified⟩ := notify_voicePart hI ht
    · rw [hkeep]
      exact h
    · rw [hnotified]
      exact h.withInputManager hp hlive manager
  | vskMsg message length =>
    refine ⟨l, rfl, hidentified, ?_⟩
    rw [vskMsg_voicePart hI ht]
    exact h

/-- The smart screen behind the global is on the link, and its flag is `flag`. -/
structure Ready (g : Obj) (flag : Bool) (s : System) : Prop where
  identified : s.process.registry.Identified
  live : ∃ p screen, s.liveScreen = some (p, screen) ∧ OnLink g flag screen

/-- The talk state of the `GUIManager` after more toggles: it has turned round when the flag
is away from its start. -/
theorem talking_of_given {g : Obj} {before sdk : Sdk} {l : VoiceLink Word} {flag : Bool}
    {bs : List Bool} (h : Given g before sdk l) (hl : l.toggles = changes flag bs) :
    sdk.talking (some g) = (before.talking (some g) ^^ (flag ^^ position flag bs)) := by
  have hcount : sdk.holdToTalkCount (some g)
      = before.holdToTalkCount (some g) + changes flag bs := by
    show sdk.holdToTalks.count g = before.holdToTalks.count g + _
    rw [h.toggles, List.count_append, List.count_replicate_self, hl]
  have hstill : Even (changes flag bs) ↔ position flag bs = flag := by
    rw [← Nat.not_odd_iff_even, odd_changes_iff, ne_eq, not_not]
  have hbefore : Odd (before.holdToTalkCount (some g)) ↔ before.talking (some g) = true :=
    decide_eq_true_iff.symm
  -- The parity before the run and the parity of the changes make the parity after it.
  have hafter : sdk.talking (some g) = true
      ↔ (before.talking (some g) ^^ (flag ^^ position flag bs)) = true := by
    rw [Sdk.talking, decide_eq_true_iff, hcount, Nat.odd_add, hbefore, hstill]
    cases before.talking (some g) <;> cases flag <;> cases position _ bs <;> simp
  exact Bool.eq_iff_iff.mpr hafter

/-- What the SDK is given over the events `es` of a link whose flag starts as `flag`: nothing
behind a close, one toggle of the `GUIManager` for each change of the flag, and the words of
every frame. The `GUIManager` has turned round when the flag is away from its start. -/
structure GivenBy (g : Obj) (flag : Bool) (before after : Sdk) (es : List (VoiceEvent Word)) :
    Prop where
  closesLast : VoiceLink.ClosesLast es
  toggles : after.holdToTalks = before.holdToTalks
    ++ List.replicate (changes flag (settings es)) g
  words : after.words = before.words ++ es.flatMap VoiceEvent.words
  talking : after.talking (some g)
    = (before.talking (some g) ^^ (flag ^^ position flag (settings es)))

/-- In every run of a ready system that makes no attempt of `Init`, the SDK is given what the
events of the link say, and the flag of the smart screen is their last setting. -/
theorem ready_run {g : Obj} {flag : Bool} {s t : System} {es : List SystemEvent}
    (h : Ready g flag s) (hno : ∀ e ∈ es, NoAttempt e)
    (ht : tryRun System.step s es = .ok t) :
    GivenBy g flag s.process.sdk t.process.sdk (shown System.step systemVoice s es) ∧
      ∀ p screen, t.liveScreen = some (p, screen) →
        screen.isStarted = position flag (settings (shown System.step systemVoice s es)) := by
  obtain ⟨hI, p, screen, hlive, hon⟩ := h
  obtain ⟨hp, hscreen⟩ := System.liveScreen_eq_some.mp hlive
  have hlinked : Linked g s.process.sdk s.process.voicePart (VoiceLink.opened flag) := by
    refine ⟨⟨(List.append_nil _).symm, (List.append_nil _).symm⟩, p, hp, ?_⟩
    exact ⟨screen, hscreen, hon⟩
  obtain ⟨m, hm, -, hafter⟩ := (linked_simulates g s.process.sdk).tryRun ⟨hI, hlinked⟩
    (tryEachStep_of_forall_mem hno) ht
  -- The matching run of the link is known in closed form.
  obtain ⟨hcloses, rfl⟩ := (VoiceLink.tryRun_ok_iff rfl _).mp hm
  refine ⟨⟨hcloses, ?_, hafter.given.words, ?_⟩, ?_⟩
  · have htoggles := hafter.given.toggles
    simp only [VoiceLink.after, VoiceLink.opened, Nat.zero_add] at htoggles
    exact htoggles
  · exact talking_of_given hafter.given (Nat.zero_add _)
  · intro q last hlast
    obtain ⟨hq, hlast⟩ := System.liveScreen_eq_some.mp hlast
    exact (hafter.open_of_live hq hlast).2.started

/-! ### From `Init` on -/

/-- The attempt on the live smart screen, whose flag is `flag`, succeeds. It gets a writer, and
a `GUIManager` that is new to the SDK. -/
structure Opens (s : System) (env : InitEnv) (g : Obj) (flag : Bool) : Prop where
  screen : ∃ p screen, s.liveScreen = some (p, screen) ∧ screen.isStarted = flag ∧
    (init env screen).1 = .ret true
  writer : ∃ stream writer, env.sharedDataStream = some stream ∧
    stream.createWriter = some writer
  manager : env.guiManager = some g
  new : g ∉ s.process.sdk.holdToTalks

/-- After such an attempt the system is ready with the same flag, and its `GUIManager` is not
talking. -/
theorem ready_of_opens {s t : System} {env : InitEnv} {g : Obj} {flag : Bool}
    (hI : s.process.registry.Identified) (h : Opens s env g flag)
    (ht : s.step (.init env) = .ok t) :
    Ready g flag t ∧ t.process.sdk = s.process.sdk ∧
      t.process.sdk.talking (some g) = false := by
  obtain ⟨p, screen, hlive, hflag, htrue⟩ := h.screen
  obtain ⟨stream, writer, hstream, hwriter⟩ := h.writer
  have htalking : s.process.sdk.talking (some g) = false := by
    have hnone : s.process.sdk.holdToTalkCount (some g) = 0 := List.count_eq_zero.mpr h.new
    rw [Sdk.talking, hnone]
    decide
  have hidentified := identified_system hI ht
  obtain rfl := System.attemptInit_live hlive ht
  -- The attempt does to the members what `Init` does.
  have hafter : (initWired env (.entering screen)).2.screen = attempt screen env :=
    (initWired_projects env _).2
  have hmembers := attemptMembers screen env
  obtain ⟨manager, hmanager, hgui, hhandler⟩ := hmembers.bound htrue
  obtain rfl : g = manager := Option.some.inj (h.manager.symm.trans hmanager)
  have hwritten := hmembers.writer htrue stream writer hstream hwriter
  refine ⟨⟨hidentified, p, attempt screen env, ?_, ?_⟩, rfl, htalking⟩
  · rw [← hafter]
    exact System.liveScreen_withAttempt hlive _
  · refine ⟨hhandler, hgui, ?_, (init_isStarted env screen).trans hflag⟩
    rw [hwritten]
    rfl

/-- From any state that the system reaches, a successful attempt of `Init` opens a voice link.
Over every run from there on that makes no other attempt, whatever the application, the
router, the SDK and the video skill do, the SDK is given what the events of the link say. The
`GUIManager` talks when the flag differs from what it was at the attempt: it follows the flag
when no transmission was under way then, and otherwise it is the reverse of the flag. Each
deletion is taken to complete. -/
theorem voice_link (first es : List SystemEvent) (env : InitEnv) (g : Obj) (flag : Bool)
    {before s t : System} (hfirst : tryRun System.step System.init first = .ok before)
    (hopens : Opens before env g flag) (hinit : before.step (.init env) = .ok s)
    (hno : ∀ e ∈ es, NoAttempt e) (ht : tryRun System.step s es = .ok t) :
    GivenBy g flag before.process.sdk t.process.sdk (shown System.step systemVoice s es) ∧
      ∀ p screen, t.liveScreen = some (p, screen) →
        screen.isStarted = position flag (settings (shown System.step systemVoice s es)) ∧
        t.process.sdk.talking (some g) = (flag ^^ screen.isStarted) := by
  have hI : before.process.registry.Identified :=
    tryRun_invariant (I := fun s => s.process.registry.Identified)
      (fun s e t hI hs => identified_system hI hs) Process.identified_init hfirst
  -- The attempt opens the link and gives the SDK nothing.
  obtain ⟨hready, hsdk, htalking⟩ := ready_of_opens hI hopens hinit
  obtain ⟨hgiven, hflag⟩ := ready_run hready hno ht
  refine ⟨hsdk ▸ hgiven, ?_⟩
  intro p screen hlive
  refine ⟨hflag p screen hlive, ?_⟩
  rw [hgiven.talking, htalking, hflag p screen hlive, Bool.false_xor]

/-- The system with a smart screen. -/
def bornSystem : System := { System.init with process := Process.init.avsInitialize 1 }

/-- A stream of one frame, a second one that is begun twice, and then the teardown. -/
def smallSession : List SystemEvent :=
  [.call .voiceStart, .call (.voiceData [1, 2, 3] 3), .call .voiceStop, .notify 0 .onLogout,
    .call .voiceStart, .call .voiceStart, .call (.voiceData [4, 5] 2), .call .avsDeInitialize]

/-- The law for that session: four toggles, two words, and nobody talks in the end. -/
theorem voice_link_smallSession :
    ∃ s t, bornSystem.step (.init (fullEnv (smallConfig 1 ['6']))) = .ok s ∧
      tryRun System.step s smallSession = .ok t ∧
      t.process.sdk.holdToTalks = [32, 32, 32, 32] ∧
      t.process.sdk.words = [(1, 2), (4, 5)] ∧ t.process.sdk.talking (some 32) = false := by
  have hsome : (tryRun System.step bornSystem
      (.init (fullEnv (smallConfig 1 ['6'])) :: smallSession)).toOption.isSome = true := by
    decide +kernel
  have hshown : shown System.step systemVoice bornSystem
      (.init (fullEnv (smallConfig 1 ['6'])) :: smallSession)
      = [.talk, .frame [(1, 2)], .hush, .talk, .talk, .frame [(4, 5)], .close] := by
    decide +kernel
  -- The run is the attempt and the session behind it.
  cases hrun : tryRun System.step bornSystem
      (.init (fullEnv (smallConfig 1 ['6'])) :: smallSession) with
  | error f =>
    rw [hrun] at hsome
    cases hsome
  | ok t =>
    obtain ⟨s, hs, ht⟩ := tryRun_cons_ok.mp hrun
    rw [shown_cons_ok hs] at hshown
    have hopens : Opens bornSystem (fullEnv (smallConfig 1 ['6'])) 32 false := by
      refine ⟨⟨1, .new, rfl, rfl, rfl⟩, ⟨_, ⟨31⟩, rfl, rfl⟩, rfl, ?_⟩
      intro hmem
      cases hmem
    have hno : ∀ e ∈ smallSession, NoAttempt e := by
      simp [smallSession, NoAttempt]
    have hlaw := (voice_link [.call (.avsInitialize 1)] smallSession _ 32 false rfl hopens hs hno
      ht).1
    rw [show shown System.step systemVoice s smallSession = _ from hshown] at hlaw
    exact ⟨s, t, hs, ht, hlaw.toggles, hlaw.words, hlaw.talking⟩

end XrSpeechAvs.Proofs
