import XrSpeechAvs.Proofs.InitMembers

/-!
# `XrSpeechAvs.Proofs.InitFlag`: `Init` and the flag of the transmission

`m_isStarted` belongs to `Start` and `Stop`. No part of `Init` assigns it, however the attempt
leaves (`init_isStarted`). So an attempt neither starts nor stops a transmission, and it can
come while one is under way.
-/

set_option autoImplicit false

namespace XrSpeechAvs.Proofs

open XrSpeechAvs.Impl
open XrSpeechAvs.Lib

/-- A new player keeps the flag. -/
theorem createMediaPlayer_isStarted (interfaces : Option ApplicationMediaInterfaces)
    {assign : Obj → SmartScreen → SmartScreen}
    (h : ∀ player s, (assign player s).isStarted = s.isStarted) :
    Keeps SmartScreen.isStarted (createMediaPlayer interfaces assign) := by
  refine Keeps.bind (Keeps.orReturn _ _) fun _ => ?_
  exact Keeps.bind (Keeps.modify fun _ => rfl) fun _ => Keeps.modify fun s => h _ s

/-- The players of the pool keep the flag. -/
theorem createAudioPlayers_isStarted (env : InitEnv) (index left : Nat) :
    Keeps SmartScreen.isStarted (createAudioPlayers env index left) := by
  induction left generalizing index with
  | zero => exact Keeps.pure ()
  | succ left ih =>
    refine Keeps.bind (createMediaPlayer_isStarted _ ?_) fun _ => ih (index + 1)
    exact fun _ _ => rfl

/-- The configuration part keeps the flag. -/
theorem initConfig_isStarted (env : InitEnv) :
    Keeps SmartScreen.isStarted (initConfig env) := by
  refine Keeps.bind (Keeps.returnUnless _ _) fun _ => ?_
  refine Keeps.bind (Keeps.returnUnless _ _) fun _ => ?_
  refine Keeps.bind (Keeps.need _ _) fun _ => ?_
  refine Keeps.bind (Keeps.returnUnless _ _) fun _ => ?_
  refine Keeps.bind (Keeps.modify fun _ => rfl) fun _ => ?_
  refine Keeps.bind (Keeps.need _ _) fun _ => ?_
  exact Keeps.bind (Keeps.modify fun _ => rfl) fun _ => Keeps.returnUnless _ _

/-- The players keep the flag. -/
theorem initPlayers_isStarted (env : InitEnv) (config : ConfigurationNode) :
    Keeps SmartScreen.isStarted (initPlayers env config) := by
  refine Keeps.bind (createMediaPlayer_isStarted _ fun _ _ => rfl) fun _ => ?_
  refine Keeps.bind (createAudioPlayers_isStarted env _ _) fun _ => ?_
  refine Keeps.bind (Keeps.withState fun _ => Keeps.need _ _) fun _ => ?_
  refine Keeps.bind (Keeps.returnUnless _ _) fun _ => ?_
  refine Keeps.bind (createMediaPlayer_isStarted _ fun _ _ => rfl) fun _ => ?_
  refine Keeps.bind (createMediaPlayer_isStarted _ fun _ _ => rfl) fun _ => ?_
  refine Keeps.bind (createMediaPlayer_isStarted _ fun _ _ => rfl) fun _ => ?_
  refine Keeps.bind (createMediaPlayer_isStarted _ fun _ _ => rfl) fun _ => ?_
  exact createMediaPlayer_isStarted _ fun _ _ => rfl

/-- The GUI part keeps the flag. -/
theorem initGui_isStarted (env : InitEnv) (appConfig : AppConfig) :
    Keeps SmartScreen.isStarted (initGui env appConfig) := by
  refine Keeps.bind (Keeps.returnUnless _ _) fun _ => ?_
  refine Keeps.bind (Keeps.returnUnless _ _) fun _ => ?_
  refine Keeps.bind (Keeps.modify fun _ => rfl) fun _ => ?_
  refine Keeps.bind (Keeps.returnUnless _ _) fun _ => ?_
  refine Keeps.bind (Keeps.need _ _) fun _ => Keeps.bind (Keeps.need _ _) fun _ => ?_
  refine Keeps.bind (Keeps.modify fun _ => rfl) fun _ => ?_
  refine Keeps.bind (Keeps.returnUnless _ _) fun _ => ?_
  refine Keeps.bind (Keeps.returnUnless _ _) fun _ => ?_
  refine Keeps.bind (Keeps.modify fun _ => rfl) fun _ => ?_
  exact Keeps.bind (Keeps.orReturn _ _) fun _ => Keeps.modify fun _ => rfl

/-- The network part assigns nothing. -/
theorem initNetwork_isStarted (env : InitEnv) :
    Keeps SmartScreen.isStarted (initNetwork env) := by
  refine Keeps.bind (Keeps.returnUnless _ _) fun _ => ?_
  refine Keeps.bind (Keeps.returnUnless _ _) fun _ => ?_
  refine Keeps.bind (Keeps.returnUnless _ _) fun _ => ?_
  refine Keeps.bind (Keeps.returnUnless _ _) fun _ => ?_
  exact Keeps.bind (Keeps.returnUnless _ _) fun _ => Keeps.returnUnless _ _

/-- What the voice part does not assign. -/
def besideVoice (s : SmartScreen) : Bool × Option ThunderInputManager :=
  (s.isStarted, s.thunderInputManager)

/-- To bind the interaction handler assigns neither. -/
theorem bindInteractionHandler_besideVoice (s : SmartScreen) (manager : Option Obj) :
    besideVoice (s.bindInteractionHandler manager).2 = besideVoice s := by
  unfold SmartScreen.bindInteractionHandler
  cases s.aspInputInteractionHandler <;> rfl

/-- The voice part keeps the flag and the input manager. -/
theorem initVoice_besideVoice (env : InitEnv) : Keeps besideVoice (initVoice env) := by
  refine Keeps.bind (Keeps.modify fun _ => rfl) fun _ => ?_
  refine Keeps.bind (Keeps.withState fun _ => Keeps.returnUnless _ _) fun _ => ?_
  refine Keeps.bind (Keeps.modify fun _ => rfl) fun _ => ?_
  refine Keeps.bind (Keeps.withState fun _ => Keeps.need _ _) fun _ => ?_
  refine Keeps.bind (Keeps.modify fun _ => rfl) fun _ => ?_
  refine Keeps.bind (Keeps.modify fun _ => rfl) fun _ => ?_
  refine Keeps.bind (Keeps.withState fun _ => Keeps.returnUnless _ _) fun _ => ?_
  -- The handler is bound in the state that is tested.
  intro s
  have hreturn : Keeps besideVoice
      (Script.returnUnless (s.bindInteractionHandler env.guiManager).1 false : InitM Unit) :=
    Keeps.returnUnless _ _
  exact (hreturn _).trans (bindInteractionHandler_besideVoice s env.guiManager)

/-- The client part keeps the flag. -/
theorem initClient_isStarted (env : InitEnv) :
    Keeps SmartScreen.isStarted (initClient env) := by
  refine Keeps.bind (Keeps.returnUnless _ _) fun _ => ?_
  refine Keeps.bind (Keeps.withState fun _ => Keeps.need _ _) fun _ => ?_
  refine Keeps.bind (Keeps.modify fun _ => rfl) fun _ => ?_
  refine Keeps.bind (Keeps.returnUnless _ _) fun _ => ?_
  refine Keeps.bind (Keeps.modify fun _ => rfl) fun _ => ?_
  refine Keeps.bind (Keeps.withState fun _ => Keeps.returnUnless _ _) fun _ => ?_
  refine Keeps.bind (Keeps.need _ _) fun _ => Keeps.bind (Keeps.returnUnless _ _) fun _ => ?_
  exact Keeps.bind (Keeps.need _ _) fun _ => Keeps.modify fun _ => rfl

/-- No attempt of `Init` touches the flag of the transmission. -/
theorem init_isStarted (env : InitEnv) : Keeps SmartScreen.isStarted (init env) := by
  refine Keeps.bind (initConfig_isStarted env) fun _ => ?_
  refine Keeps.bind (Keeps.orReturn _ _) fun appConfig => ?_
  refine Keeps.bind (initPlayers_isStarted env _) fun _ => ?_
  refine Keeps.bind (initGui_isStarted env appConfig) fun _ => ?_
  refine Keeps.bind (initNetwork_isStarted env) fun _ => ?_
  refine Keeps.bind ((initVoice_besideVoice env).comp Prod.fst) fun _ => ?_
  exact Keeps.bind (initClient_isStarted env) fun _ => Keeps.ret true

end XrSpeechAvs.Proofs
