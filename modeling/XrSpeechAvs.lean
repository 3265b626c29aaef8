import XrSpeechAvs.Lib.Run
import XrSpeechAvs.Lib.Pairs
import XrSpeechAvs.Lib.Script
import XrSpeechAvs.Impl.ThunderVoiceHandler
import XrSpeechAvs.Impl.ThunderInputManager
import XrSpeechAvs.Impl.SmartScreen
import XrSpeechAvs.Impl.Init
import XrSpeechAvs.Process
import XrSpeechAvs.Avs
import XrSpeechAvs.AvsSdt
import XrSpeechAvs.Proofs.TalkState
import XrSpeechAvs.Proofs.Framing
import XrSpeechAvs.Proofs.VoiceStream
import XrSpeechAvs.Proofs.Lifecycle
import XrSpeechAvs.Proofs.Microphone
import XrSpeechAvs.Proofs.InitLines
import XrSpeechAvs.Proofs.InitFaults
import XrSpeechAvs.Proofs.InitMembers
import XrSpeechAvs.Proofs.Teardown
import XrSpeechAvs.Proofs.VoiceToApps
import XrSpeechAvs.Proofs.Isolation
import XrSpeechAvs.Proofs.AudioBuffer
import XrSpeechAvs.Proofs.LimitedInteraction
import XrSpeechAvs.Impl.Initialize
import XrSpeechAvs.Proofs.Startup
import XrSpeechAvs.Impl.ThunderLogger
import XrSpeechAvs.Proofs.Verbatim
import XrSpeechAvs.Lib.Json
import XrSpeechAvs.Lib.JsonSearch
import XrSpeechAvs.Proofs.SpeakDirective
import XrSpeechAvs.Lib.Simulation
import XrSpeechAvs.Lib.Switch
import XrSpeechAvs.VoiceLink
import XrSpeechAvs.Impl.Observers
import XrSpeechAvs.Proofs.Observers
import XrSpeechAvs.System
import XrSpeechAvs.Proofs.VoiceLink
import XrSpeechAvs.Lib.Lifetime
import XrSpeechAvs.Proofs.SmartScreenLife
import XrSpeechAvs.Proofs.ServerMessages
import XrSpeechAvs.Proofs.InputManagers
import XrSpeechAvs.Proofs.CacheNumbers
import XrSpeechAvs.Proofs.InitOutcome
import XrSpeechAvs.Proofs.Masking
import XrSpeechAvs.Lib.History
import XrSpeechAvs.Proofs.ManagerTrace
import XrSpeechAvs.Proofs.SdkTrace
import XrSpeechAvs.Proofs.Usage
