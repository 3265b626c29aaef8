import XrSpeechAvs.Avs

/-!
# `XrSpeechAvs.AvsSdt`: the functions of `avs_sdt.c`

The handle that the application passes around is a pointer to an `avs_sdt_obj_t`. The
seven callbacks that carry it have one shape, `routerCallback`: test the handle, call the
handler of the application if it is set, and for two of them call `AVS.cpp`. A handler is
taken to return without a call back into the library.

`Call` lists every exported function and every callback, and `Process.step` runs one of
them.
-/

set_option autoImplicit false

namespace XrSpeechAvs

open XrSpeechAvs.Impl

namespace Process

/-- `avs_sdt_object_is_valid`. The result is the object of a valid handle, and the test of
a released object is a use of it. -/
def avsSdtObjectIsValid (s : Process) (obj : Option Ptr) :
    Except Fault (Option (Ptr × AvsSdtObj)) :=
  match obj with
  | none => .ok none
  | some p =>
    match s.sdtObjs p with
    | none => .error (.useAfterFree p)
    | some o => if o.identifier = AVS_SDT_IDENTIFIER then .ok (some (p, o)) else .ok none

/-- Call a handler of the object, if it is set, with the user data of the object. -/
def callHandler (s : Process) (p : Ptr) (obj : AvsSdtObj) (handler : Option Handler)
    (event : AppEvent) : Process :=
  match handler with
  | some h => { s with
      appCalls := s.appCalls ++
        [{ object := p, handler := h, event := event, userData := obj.userData }] }
  | none => s

/-- `avs_sdt_create`. `mem` is what `malloc` returns, and it goes into the global before
the null test. -/
def avsSdtCreate (s : Process) (mem : Option Ptr) (params : AvsSdtParams) :
    Process × Option Ptr :=
  match mem with
  | none => ({ s with avsObj := none }, none)
  | some p => ({ s with
      avsObj := some p
      sdtObjs := Function.update s.sdtObjs p (some (.new params)) }, some p)

/-- `avs_sdt_handlers`: the handlers of the object are replaced. The result says whether
the handle was valid; the table for the router then holds the handle and the callbacks
below. -/
def avsSdtHandlers (s : Process) (object : Option Ptr) (handlersIn : AvsSdtHandlers) :
    Except Fault (Process × Bool) := do
  match ← s.avsSdtObjectIsValid object with
  | none => return (s, false)
  | some (p, obj) => return ({ s with
      sdtObjs := Function.update s.sdtObjs p (some { obj with handlers := handlersIn }) }, true)

/-- `avs_sdt_update_mask_pii`. -/
def avsSdtUpdateMaskPii (s : Process) (object : Option Ptr) (enable : Bool) :
    Except Fault (Process × Bool) := do
  match ← s.avsSdtObjectIsValid object with
  | none => return (s, false)
  | some (p, obj) => return ({ s with
      sdtObjs := Function.update s.sdtObjs p (some { obj with maskPii := enable }) }, true)

/-- `avs_sdt_destroy`: a valid object is released, and the smart screen with it. The global
`avs_obj` keeps its value. -/
def avsSdtDestroy (s : Process) (object : Option Ptr) : Except Fault Process := do
  match ← s.avsSdtObjectIsValid object with
  | none => return s
  | some (p, _) =>
    avsDeInitialize { s with sdtObjs := Function.update s.sdtObjs p none }

/-- `avs_recv_audiodata`. The size is cut to 16 bits, and the copy comes without a test of
the size. -/
def avsRecvAudiodata (s : Process) (frame : Frame) : Except Fault Process :=
  let length : UInt16 := frame.size.toUInt16
  if h : frame.data.length ≤ AUDIO_BUFFER_SIZE then
    let s := { s with audioBuffer := s.audioBuffer.memcpy frame.data h }
    s.voiceData s.audioBuffer.bytes length
  else .error .bufferOverflow

/-- `avs_server_msg`: the message goes to the object behind the global. -/
def avsServerMsg (s : Process) (message : Text) (length : Nat) : Except Fault Process := do
  match ← s.avsSdtObjectIsValid s.avsObj with
  | none => return s
  | some (p, obj) => return s.callHandler p obj obj.handlers.msg (.msg message length)

/-! ### The callbacks of the router -/

/-- The shape of the seven callbacks. `voice` is the call into `AVS.cpp` at the end. -/
def routerCallback (s : Process) (data : Option Ptr)
    (handler : AvsSdtHandlers → Option Handler) (event : AppEvent)
    (voice : Process → Except Fault Process) : Except Fault Process := do
  match ← s.avsSdtObjectIsValid data with
  | none => return s
  | some (p, obj) => voice (s.callHandler p obj (handler obj.handlers) event)

/-- The stream parameters of a session begin. -/
def streamParams (detectorResult : Option DetectorResult) : AvsSdtStreamParams where
  keywordSampleBegin := match detectorResult with
    | some d => d.offsetKwdBegin - d.offsetBufBegin
    | none => 0
  keywordSampleEnd := match detectorResult with
    | some d => d.offsetKwdEnd - d.offsetBufBegin
    | none => 0
  keywordDoa := match detectorResult with
    | some d => d.doa
    | none => 0
  keywordSensitivity := 0
  keywordSensitivityTriggered := 0
  keywordSensitivityHigh := 0
  keywordSensitivityHighSupport := false
  keywordSensitivityHighTriggered := false
  dynamicGain := 0
  linearConfidence := 0
  nonlinearConfidence := 0
  signalNoiseRatio := 255
  pushToTalk := false

/-- `avs_sdt_handler_session_begin`: the router begins a session. -/
def avsSdtHandlerSessionBegin (s : Process) (data : Option Ptr) (uuid : Uuid) (src : Nat)
    (dstIndex : UInt32) (detectorResult : Option DetectorResult) (configOut : Nat)
    (timestamp : Nat) : Except Fault Process :=
  s.routerCallback data (·.sessionBegin)
    (.sessionBegin uuid src dstIndex configOut (streamParams detectorResult) timestamp) .ok

/-- `avs_sdt_handler_session_end`: the router ends a session. -/
def avsSdtHandlerSessionEnd (s : Process) (data : Option Ptr) (uuid : Uuid) (stats : Nat)
    (timestamp : Nat) : Except Fault Process :=
  s.routerCallback data (·.sessionEnd) (.sessionEnd uuid stats timestamp) .ok

/-- The voice starts at the begin of a stream. -/
def avsSdtHandlerStreamBegin (s : Process) (data : Option Ptr) (uuid : Uuid) (src : Nat)
    (timestamp : Nat) : Except Fault Process :=
  s.routerCallback data (·.streamBegin) (.streamBegin uuid src timestamp) voiceStart

/-- `avs_sdt_handler_stream_kwd`: the keyword has been passed in the stream. -/
def avsSdtHandlerStreamKwd (s : Process) (data : Option Ptr) (uuid : Uuid)
    (timestamp : Nat) : Except Fault Process :=
  s.routerCallback data (·.streamKwd) (.streamKwd uuid timestamp) .ok

/-- The voice stops at the end of a stream. -/
def avsSdtHandlerStreamEnd (s : Process) (data : Option Ptr) (uuid : Uuid) (stats : Nat)
    (timestamp : Nat) : Except Fault Process :=
  s.routerCallback data (·.streamEnd) (.streamEnd uuid stats timestamp) voiceStop

/-- `avs_sdt_handler_connected`: the router is connected. -/
def avsSdtHandlerConnected (s : Process) (data : Option Ptr) (uuid : Uuid)
    (timestamp : Nat) : Except Fault Process :=
  s.routerCallback data (·.connected) (.connected uuid timestamp) .ok

/-- `avs_sdt_handler_disconnected`: the router has lost the connection. -/
def avsSdtHandlerDisconnected (s : Process) (data : Option Ptr) (uuid : Uuid)
    (retry : Bool) (timestamp : Nat) : Except Fault Process :=
  s.routerCallback data (·.disconnected) (.disconnected uuid retry timestamp) .ok

/-- The test of a live object of this library. -/
theorem avsSdtObjectIsValid_of_live {s : Process} {p : Ptr} {obj : AvsSdtObj}
    (hobj : s.sdtObjs p = some obj) (hid : obj.identifier = AVS_SDT_IDENTIFIER) :
    s.avsSdtObjectIsValid (some p) = .ok (some (p, obj)) := by
  simp only [avsSdtObjectIsValid, hobj, hid, if_true]

/-- A call of a handler only adds to the calls of the application. -/
theorem callHandler_eq (s : Process) (p : Ptr) (obj : AvsSdtObj) (handler : Option Handler)
    (event : AppEvent) : s.callHandler p obj handler event = { s with
      appCalls := s.appCalls ++ handler.toList.map fun h =>
        { object := p, handler := h, event := event, userData := obj.userData } } := by
  cases handler with
  | none =>
    show s = { s with appCalls := s.appCalls ++ [] }
    rw [List.append_nil]
  | some h => rfl

/-- A handler of the application touches no smart screen. -/
@[simp] theorem callHandler_screens (s : Process) (p : Ptr) (obj : AvsSdtObj)
    (handler : Option Handler) (event : AppEvent) :
    (s.callHandler p obj handler event).screens = s.screens := by
  rw [callHandler_eq]

/-- A handler of the application does not touch the global `AvsSmartScreen`. -/
@[simp] theorem callHandler_avsSmartScreen (s : Process) (p : Ptr) (obj : AvsSdtObj)
    (handler : Option Handler) (event : AppEvent) :
    (s.callHandler p obj handler event).avsSmartScreen = s.avsSmartScreen := by
  rw [callHandler_eq]

/-- A handler of the application touches no object. -/
@[simp] theorem callHandler_sdtObjs (s : Process) (p : Ptr) (obj : AvsSdtObj)
    (handler : Option Handler) (event : AppEvent) :
    (s.callHandler p obj handler event).sdtObjs = s.sdtObjs := by
  rw [callHandler_eq]

/-- A frame that fits is copied, and then the buffer goes to `Voice_Data`. -/
theorem avsRecvAudiodata_of_fits (s : Process) (frame : Frame)
    (h : frame.data.length ≤ AUDIO_BUFFER_SIZE) :
    s.avsRecvAudiodata frame
      = ({ s with audioBuffer := s.audioBuffer.memcpy frame.data h } : Process).voiceData
          (s.audioBuffer.memcpy frame.data h).bytes frame.size.toUInt16 := by
  unfold avsRecvAudiodata
  rw [dif_pos h]

/-- A callback on a live object: its handler first, and then the voice. -/
theorem routerCallback_of_live {s : Process} {p : Ptr} {obj : AvsSdtObj}
    (hobj : s.sdtObjs p = some obj) (hid : obj.identifier = AVS_SDT_IDENTIFIER)
    (handler : AvsSdtHandlers → Option Handler) (event : AppEvent)
    (voice : Process → Except Fault Process) :
    s.routerCallback (some p) handler event voice
      = voice (s.callHandler p obj (handler obj.handlers) event) := by
  unfold routerCallback
  rw [avsSdtObjectIsValid_of_live hobj hid]
  rfl

end Process

/-- A callback of the router, with the arguments that the code reads. -/
inductive RouterCallback where
  | sessionBegin (uuid : Uuid) (src : Nat) (dstIndex : UInt32)
      (detectorResult : Option DetectorResult) (configOut : Nat) (timestamp : Nat)
  | sessionEnd (uuid : Uuid) (stats : Nat) (timestamp : Nat)
  | streamBegin (uuid : Uuid) (src : Nat) (timestamp : Nat)
  | streamKwd (uuid : Uuid) (timestamp : Nat)
  | streamEnd (uuid : Uuid) (stats : Nat) (timestamp : Nat)
  | connected (uuid : Uuid) (timestamp : Nat)
  | disconnected (uuid : Uuid) (retry : Bool) (timestamp : Nat)
  deriving DecidableEq, Repr

namespace RouterCallback

/-- The handler of the application that the callback calls. -/
def handler : RouterCallback → AvsSdtHandlers → Option Handler
  | .sessionBegin .. => (·.sessionBegin)
  | .sessionEnd .. => (·.sessionEnd)
  | .streamBegin .. => (·.streamBegin)
  | .streamKwd .. => (·.streamKwd)
  | .streamEnd .. => (·.streamEnd)
  | .connected .. => (·.connected)
  | .disconnected .. => (·.disconnected)

/-- The event that the handler is called with. -/
def event : RouterCallback → AppEvent
  | .sessionBegin uuid src dstIndex detectorResult configOut timestamp =>
    .sessionBegin uuid src dstIndex configOut (Process.streamParams detectorResult) timestamp
  | .sessionEnd uuid stats timestamp => .sessionEnd uuid stats timestamp
  | .streamBegin uuid src timestamp => .streamBegin uuid src timestamp
  | .streamKwd uuid timestamp => .streamKwd uuid timestamp
  | .streamEnd uuid stats timestamp => .streamEnd uuid stats timestamp
  | .connected uuid timestamp => .connected uuid timestamp
  | .disconnected uuid retry timestamp => .disconnected uuid retry timestamp

/-- The call into `AVS.cpp` at the end of the callback. -/
def voice : RouterCallback → Process → Except Fault Process
  | .streamBegin .. => Process.voiceStart
  | .streamEnd .. => Process.voiceStop
  | _ => .ok

end RouterCallback

/-- A call of an exported function, or of a callback. -/
inductive Call where
  | avsSdtCreate (mem : Option Ptr) (params : AvsSdtParams)
  | avsSdtHandlers (object : Option Ptr) (handlersIn : AvsSdtHandlers)
  | avsSdtUpdateMaskPii (object : Option Ptr) (enable : Bool)
  | avsSdtDestroy (object : Option Ptr)
  | callback (data : Option Ptr) (cb : RouterCallback)
  | avsRecvAudiodata (frame : Frame)
  | avsServerMsg (message : Text) (length : Nat)
  | avsInitialize (mem : Ptr)
  | avsDeInitialize
  | voiceStart
  | voiceStop
  | voiceData (dataBuffer : List Byte) (length : UInt16)

namespace Process

/-- Run a callback on the handle `data`. -/
def runCallback (s : Process) (data : Option Ptr) : RouterCallback → Except Fault Process
  | .sessionBegin uuid src dstIndex detectorResult configOut timestamp =>
    s.avsSdtHandlerSessionBegin data uuid src dstIndex detectorResult configOut timestamp
  | .sessionEnd uuid stats timestamp => s.avsSdtHandlerSessionEnd data uuid stats timestamp
  | .streamBegin uuid src timestamp => s.avsSdtHandlerStreamBegin data uuid src timestamp
  | .streamKwd uuid timestamp => s.avsSdtHandlerStreamKwd data uuid timestamp
  | .streamEnd uuid stats timestamp => s.avsSdtHandlerStreamEnd data uuid stats timestamp
  | .connected uuid timestamp => s.avsSdtHandlerConnected data uuid timestamp
  | .disconnected uuid retry timestamp =>
    s.avsSdtHandlerDisconnected data uuid retry timestamp

/-- The seven callbacks differ in their handler, their event and their voice call only. -/
theorem runCallback_eq (s : Process) (data : Option Ptr) (cb : RouterCallback) :
    s.runCallback data cb = s.routerCallback data cb.handler cb.event cb.voice := by
  cases cb <;> rfl

/-- Run one call. -/
def step (s : Process) : Call → Except Fault Process
  | .avsSdtCreate mem params => .ok (s.avsSdtCreate mem params).1
  | .avsSdtHandlers object handlersIn => Prod.fst <$> s.avsSdtHandlers object handlersIn
  | .avsSdtUpdateMaskPii object enable => Prod.fst <$> s.avsSdtUpdateMaskPii object enable
  | .avsSdtDestroy object => s.avsSdtDestroy object
  | .callback data cb => s.runCallback data cb
  | .avsRecvAudiodata frame => s.avsRecvAudiodata frame
  | .avsServerMsg message length => s.avsServerMsg message length
  | .avsInitialize mem => .ok (s.avsInitialize mem)
  | .avsDeInitialize => s.avsDeInitialize
  | .voiceStart => s.voiceStart
  | .voiceStop => s.voiceStop
  | .voiceData dataBuffer length => s.voiceData dataBuffer length

/-! ### The calls that test a handle -/

/-- A call on the object behind a handle. It does nothing when the test of the handle
fails. -/
def onObject (s : Process) (data : Option Ptr)
    (k : Ptr → AvsSdtObj → Except Fault Process) : Except Fault Process := do
  match ← s.avsSdtObjectIsValid data with
  | none => return s
  | some (p, obj) => k p obj

/-- `avs_sdt_handlers` tests its handle and writes the handlers. -/
theorem step_avsSdtHandlers (s : Process) (object : Option Ptr) (handlersIn : AvsSdtHandlers) :
    s.step (.avsSdtHandlers object handlersIn) = s.onObject object fun p obj =>
      .ok { s with sdtObjs :=
        Function.update s.sdtObjs p (some { obj with handlers := handlersIn }) } := by
  show Prod.fst <$> s.avsSdtHandlers object handlersIn = _
  unfold avsSdtHandlers onObject
  cases s.avsSdtObjectIsValid object with
  | error f => rfl
  | ok found => cases found <;> rfl

/-- `avs_sdt_update_mask_pii` tests its handle and writes the mask. -/
theorem step_avsSdtUpdateMaskPii (s : Process) (object : Option Ptr) (enable : Bool) :
    s.step (.avsSdtUpdateMaskPii object enable) = s.onObject object fun p obj =>
      .ok { s with sdtObjs :=
        Function.update s.sdtObjs p (some { obj with maskPii := enable }) } := by
  show Prod.fst <$> s.avsSdtUpdateMaskPii object enable = _
  unfold avsSdtUpdateMaskPii onObject
  cases s.avsSdtObjectIsValid object with
  | error f => rfl
  | ok found => cases found <;> rfl

/-- `avs_sdt_destroy` tests its handle, frees the object and tears the smart screen down. -/
theorem step_avsSdtDestroy (s : Process) (object : Option Ptr) :
    s.step (.avsSdtDestroy object) = s.onObject object fun p _ =>
      avsDeInitialize { s with sdtObjs := Function.update s.sdtObjs p none } := rfl

/-- The handler of the application first, and then the voice. -/
theorem step_callback (s : Process) (data : Option Ptr) (cb : RouterCallback) :
    s.step (.callback data cb) = s.onObject data fun p obj =>
      cb.voice (s.callHandler p obj (cb.handler obj.handlers) cb.event) :=
  runCallback_eq s data cb

/-- `avs_server_msg` tests the global and calls the handler of its object. -/
theorem step_avsServerMsg (s : Process) (message : Text) (length : Nat) :
    s.step (.avsServerMsg message length) = s.onObject s.avsObj fun p obj =>
      .ok (s.callHandler p obj obj.handlers.msg (.msg message length)) := rfl

end Process

end XrSpeechAvs
