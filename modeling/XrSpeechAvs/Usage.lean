import XrSpeechAvs.Lib.Lifetime
import XrSpeechAvs.System

/-!
# `XrSpeechAvs.Usage`: in which order the code may be called

The abstract model of the rules for the callers. The code tests its pointers against null and
reads an identifier behind a handle, but it cannot tell a released object from a live one. What
decides whether a call is defined is small: the lifetime of the smart screen, which objects of
`avs_sdt.c` are live, and which of them gets the server messages. `Usage` keeps this and no
data.

`Usage.call` has the rule of each call, with the fault of a call that breaks it. `Usage.step`
adds the other events. There it asks for more than the code needs: every directive with the
text of `Speak`, and every message of the video skill, counts as a server message, and an
environment must be one in which a first attempt of `Init` does not fault.

A deletion of the smart screen is taken to complete, as in `Process.avsDeInitialize`.
-/

set_option autoImplicit false

namespace XrSpeechAvs

open XrSpeechAvs.Impl
open XrSpeechAvs.Lib

/-- The lifetime of the smart screen, the live objects, and the object for the server
messages. -/
structure Usage where
  screen : Lifetime Ptr
  live : Ptr → Bool
  server : Option Ptr

namespace Usage

/-- Before the first call. -/
def init : Usage where
  screen := .unborn
  live := fun _ => false
  server := none

/-- A call on the smart screen. There may be none yet, but it must not be gone. -/
def touch (u : Usage) : Except Fault Usage :=
  match u.screen with
  | .gone p => .error (.useAfterFree p)
  | _ => .ok u

/-- A teardown. It must not be the second one. -/
def release (u : Usage) : Except Fault Usage :=
  match u.screen with
  | .unborn => .ok u
  | .alive p => .ok { u with screen := .gone p }
  | .gone p => .error (.doubleFree p)

/-- A call with a handle. It does nothing when the handle is null, and a handle that is not null
must be live. -/
def onHandle (u : Usage) (data : Option Ptr) (k : Ptr → Except Fault Usage) :
    Except Fault Usage :=
  match data with
  | none => .ok u
  | some p => if u.live p then k p else .error (.useAfterFree p)

/-- A server message goes to the object created last. -/
def serverMsg (u : Usage) : Except Fault Usage := u.onHandle u.server fun _ => .ok u

/-- The rule of each call. -/
def call (u : Usage) : Call → Except Fault Usage
  | .avsSdtCreate none _ => .ok { u with server := none }
  | .avsSdtCreate (some p) _ => .ok { u with
      server := some p
      live := Function.update u.live p true }
  | .avsSdtHandlers object _ | .avsSdtUpdateMaskPii object _ => u.onHandle object fun _ => .ok u
  | .avsSdtDestroy object =>
    u.onHandle object fun p => { u with live := Function.update u.live p false }.release
  | .callback data (.streamBegin ..) | .callback data (.streamEnd ..) =>
    u.onHandle data fun _ => u.touch
  | .callback data _ => u.onHandle data fun _ => .ok u
  | .avsServerMsg _ _ => u.serverMsg
  | .avsRecvAudiodata frame =>
    if frame.data.length ≤ AUDIO_BUFFER_SIZE then u.touch else .error .bufferOverflow
  | .avsInitialize mem =>
    match u.screen with
    | .unborn => .ok { u with screen := .alive mem }
    | _ => .ok u
  | .avsDeInitialize => u.release
  | .voiceStart | .voiceStop | .voiceData _ _ => u.touch

/-- The rule of each event. -/
def step (u : Usage) : SystemEvent → Except SystemFault Usage
  | .call c => (u.call c).mapError .call
  | .init env =>
    match (Impl.init env .new).1 with
    | .fault f => .error (.init f)
    | _ => u.touch.mapError .call
  | .notify _ (.receive message) =>
    if ThunderInputManager.contains message ThunderInputManager.speakKey then
      u.serverMsg.mapError .call
    else .ok u
  | .notify _ _ => .ok u
  | .vskMsg _ _ => u.serverMsg.mapError .call

/-- A server message changes no usage. -/
theorem serverMsg_eq_of_ok {u v : Usage} (h : u.serverMsg = .ok v) : v = u := by
  unfold serverMsg onHandle at h
  cases hserver : u.server with
  | none =>
    rw [hserver] at h
    exact (Except.ok.inj h).symm
  | some p =>
    simp only [hserver] at h
    split at h
    · exact (Except.ok.inj h).symm
    · cases h

/-- Neither does a call on the smart screen. -/
theorem touch_eq_of_ok {u v : Usage} (h : u.touch = .ok v) : v = u := by
  unfold touch at h
  split at h
  · cases h
  · exact (Except.ok.inj h).symm

end Usage

/-- The usage of a process. -/
def Process.usage (s : Process) : Usage where
  screen := match s.avsSmartScreen with
    | none => .unborn
    | some p => if (s.screens p).isSome then .alive p else .gone p
  live := fun p => (s.sdtObjs p).isSome
  server := s.avsObj

end XrSpeechAvs
