import XrSpeechAvs.Impl.Sdk
import XrSpeechAvs.Lib.Printf

/-!
# `XrSpeechAvs.Impl.ThunderLogger`: the functions that write to the log

The model of `ThunderLogger.cpp`. Every function ends in `XLOGD_DEBUG`, which reads its
first argument as a format of `printf` and writes one entry. The log is the list of its
entries, oldest first. A format whose behaviour is undefined is a fault.

`convertLevelToChar` belongs to the SDK, so it is a parameter. The time that `emit` is
given is not read.
-/

set_option autoImplicit false

namespace XrSpeechAvs.Impl

open XrSpeechAvs.Lib

/-- The entries of the log. -/
abbrev LogEntries := List Text

/-- `XLOGD_DEBUG(format, args...)`, for arguments that are strings. -/
def xlogdDebug (log : LogEntries) (format : Text) (args : List Text) :
    Except FormatFault LogEntries :=
  (fun entry => log ++ [entry]) <$> printf format args

namespace ThunderLogger

/-- The text before the `%s` in the format of `Trace`. -/
def TRACE_PREFIX : Text := ['A', 'V', 'S', 'C', 'l', 'i', 'e', 'n', 't', ' ', '-', ' ']

/-- `Trace`: the text is the argument of `"AVSClient - %s"`. -/
def trace (log : LogEntries) (stringToPrint : Text) : Except FormatFault LogEntries :=
  xlogdDebug log (TRACE_PREFIX ++ ['%', 's']) [stringToPrint]

/-- `PrettyTrace` of one text. -/
def prettyTrace (log : LogEntries) (stringToPrint : Text) : Except FormatFault LogEntries :=
  trace log stringToPrint

/-- `PrettyTrace` of a list of lines. -/
def prettyTraceLines (log : LogEntries) (lines : List Text) :
    Except FormatFault LogEntries :=
  lines.foldlM prettyTrace log

/-- `Log` of one text: the text is the format. -/
def log (entries : LogEntries) (stringToPrint : Text) : Except FormatFault LogEntries :=
  xlogdDebug entries stringToPrint []

/-- `Log` of a list of lines. -/
def logLines (entries : LogEntries) (lines : List Text) : Except FormatFault LogEntries :=
  lines.foldlM log entries

/-- `emit`: the line that it puts together is the format. The moniker and the text are
C strings. -/
def emit {Level : Type} (convertLevelToChar : Level → Char) (log : LogEntries)
    (level : Level) (threadMoniker text : Text) : Except FormatFault LogEntries :=
  let ss := ['['] ++ cStr threadMoniker ++ [']', ' ', convertLevelToChar level, ' '] ++ cStr text
  xlogdDebug log ss []

end ThunderLogger

/-- A call of a function that writes to the log. -/
inductive LogCall (Level : Type) where
  | trace (stringToPrint : Text)
  | prettyTrace (stringToPrint : Text)
  | prettyTraceLines (lines : List Text)
  | log (stringToPrint : Text)
  | logLines (lines : List Text)
  | emit (level : Level) (threadMoniker text : Text)

/-- Run one call. -/
def LogCall.apply {Level : Type} (convertLevelToChar : Level → Char) (log : LogEntries) :
    LogCall Level → Except FormatFault LogEntries
  | .trace stringToPrint => ThunderLogger.trace log stringToPrint
  | .prettyTrace stringToPrint => ThunderLogger.prettyTrace log stringToPrint
  | .prettyTraceLines lines => ThunderLogger.prettyTraceLines log lines
  | .log stringToPrint => ThunderLogger.log log stringToPrint
  | .logLines lines => ThunderLogger.logLines log lines
  | .emit level threadMoniker text =>
    ThunderLogger.emit convertLevelToChar log level threadMoniker text

end XrSpeechAvs.Impl
