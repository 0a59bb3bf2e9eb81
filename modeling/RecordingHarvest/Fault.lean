import RecordingHarvest.Number.Digits

/-!
# Faults

What can go wrong, by cause.  Only a remote answer of the wrong shape, an exhausted retry schedule
and a setting that cannot be used are fatal; every other fault may be retried, and ends a recording
session at most (`Fault.sessionFault`).
-/

namespace RecordingHarvest

/-- The causes of failure. -/
inductive Fault where
  /-- The target cannot be reached. -/
  | connectionFailed (text : String)
  /-- A recording could not be created, started, cloned, read or copied. -/
  | recordingFailed (text : String)
  /-- A remote operation answered with a value of another kind than expected. -/
  | protocolShape (operation expected actual : String)
  /-- A retry schedule ran out; `source` is the fault of the last attempt. -/
  | backoffExhausted (operation : String) (attempts : Nat) (source : Fault)
  /-- A snapshot line could not be read. -/
  | decodeFailed (text : String)
  /-- A capability rejected an event. -/
  | conversionFailed (text : String)
  /-- A batch was not accepted. -/
  | sendFailed (text : String)
  /-- A snapshot could not be removed. -/
  | cleanupFailed (text : String)
  /-- The consumer of the event queue is gone. -/
  | queueClosed
  /-- A payload could not be compressed. -/
  | compressionFailed (text : String)
  /-- A setting is malformed or out of bounds. -/
  | configError (text : String)
  /-- A local file operation failed. -/
  | io (text : String)
  deriving DecidableEq, Repr, Inhabited

namespace Fault

/-- The name of a fault's cause. -/
def kindName : Fault → String
  | connectionFailed _ => "ConnectionFailed"
  | recordingFailed _ => "RecordingFailed"
  | protocolShape .. => "ProtocolShape"
  | backoffExhausted .. => "BackoffExhausted"
  | decodeFailed _ => "DecodeFailed"
  | conversionFailed _ => "ConversionFailed"
  | sendFailed _ => "SendFailed"
  | cleanupFailed _ => "CleanupFailed"
  | queueClosed => "QueueClosed"
  | compressionFailed _ => "CompressionFailed"
  | configError _ => "ConfigError"
  | io _ => "Io"

/-- The fault of a kind that holds nothing but a text. -/
def ofKindName? (kind text : String) : Option Fault :=
  [connectionFailed text, recordingFailed text, decodeFailed text, conversionFailed text,
    sendFailed text, cleanupFailed text, compressionFailed text, configError text, io text].find?
      fun f => f.kindName == kind

/-- The message shown for a fault. -/
def message : Fault → String
  | connectionFailed text => "Connection failed: " ++ text
  | recordingFailed text => "Recording failed: " ++ text
  | protocolShape operation expected actual =>
    "Unexpected response from " ++ operation ++ ": expected " ++ expected ++ ", got " ++ actual
  | backoffExhausted operation attempts source =>
    operation ++ " gave up after " ++ Number.naturalText attempts ++ " attempts: " ++
      source.message
  | decodeFailed text => "Decode failed: " ++ text
  | conversionFailed text => "Conversion failed: " ++ text
  | sendFailed text => "Send failed: " ++ text
  | cleanupFailed text => "Cleanup failed: " ++ text
  | queueClosed => "Raw event queue closed"
  | compressionFailed text => "Compression failed: " ++ text
  | configError text => "Configuration error: " ++ text
  | io text => "I/O error: " ++ text

/-- Faults that end the run. -/
def isFatal : Fault → Bool
  | protocolShape .. | backoffExhausted .. | configError _ => true
  | _ => false

/-- Faults after which a retry loop may try again: all that are not fatal. -/
def isRetryable (f : Fault) : Bool := !f.isFatal

/-- The one recoverable fault a session reports: recoverable faults of other kinds become a
recording fault with their message as text, fatal ones stay. -/
def sessionFault : Fault → Fault
  | recordingFailed text => recordingFailed text
  | f => if f.isFatal then f else recordingFailed f.message

/-- Collapsing a fault changes neither way whether it is fatal. -/
@[simp] theorem isFatal_sessionFault (f : Fault) : f.sessionFault.isFatal = f.isFatal := by
  cases f <;> rfl

end Fault
end RecordingHarvest
