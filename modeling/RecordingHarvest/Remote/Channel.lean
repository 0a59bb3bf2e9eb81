import RecordingHarvest.Fault
import RecordingHarvest.Journal
import RecordingHarvest.Number.Digits
import RecordingHarvest.Remote.Message
import RecordingHarvest.Web

/-!
# The management channel

A channel carries calls to the target as messages.  A call that did not get through, by what the
channel reports, is a lost connection; one that the target turned down is a failure of the recording.
-/

namespace RecordingHarvest
namespace Remote

/-- What comes back for a request. -/
inductive Reply where
  /-- A status code other than success, with a message. -/
  | status (code : Nat) (message : String)
  /-- The bytes of a response. -/
  | response (bytes : List UInt8)
  deriving Repr

/-- The names of the status codes, from zero. -/
def statusNames : List String :=
  ["Ok", "Cancelled", "Unknown", "InvalidArgument", "DeadlineExceeded", "NotFound", "AlreadyExists",
    "PermissionDenied", "ResourceExhausted", "FailedPrecondition", "Aborted", "OutOfRange",
    "Unimplemented", "Internal", "Unavailable", "DataLoss", "Unauthenticated"]

/-- The name of a status code; one without a name counts as unknown. -/
def statusName (code : Nat) : String := statusNames.getD code "Unknown"

/-- The statuses that say a call did not get through. -/
def isLost (name : String) : Bool :=
  ["Unavailable", "DeadlineExceeded", "Cancelled", "Unknown"].contains name

/-- The fault that a status stands for. -/
def statusFault (operation name message : String) : Fault :=
  if isLost name then .connectionFailed (operation ++ ": " ++ message)
  else .recordingFailed (operation ++ " rejected (" ++ name ++ "): " ++ message)

/-- A way to a target's management interface. -/
structure Channel where
  endpoint : String
  /-- The largest block of a recording that will be asked for. -/
  blockSize : Nat
  deriving DecidableEq, Repr

namespace Channel

/-- What a message may take beyond a block. -/
def overhead : Nat := 1024 * 1024

/-- The longest response that is read. -/
def limit (c : Channel) : Nat := min (c.blockSize + overhead) (Number.width64 - 1)

/-- What a reply answers to a call of an operation. -/
def answer (c : Channel) (operation : String) : Reply → Answer
  | .status code message =>
    if code = 0 then .error (statusFault operation "Internal" "Missing response message.")
    else .error (statusFault operation (statusName code) message)
  | .response bytes =>
    if c.limit < bytes.length then
      .error (statusFault operation "OutOfRange" ("Error, message length too large: found " ++
        Number.naturalText bytes.length ++ " bytes, the limit is: " ++
        Number.naturalText c.limit ++ " bytes"))
    else
      match Message.readResponse? bytes with
      | none => .error (statusFault operation "Internal" "malformed response")
      | some response => .ok response.value?

/-- Calls an operation of the target, which serves the bytes of requests. -/
def call (c : Channel) (serve : List UInt8 → Reply) (call : Invocation) : Answer :=
  c.answer call.operation (serve (Message.writeRequest (.ofInvocation call)))

/-- Opens the channel: the endpoint must be an address, and the network must lead there. -/
def connect (c : Channel) (reaches : Web.Address → Bool) : Noting (Except Fault Unit) := do
  match Web.Address.ofText? false c.endpoint with
  | none => return .error (.configError "Invalid target endpoint")
  | some address =>
    note .debug ("Connecting to " ++ c.endpoint)
    if reaches address then
      note .info ("Opened management channel to " ++ c.endpoint)
      return .ok ()
    else return .error (.connectionFailed c.endpoint)

end Channel
end Remote
end RecordingHarvest
