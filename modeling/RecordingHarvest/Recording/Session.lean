import RecordingHarvest.Recording.Capture
import RecordingHarvest.Retry

/-!
# Recording sessions

A session is a started recording and the connection it lives on.  Starting one creates, configures
and starts a recording, retried as a whole under a bounded policy; a recording created by an
attempt that fails is closed again.  A session takes snapshots until one fails.
-/

namespace RecordingHarvest

/-- What every session is set up with. -/
structure SessionPlan where
  /-- The predefined configuration of the recording. -/
  profile : String
  options : RecordingOptions
  method : CaptureMethod
  /-- The policy for starting a recording and for connecting again. -/
  policy : BackoffPolicy
  deriving Repr

/-- A started recording on a connection. -/
structure Session where
  connection : Nat
  recording : Int
  deriving DecidableEq, Repr

namespace Session

open Number (integerText)

/-- Configures and starts a new recording. -/
def configure (plan : SessionPlan) (connection : Nat) (id : Int) : Run Unit := do
  Recorder.setPredefinedConfiguration connection id plan.profile
  Recorder.setRecordingOptions connection id plan.options
  Recorder.startRecording connection id

/-- One attempt to create, configure and start a recording; after a fault it is closed again. -/
def startOnce (plan : SessionPlan) (connection : Nat) : Run Int := do
  let id ← Recorder.newRecording connection
  match ← Run.attempt (configure plan connection id) with
  | .ok () => return id
  | .error f =>
    match ← Run.attempt (Recorder.closeRecording connection id) with
    | .ok () => pure ()
    | .error g =>
      Run.note .warn ("Unable to close half-started recording " ++ integerText id ++ ": " ++
        g.message)
    Run.fail f

/-- Starts a recording on a connection, which is closed if that does not succeed. -/
def startOn (plan : SessionPlan) (connection : Nat) : Run Session := do
  match ← Run.attempt (Retry.run "start recording" plan.policy fun _ => startOnce plan connection) with
  | .ok id =>
    Run.note .info ("Recording " ++ integerText id ++ " started (" ++ plan.profile ++ ", maxAge " ++
      plan.options.maxAge.text ++ ")")
    return ⟨connection, id⟩
  | .error f =>
    Run.close connection
    Run.fail f

/-- Connects under a policy and starts a recording. -/
def start (plan : SessionPlan) (policy : BackoffPolicy) : Run Session := do
  startOn plan (← Retry.connect policy)

/-- A new session after a failed one: connecting is bounded too. -/
def reacquire (plan : SessionPlan) : Run Session := start plan plan.policy

/-- Takes a snapshot.  A fault comes back collapsed to the one recoverable fault, or fatal. -/
def snapshot (plan : SessionPlan) (s : Session) : Run Snapshot := do
  match ← Run.attempt (Capture.take plan.method s.connection s.recording) with
  | .error f => Run.fail f.sessionFault
  | .ok x =>
    Run.count .snapshots 1
    Run.note .debug ("Snapshot written to " ++ (← get).shelf.filePath x)
    return x

/-- Closes the recording, as far as that works, and the connection. -/
def close (s : Session) : Run Unit := do
  match ← Run.attempt (Recorder.closeRecording s.connection s.recording) with
  | .ok () => pure ()
  | .error f =>
    Run.note .debug ("Closing recording " ++ integerText s.recording ++ " failed: " ++ f.message)
  Run.close s.connection

end Session
end RecordingHarvest
