import RecordingHarvest.Recording.Session

/-!
# The recording controller

```text
uninitialized ──connect──► connected ──start──► recording ◄──────────┐
                                                    │ snapshot fault │ reacquired
                                                    └─► reconnecting ┘
                     shutdown asked for, exhausted schedule, fatal fault ──► shutdown
```

One round: look whether shutdown was asked for, sleep for the harvest interval, take a snapshot and
queue it for the workers.  When the rounds are over the workers finish everything queued, in order.
-/

namespace RecordingHarvest

/-- What a controller is set up with. -/
structure ControllerPlan where
  session : SessionPlan
  /-- The policy for the first connection. -/
  initialPolicy : BackoffPolicy
  interval : Span
  deriving Repr

namespace Controller

open Number (integerText)

/-- Queues a snapshot for the workers. -/
def queue (x : Snapshot) : Run Unit := do
  Run.record (.captured x)
  match (← get).pool.submit x with
  | .ok pool => modify fun s => { s with pool := pool }
  | .error f => Run.note .error ("Unable to queue snapshot: " ++ f.message)

/-- Replaces a session after a recoverable fault. -/
def reconnect (plan : ControllerPlan) (failed : Session) : Run Session := do
  Run.enter .reconnecting
  Run.count .reconnects 1
  failed.close
  let session ← Session.reacquire plan.session
  Run.enter .recording
  Run.note .info ("Recording reacquired (id " ++ integerText session.recording ++ ")")
  return session

/-- Ends a session because shutdown was asked for. -/
def finish (session : Session) : Run Unit := do
  Run.note .debug ("Shutdown requested, closing recording " ++ integerText session.recording)
  session.close

/-- The rounds of a controller, each with the session the round before left. -/
def harvest (plan : ControllerPlan) : Nat → Session → Run Unit
  | 0, _ => Run.giveUp
  | fuel + 1, session => do
    if ← Run.stopping then finish session
    else if ← Run.rest plan.interval then
      Run.record .began
      match ← Run.attempt (session.snapshot plan.session) with
      | .ok x =>
        queue x
        harvest plan fuel session
      | .error f =>
        if f.isFatal then
          session.close
          Run.fail f
        else
          Run.note .warn ("Snapshot failed, reconnecting: " ++ f.message)
          harvest plan fuel (← reconnect plan session)
    else finish session

/-- Connects, starts a recording and harvests until shutdown or a fatal fault.  Shutdown before
there is a connection ends the run at once. -/
def rounds (plan : ControllerPlan) : Run Unit := do
  if ← Run.stopping then return
  match ← Retry.connectUntilStopped true plan.initialPolicy with
  | none => return
  | some connection =>
    Run.enter .connected
    let session ← Session.startOn plan.session connection
    Run.enter .recording
    Run.note .info ("Harvesting every " ++ plan.interval.text)
    harvest plan (← read).patience session

/-- Runs in the state of a handler. -/
abbrev Handling (σ : Type) := StateT σ Run

variable {σ : Type}

/-- Lets the workers take up what is queued, the oldest first, each job returning before the next
starts; `fuel` bounds the number of jobs. -/
def handleAll (handle : Snapshot → Handling σ Unit) : Nat → Handling σ Unit
  | 0 => return
  | fuel + 1 => do
    let pool := (← getThe Site).pool
    match pool.takeUp? with
    | none => return
    | some (x, taken) =>
      modifyThe Site fun s => { s with pool := taken }
      Run.record (.handled x)
      handle x
      modifyThe Site fun s => { s with pool := s.pool.finish pool.running.length .returned }
      handleAll handle fuel

/-- Lets the workers finish what is queued and stops them. -/
def drain (handle : Snapshot → Handling σ Unit) : Handling σ Unit := do
  Run.noting WorkerPool.noteClosing
  modifyThe Site fun s => { s with pool := s.pool.close }
  handleAll handle (← getThe Site).pool.waiting.length
  Run.noting (← getThe Site).pool.noteDrained

/-- The whole run with its outcome; the workers finish whether or not it is a fault. -/
def run (handle : Snapshot → Handling σ Unit) (plan : ControllerPlan) :
    Handling σ (Except Fault Unit) := do
  let result ← Run.attempt (rounds plan)
  Run.enter .shutdown
  drain handle
  match result with
  | .ok () => Run.note .info "Recording controller stopped"
  | .error f => Run.note .error ("Recording controller failed: " ++ f.message)
  return result

end Controller
end RecordingHarvest
