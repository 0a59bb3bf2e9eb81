import RecordingHarvest.BackoffPolicy
import RecordingHarvest.Site

/-!
# Retry loops

An operation is tried until it succeeds, fails with a fatal fault, or the schedule of its policy
has given all its waits.  Every failure that is followed by a wait is noted: as information at most
once per interval, otherwise for debugging.
-/

namespace RecordingHarvest

/-- Lets one line through per interval. -/
structure LogThrottle where
  interval : Span
  last : Option Instant
  deriving Repr

namespace LogThrottle

/-- A throttle that has let nothing through; an interval that no instant can take counts as
none. -/
def new (interval : Span) : LogThrottle := ⟨interval.orElse .zero, none⟩

/-- Whether a line may pass now. -/
def admits (t : LogThrottle) (now : Instant) : Bool :=
  match t.last with
  | some last => !(now.nanosSince last < (t.interval.nanos : Int))
  | none => true

/-- The throttle after a look now. -/
def after (t : LogThrottle) (now : Instant) : LogThrottle :=
  if t.admits now then { t with last := some now } else t

end LogThrottle

namespace Retry

variable {α : Type}

open Number (naturalText)

/-- The line about a failure that is followed by a wait. -/
def failureLine (admitted : Bool) (name : String) (attempts : Nat) (f : Fault) (wait : Span) :
    Level × String :=
  if admitted then (.info, name ++ " failed (" ++ f.message ++ "), retrying in " ++ wait.text)
  else
    (.debug, name ++ " attempt " ++ naturalText attempts ++ " failed (" ++ f.message ++
      "), retrying in " ++ wait.text)

/-- The rounds of a retry loop, `attempts` of them done.  The operation is told which attempt it
is.  After a sleep the loop is abandoned, without result, if shutdown was asked for and `abandon`
is set. -/
def rounds (abandon : Bool) (name : String) (op : Nat → Run α) :
    Nat → Nat → Backoff → LogThrottle → Run (Option α)
  | 0, _, _, _ => Run.giveUp
  | fuel + 1, attempts, backoff, throttle => do
    let attempts := min (attempts + 1) tryLimit
    match ← Run.attempt (op attempts) with
    | .ok a =>
      if 1 < attempts then
        Run.note .info (name ++ " succeeded after " ++ naturalText attempts ++ " attempts")
      return some a
    | .error f =>
      if f.isFatal then Run.fail f
      else
        match backoff.next (← read).chance with
        | none =>
          Run.note .warn (name ++ " failed after " ++ naturalText attempts ++
            " attempts, giving up: " ++ f.message)
          Run.fail (.backoffExhausted name attempts f)
        | some (wait, backoff) =>
          let now := (← get).now
          let (level, line) := failureLine (throttle.admits now) name attempts f wait
          Run.note level line
          Run.pause wait
          if abandon && (← Run.stopping) then return none
          else rounds abandon name op fuel attempts backoff (throttle.after now)

/-- Tries an operation under a policy, until shutdown if `abandon` is set. -/
def untilStopped (abandon : Bool) (name : String) (policy : BackoffPolicy) (op : Nat → Run α) :
    Run (Option α) := do
  let w ← read
  rounds abandon name op w.patience 0 (.start policy) (.new w.logInterval)

/-- Tries an operation under a policy. -/
def run (name : String) (policy : BackoffPolicy) (op : Nat → Run α) : Run α := do
  match ← untilStopped false name policy op with
  | some a => return a
  | none => Run.giveUp

/-- Connects under a policy, until shutdown if `abandon` is set. -/
def connectUntilStopped (abandon : Bool) (policy : BackoffPolicy) : Run (Option Nat) := do
  let connection ← untilStopped abandon "connect to target" policy fun _ => Run.connect
  if connection.isSome then Run.note .info "Connected to target management interface"
  return connection

/-- Connects under a policy. -/
def connect (policy : BackoffPolicy) : Run Nat := do
  match ← connectUntilStopped false policy with
  | some connection => return connection
  | none => Run.giveUp

end Retry
end RecordingHarvest
