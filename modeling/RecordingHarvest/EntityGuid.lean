import RecordingHarvest.Attributes
import RecordingHarvest.Recording.Recorder
import RecordingHarvest.Retry

/-!
# Resolving the entity guid

An agent inside the target may publish an entity guid.  Its metadata is read under a poll policy:
without an agent there is no guid; an agent without a guid is asked again; a lost connection is
replaced and asked again.  All reads share one schedule, and every connection is closed before the
next one is made.
-/

namespace RecordingHarvest
namespace EntityGuid

/-- What asking on one connection ends with. -/
inductive Lookup where
  | settled (guid : Option String)
  | reconnect
  deriving DecidableEq, Repr

/-- What one read of the metadata asks for. -/
inductive Verdict where
  | settled (guid : Option String)
  /-- There is an agent, but no guid yet. -/
  | pending
  | lost
  deriving DecidableEq, Repr

/-- Judges one read and notes what it says. -/
def judge : Except Fault (Option String) → Run Verdict
  | .error (.connectionFailed text) => do
    Run.note .info ("Connection lost while reading linking metadata (" ++ text ++ ").")
    return .lost
  | .error f => do
    Run.note .info ("Unable to identify remote agent (" ++ f.message ++
      "). Not setting entity guid.")
    return .settled none
  | .ok (some guid) => do
    Run.note .info ("Obtained entity guid from remote agent: " ++ guid)
    return .settled (some guid)
  | .ok none => return .pending

/-- Asks on one connection until it is settled or lost; gives what is left of the schedule. -/
def ask (connection : Nat) : Nat → Backoff → Run (Lookup × Backoff)
  | 0, _ => Run.giveUp
  | fuel + 1, backoff => do
    match ← judge (← Run.attempt (LinkingMetadata.entityGuid connection)) with
    | .settled guid => return (.settled guid, backoff)
    | verdict =>
      match backoff.next (← read).chance with
      | none =>
        Run.note .info "No entity guid after backing off. Not setting entity guid."
        return (.settled none, backoff)
      | some (wait, backoff) =>
        if verdict = .lost then
          Run.note .info ("Reconnecting in " ++ wait.text ++ ".")
          Run.pause wait
          return (.reconnect, backoff)
        else
          Run.note .info ("Remote agent identified but entity guid not yet available. Backing off "
            ++ wait.text ++ ".")
          Run.pause wait
          ask connection fuel backoff

/-- Connects and asks, again and again, until the question is settled. -/
def search : Nat → Backoff → Run (Option String)
  | 0, _ => Run.giveUp
  | fuel + 1, backoff => do
    let connection ← Retry.connect .waitForever
    let (lookup, backoff) ← ask connection (← read).patience backoff
    Run.close connection
    match lookup with
    | .settled guid => return guid
    | .reconnect => search fuel backoff

/-- The common attributes with a guid set. -/
def publish (common : Attributes) : Option String → Attributes
  | some guid => common.put Attributes.entityGuid (.str guid)
  | none => common

/-- Resolves the guid under a poll policy and sets it in the common attributes. -/
def resolve (policy : BackoffPolicy) (common : Attributes) : Run (Option String × Attributes) := do
  let guid ← search (← read).patience (.start policy)
  return (guid, publish common guid)

/-- The line about a resolution that ended in a fault. -/
def stoppedLine (f : Fault) : String := "Entity guid resolution stopped: " ++ f.message

end EntityGuid
end RecordingHarvest
