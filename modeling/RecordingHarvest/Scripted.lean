import RecordingHarvest.Site

/-!
# Scripted worlds

A world given by data: what the attempts to connect give, one after the other, and for each connection
the replies to each operation, used up in order.  Past its script a connection hands out fresh
numbers for recordings and streams and answers everything else with nothing.
-/

namespace RecordingHarvest

/-- The replies of a connection, by operation. -/
abbrev Script := Members (List Remote.Answer)

namespace Script

/-- The operations that answer a fresh number. -/
def numbering : List String := ["newRecording", "cloneRecording", "openStream"]

/-- The calls of an operation on a connection so far. -/
def calls (deeds : List Deed) (connection : Nat) (operation : String) : Nat :=
  deeds.countP fun
    | .invoked c call _ => c == connection && call.operation == operation
    | _ => false

/-- The replies scripted for an operation. -/
def replies (s : Script) (operation : String) : List Remote.Answer := (s.get? operation).getD []

/-- What the connection replies to a call after the deeds so far. -/
def answer (s : Script) (deeds : List Deed) (connection : Nat) (call : Remote.Invocation) :
    Remote.Answer :=
  match (s.replies call.operation)[calls deeds connection call.operation]? with
  | some reply => reply
  | none =>
    if numbering.contains call.operation then
      let unscripted := numbering.map fun op => calls deeds connection op - (s.replies op).length
      .ok (some (.long (1 + (unscripted.foldr (· + ·) 0 : Nat))))
    else .ok none

end Script

/-- A world by script. -/
structure Scenario where
  /-- The outcomes of the first attempts to connect. -/
  connections : List (Except Fault Script) := []
  /-- The outcome of every later attempt. -/
  fallback : Except Fault Script := .ok []
  /-- The harvest sleep that shutdown cuts short. -/
  stopInRest : Option Nat := none
  /-- The retry sleep during which shutdown is asked for. -/
  stopInPause : Option Nat := none
  logInterval : Span := .ofSecs 10

namespace Scenario

/-- The outcome of an attempt to connect, counted from zero. -/
def outcome (s : Scenario) (i : Nat) : Except Fault Script := s.connections.getD i s.fallback

/-- The script of a connection, known by its attempt; all later ones share a number. -/
def script (s : Scenario) (connection : Nat) : Script := (s.outcome connection).toOption.getD []

/-- Whether shutdown is asked for during the sleep that is the newest deed. -/
def signal (s : Scenario) (deeds : List Deed) : StopSignal :=
  match deeds with
  | .rested _ :: _ =>
    if s.stopInRest = some (deeds.countP fun | .rested _ => true | _ => false) then .duringSleep
    else .quiet
  | .paused _ :: _ =>
    if s.stopInPause = some (deeds.countP fun | .paused _ => true | _ => false) then .afterSleep
    else .quiet
  | _ => .quiet

/-- The world that follows the script. -/
def world (s : Scenario) (patience : Nat) : World where
  connect deeds :=
    let i := deeds.countP fun | .attempted _ => true | _ => false
    (s.outcome i).map fun _ => min i s.connections.length
  answer deeds connection call := (s.script connection).answer deeds connection call
  signal := s.signal
  chance w := w
  logInterval := s.logInterval
  patience := patience

end Scenario
end RecordingHarvest
