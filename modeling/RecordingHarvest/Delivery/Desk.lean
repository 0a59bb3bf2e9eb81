import RecordingHarvest.Fault
import RecordingHarvest.Journal
import RecordingHarvest.Json.Writer
import RecordingHarvest.Record

/-!
# The sending desk

What every sender of records shares: the clock, the common attributes, and the way out.  A buffer
leaves as one batch per channel that holds anything, metrics first, each handed over once; a batch
that is refused is noted and not tried again.
-/

namespace RecordingHarvest

/-- The way out of the process, with all batches handed over so far. -/
structure Outbox where
  /-- What handing over the `n`-th batch gives. -/
  transport : Nat → Batch → Noting (Except Fault Unit)
  /-- How long handing over takes. -/
  delay : Span
  /-- The batches handed over, the oldest first. -/
  sent : List Batch

/-- The clock, the attributes every batch carries, and the way out. -/
structure Desk where
  now : Instant
  common : Attributes
  outbox : Outbox

/-- A computation that sends and writes to the journal. -/
abbrev Sending := StateT Desk Noting

namespace Desk

/-- Hands a batch over. -/
def handOver (b : Batch) : Sending (Except Fault Unit) := do
  let d ← get
  let result ← d.outbox.transport d.outbox.sent.length b
  set { d with now := d.now.advance d.outbox.delay,
               outbox := { d.outbox with sent := d.outbox.sent ++ [b] } }
  return result

/-- Hands a batch over and notes how that went. -/
def send (b : Batch) : Sending Unit := do
  let load := Number.naturalText b.size ++ " " ++ b.kind
  match ← handOver b with
  | .ok () => note .debug ("Sent " ++ load)
  | .error f => note .error ("Failed to send " ++ load ++ ": " ++ f.message)

/-- Sends a buffer under the common attributes of now. -/
def ship (b : Buffer) : Sending Unit := do
  (b.batches (← get).common).forM send

end Desk

namespace Outbox

/-- A way out that only notes what it is given. -/
def logging : Outbox where
  transport _ b := do
    note .info ("Would send " ++ Number.naturalText b.size ++ " " ++ b.kind)
    note .debug b.toJson.text
    return .ok ()
  delay := .zero
  sent := []

end Outbox
end RecordingHarvest
