import RecordingHarvest.Event
import RecordingHarvest.Journal

/-!
# The watermark filter

Successive snapshots overlap, because a recording keeps a little more than one harvest interval.
The filter remembers the start of the last event of the snapshots read so far and accepts only
events that started strictly later.  A snapshot that cannot be read to its end changes nothing.
-/

namespace RecordingHarvest

/-- What scanning one snapshot found. -/
structure Scan where
  /-- The events later than the watermark, in snapshot order. -/
  accepted : List Event
  /-- The start of the first event read. -/
  first : Option Instant
  /-- The start of the last event read. -/
  last : Option Instant
  /-- How many events were not later than the watermark. -/
  dropped : Nat
  deriving Repr, Inhabited

namespace Scan

def empty : Scan := ⟨[], none, none, 0⟩

/-- How many events were read. -/
def total (s : Scan) : Nat := s.accepted.length + s.dropped

end Scan

/-- The start of the newest event already passed on. -/
structure Watermark where
  at_ : Instant
  deriving DecidableEq, Repr, Inhabited

namespace Watermark

/-- A filter that has seen nothing stands at the epoch. -/
def initial : Watermark := ⟨Instant.epoch⟩

/-- The events read before the first fault, or that fault. -/
def readAll : List (Except Fault Event) → Except Fault (List Event)
  | [] => .ok []
  | .error f :: _ => .error f
  | .ok e :: rest => (readAll rest).map (e :: ·)

/-- The scan of events that were all read. -/
def scanEvents (w : Watermark) (events : List Event) : Scan :=
  { accepted := events.filter fun e => w.at_ < e.start
    first := events.head?.map (·.start)
    last := events.getLast?.map (·.start)
    dropped := (events.filter fun e => !(w.at_ < e.start)).length }

/-- Sorts a snapshot's events into accepted and dropped ones; a read fault is passed on. -/
def scan (w : Watermark) (items : List (Except Fault Event)) : Noting (Except Fault Scan) := do
  match readAll items with
  | .error f => return .error f
  | .ok events =>
    let s := w.scanEvents events
    note .debug ("Snapshot events from " ++ Instant.optionText s.first ++ " to " ++
      Instant.optionText s.last ++ " [watermark " ++ w.at_.spacedText ++ "]: " ++
      Number.naturalText s.accepted.length ++ " accepted, " ++ Number.naturalText s.dropped ++
      " dropped")
    return .ok s

/-- The watermark past a scanned snapshot: it moves to the start of the last event, never back. -/
def past (w : Watermark) (s : Scan) : Watermark :=
  match s.last with
  | some t => ⟨w.at_.latest t⟩
  | none => w

/-- Moves past a scanned snapshot and counts what it dropped. -/
def advance (w : Watermark) (s : Scan) : Noting Watermark := do
  count .eventsDropped s.dropped
  return w.past s

/-- Scans a snapshot and moves past it. -/
def filterSnapshot (w : Watermark) (items : List (Except Fault Event)) :
    Noting (Except Fault Scan × Watermark) := do
  match ← w.scan items with
  | .error f => return (.error f, w)
  | .ok s =>
    let w ← w.advance s
    count .eventsForwarded s.accepted.length
    return (.ok s, w)

end Watermark
end RecordingHarvest
