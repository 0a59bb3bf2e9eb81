import RecordingHarvest.Delivery.Converter
import RecordingHarvest.Delivery.Desk
import RecordingHarvest.EventQueue
import RecordingHarvest.Recording.Shelf
import RecordingHarvest.SnapshotLines
import RecordingHarvest.Watermark

/-!
# The uploader

```text
snapshot ──► lines ──► watermark ──┬─ direct: convert, flush if due
                                   └─ queued: push to the event queue
         ──► delete file and directory, always last
```

A snapshot that cannot be read leaves no trace but its deletion.  One whose events cannot be queued
leaves the watermark, so that the next snapshot offers them again.
-/

namespace RecordingHarvest

/-- Where accepted events go. -/
inductive Delivery (σ : Type) where
  /-- They are converted at once. -/
  | direct (c : Converter σ)
  /-- They are queued for a consumer. -/
  | queued (q : EventQueue Event)

/-- The watermark filter and what lies behind it. -/
structure Uploader (σ : Type) where
  watermark : Watermark
  delivery : Delivery σ
  /-- Whether a failed deletion is a fault. -/
  strictCleanup : Bool

/-- How harvesting a snapshot ends. -/
inductive Harvested where
  /-- A flush is due, with the records to send. -/
  | due (b : Buffer)
  | settled
  | failed (f : Fault)
  /-- The queue is full; the harvest waits for room for these events. -/
  | waiting (left : List Event)

/-- How handling a snapshot ends. -/
inductive Handled where
  | done
  | failed (f : Fault)
  /-- The queue is full; the snapshot waits for room for these events. -/
  | waiting (left : List Event)

namespace Uploader

open Number (naturalText)

variable {σ : Type}

/-- An uploader that has seen nothing. -/
def new (delivery : Delivery σ) (strictCleanup : Bool) : Uploader σ :=
  ⟨Watermark.initial, delivery, strictCleanup⟩

/-- Passes accepted events on. -/
def deliver (path : String) (events : List Event) : Delivery σ → Sending (Harvested × Delivery σ)
  | .direct c => do
    let c ← c.convertAll events
    let (due, c) ← c.takeIfReady (← get).now
    return ((due.map .due).getD .settled, .direct c)
  | .queued q => do
    match q.pushAll events with
    | (q, .ok []) => return (.settled, .queued q)
    | (q, .ok left) => return (.waiting left, .queued q)
    | (q, .error f) =>
      note .error (path ++ ": " ++ naturalText events.length ++ " accepted events from " ++
        Instant.optionText (events.head?.map (·.start)) ++ " to " ++
        Instant.optionText (events.getLast?.map (·.start)) ++ " not queued: " ++ f.message)
      return (.failed f, .queued q)

/-- Moves the watermark past a delivered snapshot and notes it. -/
def settle (u : Uploader σ) (path : String) (s : Scan) : Noting (Uploader σ) := do
  let watermark ← u.watermark.advance s
  count .eventsForwarded s.accepted.length
  note .debug (path ++ ": " ++ naturalText s.total ++ " events read, " ++
    naturalText s.accepted.length ++ " new (watermark " ++ watermark.at_.spacedText ++ ")")
  return { u with watermark := watermark }

/-- Filters and delivers what reading a snapshot yields. -/
def harvest (u : Uploader σ) (path : String) (items : List (Except Fault Event)) :
    Sending (Harvested × Uploader σ) := do
  match ← u.watermark.scan items with
  | .error f => return (.failed f, u)
  | .ok s =>
    let (harvested, delivery) ← deliver path s.accepted u.delivery
    let u := { u with delivery := delivery }
    match harvested with
    | .due _ | .settled => return (harvested, ← u.settle path s)
    | .failed _ | .waiting _ => return (harvested, u)

/-- Marks the flush handed out as sent. -/
def markSent (u : Uploader σ) (now : Instant) : Uploader σ :=
  match u.delivery with
  | .direct c => { u with delivery := .direct (c.markSent now) }
  | .queued _ => u

/-- Sends records and marks them as sent. -/
def flush (u : Uploader σ) (b : Buffer) : Sending (Uploader σ) := do
  note .info ("Flushing " ++ naturalText b.size ++ " records")
  Desk.ship b
  return u.markSent (← get).now

/-- What reading a snapshot yields, or the fault of opening it. -/
def itemsOf (shelf : Shelf) (x : Snapshot) : List (Except Fault Event) :=
  match shelf.read? x with
  | some content => SnapshotLines.readEvents content
  | none => [.error (SnapshotLines.openFault (shelf.filePath x))]

/-- Deletes a handled snapshot. -/
def cleanUp (strict : Bool) (shelf : Shelf) (x : Snapshot)
    (refused : Option RemovalStep := none) : Noting (Handled × Shelf) := do
  match shelf.remove x refused with
  | (.ok (), shelf) => return (.done, shelf)
  | (.error f, shelf) =>
    if strict then return (.failed f, shelf)
    else
      note .warn ("Unable to delete snapshot: " ++ f.message)
      return (.done, shelf)

/-- Harvests a snapshot, sends what is due, and deletes it, unless the disk refuses that by then. -/
def handleFile (u : Uploader σ) (shelf : Shelf) (x : Snapshot)
    (refuses : Desk → Option RemovalStep := fun _ => none) :
    Sending (Handled × Uploader σ × Shelf) := do
  let path := shelf.filePath x
  let (harvested, u) ← u.harvest path (itemsOf shelf x)
  match harvested with
  | .waiting left => return (.waiting left, u, shelf)
  | .settled =>
    let (handled, shelf) ← cleanUp u.strictCleanup shelf x (refuses (← get))
    return (handled, u, shelf)
  | .due b =>
    let u ← u.flush b
    let (handled, shelf) ← cleanUp u.strictCleanup shelf x (refuses (← get))
    return (handled, u, shelf)
  | .failed f =>
    note .warn ("Skipping snapshot " ++ path ++ ": " ++ f.message)
    let (handled, shelf) ← cleanUp u.strictCleanup shelf x (refuses (← get))
    return (handled, u, shelf)

/-- Handles a snapshot; a fault is noted. -/
def handle (u : Uploader σ) (shelf : Shelf) (x : Snapshot) : Sending (Uploader σ × Shelf) := do
  let (handled, u, shelf) ← u.handleFile shelf x
  if let .failed f := handled then note .error ("Snapshot handling failed: " ++ f.message)
  return (u, shelf)

/-- Sends what the direct path still buffers, due or not. -/
def finish (u : Uploader σ) : Sending (Uploader σ) := do
  match u.delivery with
  | .queued _ => return u
  | .direct c =>
    let (b, c) ← c.take (← get).now
    let u := { u with delivery := .direct c }
    if b.isEmpty then return u.markSent (← get).now else u.flush b

end Uploader
end RecordingHarvest
