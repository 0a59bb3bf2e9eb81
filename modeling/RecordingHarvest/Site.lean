import RecordingHarvest.Journal
import RecordingHarvest.Recording.Shelf
import RecordingHarvest.Remote.Value
import RecordingHarvest.Time.Instant
import RecordingHarvest.WorkerPool

/-!
# The site of a run

A run acts on the world and the world answers.  `World` holds the answers: what each attempt to
connect gives, what the target replies to each call, and when shutdown is asked for, each as a
function of everything done so far.  `Site` holds what the run changes: the clock, the list of
deeds, the shelf of snapshots, the workers, the journal.  `Run` is a computation between
the two that may end in a fault, or unfinished when the world's patience runs out.
-/

namespace RecordingHarvest

open Remote (Invocation Answer)

/-- What is done on disk for a snapshot, step by step. -/
inductive FileStep where
  /-- Its directory is made. -/
  | directory
  /-- The empty file is made in it. -/
  | file
  /-- The file is opened for writing. -/
  | opening
  | writing (bytes : List UInt8)
  | flushing
  deriving DecidableEq, Repr

/-- One thing that happened, in the order of the run. -/
inductive Deed where
  /-- An attempt to connect gave a connection, known by its number, or a fault. -/
  | attempted (result : Except Fault Nat)
  /-- An operation was called on a connection. -/
  | invoked (connection : Nat) (call : Invocation) (answer : Answer)
  /-- A step was done on disk, or failed. -/
  | filed (step : FileStep) (result : Except Fault Unit)
  /-- A connection was closed. -/
  | closed (connection : Nat)
  /-- A retry loop slept. -/
  | paused (s : Span)
  /-- The controller slept for one harvest interval. -/
  | rested (s : Span)
  /-- Shutdown was asked for. -/
  | stopped
  /-- A snapshot was begun. -/
  | began
  /-- A snapshot was taken and queued for the workers. -/
  | captured (x : Snapshot)
  /-- A worker took a snapshot up. -/
  | handled (x : Snapshot)
  deriving Repr

/-- Whether shutdown is asked for while a run sleeps. -/
inductive StopSignal where
  | quiet
  /-- Asked for, with the sleep completed all the same. -/
  | afterSleep
  /-- Asked for, and the sleep is cut short. -/
  | duringSleep
  deriving DecidableEq, Repr

/-- The answers to whatever a run does; each may depend on all deeds so far, the newest first. -/
structure World where
  /-- What the next attempt to connect gives. -/
  connect : List Deed → Except Fault Nat
  /-- What a connection replies to a call. -/
  answer : List Deed → Nat → Invocation → Answer
  /-- Whether shutdown is asked for during the sleep that is the newest deed. -/
  signal : List Deed → StopSignal
  /-- Whether shutdown was asked for outside a sleep, by the time the run looks. -/
  asks : List Deed → Bool := fun _ => false
  /-- Why the disk refuses a step, if it does. -/
  disk : List Deed → FileStep → Option String := fun _ _ => none
  /-- What the target has written to the path that it is told to copy a recording to. -/
  copied : List Deed → List UInt8 := fun _ => []
  /-- What chance makes of a wait with jitter. -/
  chance : Span → Span
  /-- The least time between two lines of one retry loop at the same level. -/
  logInterval : Span
  /-- The rounds each loop may take before the run is given up as unfinished. -/
  patience : Nat

/-- What comes of an operation on the shelf: the disk may refuse it. -/
def World.carry {α : Type} (w : World) (deeds : List Deed) (step : FileStep)
    (act : Shelf → Except Fault α × Shelf) (shelf : Shelf) : Except Fault α × Shelf :=
  match w.disk deeds step with
  | some text => (.error (.io text), shelf)
  | none => act shelf

/-- The phases of a recording's life. -/
inductive Phase where
  | uninitialized
  | connected
  | recording
  | reconnecting
  | shutdown
  deriving DecidableEq, Repr, Inhabited

/-- The name of a phase. -/
def Phase.name : Phase → String
  | uninitialized => "Uninitialized"
  | connected => "Connected"
  | recording => "Recording"
  | reconnecting => "Reconnecting"
  | shutdown => "Shutdown"

/-- What a run changes. -/
structure Site where
  /-- The clock that the retry loops read; their sleeps move it. -/
  now : Instant
  /-- The deeds so far, the newest first. -/
  deeds : List Deed
  /-- Whether shutdown was asked for. -/
  stopping : Bool
  phase : Phase
  shelf : Shelf
  /-- The workers that the snapshots are queued for. -/
  pool : WorkerPool Snapshot
  journal : Journal

namespace Site

/-- A site before anything has happened. -/
def new (shelf : Shelf) (workers : Nat) (stopping : Bool) : Site :=
  ⟨Instant.epoch, [], stopping, .uninitialized, shelf, .new workers, Journal.empty⟩

/-- The deeds in the order they were done. -/
def history (s : Site) : List Deed := s.deeds.reverse

end Site

/-- Why a run ends early. -/
inductive Halt where
  | fault (f : Fault)
  /-- The world's patience ran out. -/
  | unfinished
  deriving Repr

/-- A computation on a site in a world. -/
abbrev Run := ReaderT World (ExceptT Halt (StateM Site))

namespace Run

variable {α : Type}

/-- Carries a computation out. -/
def perform (x : Run α) (w : World) (s : Site) : Except Halt α × Site := (x w).run s

/-- Carries a computation out with its lines going to the journal at hand; patience that ran out is
told apart from every fault by having no outcome. -/
def carryOut (x : Run α) (w : World) (s : Site) : Noting (Option (Except Fault α) × Site) := do
  let (result, s) := x.perform w { s with journal := ← get }
  set s.journal
  return (match result with
    | .ok a => some (.ok a)
    | .error (.fault f) => some (.error f)
    | .error .unfinished => none, s)

/-- Ends with a fault. -/
def fail (f : Fault) : Run α := throw (.fault f)

/-- Ends unfinished. -/
def giveUp : Run α := throw .unfinished

/-- The outcome of a computation, a fault included. -/
def attempt (x : Run α) : Run (Except Fault α) :=
  tryCatch (do return .ok (← x)) fun
    | .fault f => return .error f
    | .unfinished => giveUp

/-- Goes on with a result or ends with its fault. -/
def ofExcept : Except Fault α → Run α
  | .ok a => return a
  | .error f => fail f

/-- Carries out a computation on the journal. -/
def noting (x : Noting α) : Run α :=
  modifyGet fun s => let (a, j) := x.run s.journal; (a, { s with journal := j })

/-- Writes a log line. -/
def note (level : Level) (text : String) : Run Unit := noting (RecordingHarvest.note level text)

/-- Increments a counter. -/
def count (counter : Counter) (n : Nat) : Run Unit := noting (RecordingHarvest.count counter n)

/-- Adds a deed to the history. -/
def record (d : Deed) : Run Unit := modify fun s => { s with deeds := d :: s.deeds }

/-- Carries out a step on disk, ending with its fault if it has one. -/
def onShelf (step : FileStep) (act : Shelf → Except Fault α × Shelf) : Run α := do
  let w ← read
  let result ← modifyGet fun s =>
    let (result, shelf) := w.carry s.deeds step act s.shelf
    (result, { s with shelf := shelf })
  record (.filed step (result.map fun _ => ()))
  ofExcept result

/-- The target writes to a snapshot's file. -/
def receive (x : Snapshot) : Run Unit := do
  let w ← read
  modify fun s => { s with shelf := s.shelf.receive x (w.copied s.deeds) }

/-- Removes a snapshot directory without a word. -/
def clear (x : Snapshot) : Run Unit := modify fun s => { s with shelf := s.shelf.clear x }

/-- Deletes a snapshot directory; a failure is only noted. -/
def discard (x : Snapshot) : Run Unit := do
  let s ← get
  let shelf ← noting (s.shelf.discard x)
  modify ({ · with shelf := shelf })

/-- Tries to connect once. -/
def connect : Run Nat := do
  let result := (← read).connect (← get).deeds
  record (.attempted result)
  ofExcept result

/-- Calls an operation on a connection. -/
def invoke (connection : Nat) (call : Invocation) : Run (Option Remote.Value) := do
  let answer := (← read).answer (← get).deeds connection call
  record (.invoked connection call answer)
  ofExcept answer

/-- Closes a connection. -/
def close (connection : Nat) : Run Unit := record (.closed connection)

/-- Sets the shutdown flag if the world asks for it during the sleep that is the newest deed. -/
def listen : Run StopSignal := do
  let signal := (← read).signal (← get).deeds
  unless signal = .quiet do
    modify fun s => { s with stopping := true }
    record .stopped
  return signal

/-- Sleeps before a retry; the clock moves on. -/
def pause (s : Span) : Run Unit := do
  record (.paused s)
  modify fun site => { site with now := site.now.advance s }
  let _ ← listen

/-- Sleeps for a harvest interval; tells whether the sleep was completed. -/
def rest (s : Span) : Run Bool := do
  record (.rested s)
  return (← listen) ≠ .duringSleep

/-- Enters a phase. -/
def enter (phase : Phase) : Run Unit := modify fun s => { s with phase := phase }

/-- Whether shutdown was asked for, in a sleep or at any other moment up to now. -/
def stopping : Run Bool := do
  let s ← get
  if !s.stopping && (← read).asks s.deeds then
    modify fun s => { s with stopping := true }
    record .stopped
  return (← get).stopping

end Run
end RecordingHarvest
