import RecordingHarvest.Capability
import RecordingHarvest.Journal
import RecordingHarvest.Text.Classes

/-!
# Converting events

An event goes to the metric mappers, then the event mappers, then the summarizers.  The first
capability that fails on it ends its conversion; records already added stay.  Closing the window
appends what every summarizer emits and starts the next window where this one ends; whether a
summarizer then begins anew is up to its state.
-/

namespace RecordingHarvest

/-- The capabilities with their open windows: what the summarizers have in their states. -/
structure Conversion (σ : Type) where
  metrics : List (Mapper Metric)
  events : List (Mapper TelemetryEvent)
  /-- The summarizers, each with its open window. -/
  windows : List (Summarizer σ × σ)
  /-- When the open windows began. -/
  windowStart : Instant
  /-- Events seen by type since the last closing. -/
  tally : Members Nat

namespace Conversion

variable {σ : Type}

/-- A conversion whose first window opens now. -/
def new (r : Registry σ) (now : Instant) : Conversion σ :=
  ⟨r.metrics, r.events, r.summarizers.map fun s => (s, s.initial), now, []⟩

/-- The records of the mappers that handle an event, up to the first one that fails. -/
def applyAll {α : Type} (e : Event) : List (Mapper α) → List α × Option Fault
  | [] => ([], none)
  | m :: rest =>
    match (m.handles e).result with
    | .error f => ([], some f)
    | .ok false => applyAll e rest
    | .ok true =>
      match (m.apply e).result with
      | .error f => ([], some f)
      | .ok records =>
        let (more, fault) := applyAll e rest
        (records ++ more, fault)

/-- The windows with an event taken in, up to the first summarizer that fails. -/
def acceptAll (e : Event) : List (Summarizer σ × σ) → List (Summarizer σ × σ) × Option Fault
  | [] => ([], none)
  | (s, window) :: rest =>
    match (s.handles window e).result with
    | .error f => ((s, window) :: rest, some f)
    | .ok false =>
      let (rest, fault) := acceptAll e rest
      ((s, window) :: rest, fault)
    | .ok true =>
      let (given, window) := s.accept window e
      match given.result with
      | .error f => ((s, window) :: rest, some f)
      | .ok () =>
        let (rest, fault) := acceptAll e rest
        ((s, window) :: rest, fault)

/-- Converts an event into a buffer; gives the fault that cut it short, if any. -/
def convert (c : Conversion σ) (e : Event) (b : Buffer) : Conversion σ × Buffer × Option Fault :=
  let (metrics, fault) := applyAll e c.metrics
  let b := b.addMetrics metrics
  match fault with
  | some f => (c, b, some f)
  | none =>
    let (events, fault) := applyAll e c.events
    let b := b.addEvents events
    match fault with
    | some f => (c, b, some f)
    | none =>
      let (windows, fault) := acceptAll e c.windows
      ({ c with windows := windows }, b, fault)

/-- Counts an event under its type. -/
def counted (c : Conversion σ) (e : Event) : Conversion σ :=
  { c with tally := c.tally.put e.eventType ((c.tally.get? e.eventType).getD 0 + 1) }

/-- The line about an event that was cut short. -/
def droppedLine (e : Event) (f : Fault) : String :=
  "Dropping event " ++ e.eventType ++ " " ++ e.descriptionOrEmpty ++ " due to error: " ++ f.message

/-- Counts and converts an event; a fault is noted, not passed on. -/
def process (c : Conversion σ) (e : Event) (b : Buffer) : Noting (Conversion σ × Buffer) := do
  let (c, b, fault) := (c.counted e).convert e b
  match fault with
  | some f =>
    count .conversionErrors 1
    note .warn (droppedLine e f)
  | none => pure ()
  return (c, b)

/-- Appends what each summarizer emits for its window.  A panic loses that window's metrics. -/
def emitAll (start finish : Instant) :
    List (Summarizer σ × σ) → Buffer → Noting (List (Summarizer σ × σ) × Buffer)
  | [], b => return ([], b)
  | (s, window) :: rest, b => do
    let (given, window) := s.emit window start finish
    match given.result with
    | .ok metrics =>
      let (rest, b) ← emitAll start finish rest (b.addMetrics metrics)
      return ((s, window) :: rest, b)
    | .error f =>
      count .conversionErrors 1
      note .warn ("Dropping summary window: " ++ f.message)
      let (rest, b) ← emitAll start finish rest b
      return ((s, window) :: rest, b)

/-- The tally as the log shows it. -/
def tallyText (tally : Members Nat) : String :=
  "\x7b" ++ ", ".intercalate (tally.map fun (type, n) =>
    Text.quoted type ++ ": " ++ Number.naturalText n) ++ "\x7d"

/-- Closes the open windows now: every summarizer emits, the next windows begin, and the tally is
cleared. -/
def finishCycle (c : Conversion σ) (now : Instant) (b : Buffer) :
    Noting (Conversion σ × Buffer) := do
  let (windows, b) ← emitAll c.windowStart now c.windows b
  unless c.tally.isEmpty do
    note .debug ("Events converted this cycle: " ++ tallyText c.tally)
  return ({ c with windows := windows, windowStart := now, tally := [] }, b)

end Conversion
end RecordingHarvest
