import RecordingHarvest.Conversion
import RecordingHarvest.FlushSchedule

/-!
# The converter

Capabilities, buffer and flush schedule of one conversion path.  Handing a flush out closes the
summary window and empties the buffer; no other flush is handed out on time or size until this one
is marked as sent.
-/

namespace RecordingHarvest

/-- A conversion with the records it has not handed out yet. -/
structure Converter (σ : Type) where
  conversion : Conversion σ
  buffer : Buffer
  schedule : FlushSchedule
  /-- Whether a flush was handed out and not marked as sent. -/
  outstanding : Bool

namespace Converter

variable {σ : Type}

/-- A converter whose first window opens now. -/
def new (registry : Registry σ) (now : Instant) (schedule : FlushSchedule) : Converter σ :=
  ⟨Conversion.new registry now, Buffer.empty, schedule, false⟩

/-- Converts an event into the buffer. -/
def convert (c : Converter σ) (e : Event) : Noting (Converter σ) := do
  let (conversion, buffer) ← c.conversion.process e c.buffer
  return { c with conversion := conversion, buffer := buffer }

/-- Converts events one after another. -/
def convertAll (c : Converter σ) : List Event → Noting (Converter σ)
  | [] => return c
  | e :: rest => do
    let c ← c.convert e
    c.convertAll rest

/-- How many records are buffered. -/
def buffered (c : Converter σ) : Nat := c.buffer.size

/-- Closes the summary window now and hands out everything buffered. -/
def take (c : Converter σ) (now : Instant) : Noting (Buffer × Converter σ) := do
  let (conversion, buffer) ← c.conversion.finishCycle now c.buffer
  return (buffer, { c with conversion := conversion, buffer := Buffer.empty, outstanding := true })

/-- Hands out everything buffered if a flush is due and none is outstanding. -/
def takeIfReady (c : Converter σ) (now : Instant) : Noting (Option Buffer × Converter σ) := do
  if c.outstanding then return (none, c)
  else if ← c.schedule.ready now c.buffered then
    let (buffer, c) ← c.take now
    return (some buffer, c)
  else return (none, c)

/-- Records that the flush handed out was sent now. -/
def markSent (c : Converter σ) (now : Instant) : Converter σ :=
  { c with schedule := c.schedule.flushed now, outstanding := false }

end Converter
end RecordingHarvest
