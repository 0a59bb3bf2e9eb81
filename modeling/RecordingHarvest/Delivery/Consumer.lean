import RecordingHarvest.Delivery.Converter
import RecordingHarvest.Delivery.Desk
import RecordingHarvest.EventQueue

/-!
# The queue's consumer

One consumer takes events off the queue, converts each, and sends a flush whenever one is due.  It
ends when it is told to stop or when the queue is disconnected; then it converts what is still
queued and sends what is buffered.
-/

namespace RecordingHarvest

/-- A consumer with its end of the queue and its converter. -/
structure Consumer (σ : Type) where
  queue : EventQueue Event
  converter : Converter σ

/-- What goes on around a consumer, look by look. -/
structure Tide where
  /-- Whether the consumer is told to stop before its `n`-th look. -/
  stops : Nat → Bool
  /-- What producers do to the queue before the `n`-th look. -/
  pushes : Nat → EventQueue Event → EventQueue Event
  /-- What time does to the clock before the `n`-th look. -/
  clock : Nat → Instant → Instant

namespace Consumer

variable {σ : Type}

/-- Sends a flush and marks it as sent. -/
def flush (c : Consumer σ) (b : Buffer) : Sending (Consumer σ) := do
  Desk.ship b
  return { c with converter := c.converter.markSent (← get).now }

/-- Sends a flush if one is due. -/
def flushIfDue (c : Consumer σ) : Sending (Consumer σ) := do
  let (due, converter) ← c.converter.takeIfReady (← get).now
  let c := { c with converter := converter }
  match due with
  | some b => c.flush b
  | none => return c

/-- One look at the queue; tells whether to look again. -/
def look (c : Consumer σ) : Sending (Bool × Consumer σ) := do
  match c.queue.poll with
  | (.event e, queue) =>
    let converter ← c.converter.convert e
    return (true, ← flushIfDue ⟨queue, converter⟩)
  | (.empty, queue) => return (true, ← flushIfDue { c with queue := queue })
  | (.disconnected, queue) =>
    note .debug "Raw event queue disconnected"
    return (false, { c with queue := queue })

/-- Looks again and again until told to stop or disconnected; `fuel` bounds the looks, and nothing
is given when it runs out. -/
def looks (tide : Tide) : Nat → Nat → Consumer σ → Sending (Option (Consumer σ))
  | 0, _, _ => return none
  | fuel + 1, n, c => do
    modify fun d => { d with now := tide.clock n d.now }
    let c := { c with queue := tide.pushes n c.queue }
    if tide.stops n then
      note .debug "Queued consumer asked to stop"
      return some c
    else
      match ← c.look with
      | (true, c) => looks tide fuel (n + 1) c
      | (false, c) => return some c

/-- Converts what is still queued and sends what is buffered, if anything. -/
def windUp (c : Consumer σ) : Sending (Consumer σ) := do
  let (left, queue) := c.queue.drain
  let converter ← c.converter.convertAll left
  let c : Consumer σ := ⟨queue, converter⟩
  if c.converter.buffered = 0 then return c
  else
    let (b, converter) ← c.converter.take (← get).now
    { c with converter := converter }.flush b

/-- The whole run of a consumer. -/
def run (tide : Tide) (fuel : Nat) (c : Consumer σ) : Sending (Option (Consumer σ)) := do
  note .info "Queued consumer started"
  match ← looks tide fuel 0 c with
  | none => return none
  | some c =>
    let c ← c.windUp
    note .info ("Queued consumer stopped (" ++ Number.naturalText c.queue.popped ++
      " events consumed)")
    return some c

end Consumer
end RecordingHarvest
