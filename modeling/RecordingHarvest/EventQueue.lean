import RecordingHarvest.Fault

/-!
# The bounded event queue

Producers push at one end, one consumer takes from the other, first in first out.  A push waits
while the queue is full and fails once the consumer is gone; the consumer learns that the queue is
disconnected when no producer is left and nothing is queued.
-/

namespace RecordingHarvest

/-- A queue with its counts of pushes and pops and its two ends. -/
structure EventQueue (α : Type) where
  capacity : Nat
  /-- What is queued, the oldest first. -/
  queued : List α
  pushed : Nat
  popped : Nat
  /-- How many producers are left. -/
  producers : Nat
  /-- Whether the consumer is still there. -/
  consumed : Bool
  deriving Repr

/-- What a look at the queue gives. -/
inductive Poll (α : Type) where
  | event (e : α)
  | empty
  | disconnected
  deriving Repr

/-- What a push does. -/
inductive Push (α : Type) where
  | done (q : EventQueue α)
  /-- The queue is full; the producer waits. -/
  | waits
  /-- The consumer is gone. -/
  | closed
  deriving Repr

namespace EventQueue

variable {α : Type}

/-- An empty queue with one producer and the consumer. -/
def new (capacity : Nat) : EventQueue α := ⟨capacity, [], 0, 0, 1, true⟩

def size (q : EventQueue α) : Nat := q.queued.length

/-- Adds an event at the end. -/
def push (q : EventQueue α) (e : α) : Push α :=
  if !q.consumed then .closed
  else if q.size < q.capacity then
    .done { q with queued := q.queued ++ [e], pushed := q.pushed + 1 }
  else .waits

/-- Pushes events in order.  Gives the events left when the queue filled up, none if all went in;
it is a fault when the consumer is gone. -/
def pushAll (q : EventQueue α) : List α → EventQueue α × Except Fault (List α)
  | [] => (q, .ok [])
  | e :: rest =>
    match q.push e with
    | .done q' => pushAll q' rest
    | .waits => (q, .ok (e :: rest))
    | .closed => (q, .error .queueClosed)

/-- Takes the oldest event. -/
def poll (q : EventQueue α) : Poll α × EventQueue α :=
  match q.queued with
  | e :: rest => (.event e, { q with queued := rest, popped := q.popped + 1 })
  | [] => (if q.producers = 0 then .disconnected else .empty, q)

/-- Takes everything queued now. -/
def drain (q : EventQueue α) : List α × EventQueue α :=
  (q.queued, { q with queued := [], popped := q.popped + q.size })

/-- The consumer goes; what is queued stays there. -/
def dropConsumer (q : EventQueue α) : EventQueue α := { q with consumed := false }

def addProducer (q : EventQueue α) : EventQueue α := { q with producers := q.producers + 1 }

def dropProducer (q : EventQueue α) : EventQueue α := { q with producers := q.producers - 1 }

/-- How full the queue is, in percent. -/
def fillPercentage (q : EventQueue α) : Float :=
  if q.capacity = 0 then 0.0
  else q.size.toUInt64.toFloat / q.capacity.toUInt64.toFloat * 100.0

end EventQueue
end RecordingHarvest
