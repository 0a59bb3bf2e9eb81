import RecordingHarvest.Event
import RecordingHarvest.Record

/-!
# Capabilities

Three kinds of capability turn events into telemetry: metric mappers, event mappers, and
summarizers, which fold many events into one summary per window.  A capability may give its
result, reject the event, or panic; `Applied.result` treats a panic as a rejection.
-/

namespace RecordingHarvest

/-- How applying a capability ends. -/
inductive Applied (α : Type) where
  | ok (a : α)
  | rejected (f : Fault)
  /-- The capability panicked, with a message if the panic carried a text. -/
  | panicked (text : Option String)
  deriving Repr

namespace Applied

variable {α : Type}

/-- The fault that stands for a panic. -/
def panicFault (text : Option String) : Fault :=
  .conversionFailed ("mapper panicked: " ++ text.getD "unknown panic")

/-- The result, a panic read as a fault. -/
def result : Applied α → Except Fault α
  | ok a => .ok a
  | rejected f => .error f
  | panicked text => .error (panicFault text)

def ofExcept : Except Fault α → Applied α
  | .ok a => .ok a
  | .error f => .rejected f

@[simp] theorem result_ofExcept (r : Except Fault α) : (ofExcept r).result = r := by
  cases r <;> rfl

end Applied

/-- Turns one event into records. -/
structure Mapper (α : Type) where
  /-- Whether the mapper handles an event. -/
  handles : Event → Applied Bool
  /-- The records of an event it handles. -/
  apply : Event → Applied (List α)

/-- Folds events into the summary of a window.  A summarizer keeps a state, which a call may change
however it ends.  `σ` is the type of the states of a whole registry: where the states of two
summarizers are of different types, it has a case for each. -/
structure Summarizer (σ : Type) where
  /-- The state in which it is registered. -/
  initial : σ
  /-- Whether the summarizer takes an event. -/
  handles : σ → Event → Applied Bool
  /-- Takes an event into the window. -/
  accept : σ → Event → Applied Unit × σ
  /-- The metrics of a finished window. -/
  emit : σ → Instant → Instant → Applied (List Metric) × σ

/-- The capabilities of a run, each kind in the order it was registered. -/
structure Registry (σ : Type) where
  metrics : List (Mapper Metric)
  events : List (Mapper TelemetryEvent)
  summarizers : List (Summarizer σ)

namespace Registry

variable {σ : Type}

def empty : Registry σ := ⟨[], [], []⟩

instance : Inhabited (Registry σ) := ⟨empty⟩

/-- How many capabilities there are. -/
def size (r : Registry σ) : Nat := r.metrics.length + r.events.length + r.summarizers.length

/-- The text that shows a registry by the sizes of its three lists. -/
def summaryText (r : Registry σ) : String :=
  "MapperRegistry \x7b metric_mappers: " ++ Number.naturalText r.metrics.length ++
    ", event_mappers: " ++ Number.naturalText r.events.length ++
    ", summarizers: " ++ Number.naturalText r.summarizers.length ++ " \x7d"

end Registry
end RecordingHarvest
