import RecordingHarvest.Fault
import RecordingHarvest.Json.Value
import RecordingHarvest.Number.Digits
import RecordingHarvest.Text.Blank
import RecordingHarvest.Time.Instant

/-!
# Raw events

One event of a recording: its type, when it started, how long it took, and a payload that only
capabilities look into.  A payload value is addressed by a dotted path (`Event.field?`).
-/

namespace RecordingHarvest

/-- An event as a snapshot holds it. -/
structure Event where
  eventType : String
  description : Option String
  start : Instant
  durationNanos : Option Nat
  fields : Members Json
  deriving Repr, BEq, Inhabited

namespace Event

/-- An event with nothing but a type and a start. -/
def new (eventType : String) (start : Instant) : Event := ⟨eventType, none, start, none, []⟩

/-- The most nanoseconds an event's duration can count. -/
def durationLimit : Nat := Number.width64 - 1

def withDescription (e : Event) (text : String) : Event := { e with description := some text }

/-- Sets the duration, capped at the most that can be counted. -/
def withDuration (e : Event) (s : Span) : Event :=
  { e with durationNanos := some (min s.nanos durationLimit) }

def withField (e : Event) (name : String) (value : Json) : Event :=
  { e with fields := e.fields.put name value }

/-- The description, or nothing at all as text. -/
def descriptionOrEmpty (e : Event) : String := e.description.getD ""

/-- The duration; an event without one took no time. -/
def duration (e : Event) : Span := ⟨e.durationNanos.getD 0⟩

/-- Steps into nested objects, one key after another. -/
def walk : Json → List String → Option Json
  | value, [] => some value
  | value, key :: keys =>
    match value.member? key with
    | some inner => walk inner keys
    | none => none

/-- The keys of a dotted path. -/
def pathKeys (path : String) : List String :=
  (Text.splitOnChar '.' path.toList).map String.ofList

/-- The payload value at a dotted path. -/
def field? (e : Event) (path : String) : Option Json := walk (.obj e.fields) (pathKeys path)

/-- The payload value at a path, read as a certain kind of value. -/
def read {α : Type} (e : Event) (path kind : String) (as? : Json → Option α) : Except Fault α :=
  match e.field? path with
  | none => .error (.conversionFailed (e.eventType ++ " has no field " ++ path))
  | some value =>
    match as? value with
    | some a => .ok a
    | none => .error (.conversionFailed (e.eventType ++ "." ++ path ++ " is not " ++ kind))

/-- A number of any kind. -/
def double (e : Event) (path : String) : Except Fault Float := e.read path "a number" Json.double?

/-- A whole number of 64 signed bits. -/
def integer (e : Event) (path : String) : Except Fault Int := e.read path "an integer" Json.int64?

def string (e : Event) (path : String) : Except Fault String := e.read path "a string" Json.str?

def boolean (e : Event) (path : String) : Except Fault Bool := e.read path "a boolean" Json.bool?

/-- The name of the emitting thread: the thread field as a string, or its `javaName`. -/
def threadName? (e : Event) : Option String :=
  match e.fields.get? "eventThread" with
  | some (.str name) => some name
  | some (.obj thread) => (Members.get? thread "javaName").bind Json.str?
  | _ => none

/-! ## Documents -/

/-- The members of an event's document. -/
def keys : List String := ["type", "description", "start_time", "duration_ns", "fields"]

/-- The document of an event. -/
def toJson (e : Event) : Json :=
  .obj [("type", .str e.eventType),
    ("description", (e.description.map Json.str).getD .null),
    ("start_time", .str e.start.text),
    ("duration_ns", (e.durationNanos.map fun n => Json.int n).getD .null),
    ("fields", .obj e.fields)]

end Event
end RecordingHarvest
