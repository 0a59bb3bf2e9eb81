import RecordingHarvest.Attributes
import RecordingHarvest.Time.Instant

/-!
# Telemetry records

What events are converted into: gauges, summaries over a window, and telemetry events, with the
buffer that collects them and the batches that leave it.
-/

namespace RecordingHarvest

/-- A summary of a window: how many values, their sum and their extremes. -/
structure Aggregate where
  count : Nat
  sum : Float
  min : Float
  max : Float
  deriving DecidableEq, Repr

namespace Aggregate

/-- The summary of no values. -/
def empty : Aggregate := ⟨0, 0.0, 0.0, 0.0⟩

instance : Inhabited Aggregate := ⟨empty⟩

/-- The lesser of two doubles. -/
def lesser (a b : Float) : Float := if b < a then b else a

/-- The greater of two doubles. -/
def greater (a b : Float) : Float := if a < b then b else a

/-- Takes one more value in; the first one is both extremes. -/
def add (a : Aggregate) (x : Float) : Aggregate :=
  { count := a.count + 1
    sum := a.sum + x
    min := if a.count = 0 then x else lesser a.min x
    max := if a.count = 0 then x else greater a.max x }

end Aggregate

/-- A metric. -/
inductive Metric where
  /-- A value at a point in time. -/
  | gauge (name : String) (value : Float) (at_ : Instant) (attributes : Attributes)
  /-- A summary over a window. -/
  | summary (name : String) (values : Aggregate) (start finish : Instant) (attributes : Attributes)
  deriving Repr, BEq

namespace Metric

def name : Metric → String
  | gauge name .. | summary name .. => name

def attributes : Metric → Attributes
  | gauge _ _ _ attributes | summary _ _ _ _ attributes => attributes

/-- The document of a metric; timestamps are milliseconds. -/
def toJson : Metric → Json
  | gauge name value at_ attributes =>
    .obj [("type", .str "gauge"), ("name", .str name), ("value", .float value),
      ("timestamp", .int at_.millis), ("attributes", attributes.toJson)]
  | summary name values start finish attributes =>
    .obj [("type", .str "summary"), ("name", .str name), ("count", .int values.count),
      ("sum", .float values.sum), ("min", .float values.min), ("max", .float values.max),
      ("timestamp", .int start.millis), ("interval.end", .int finish.millis),
      ("attributes", attributes.toJson)]

end Metric

/-- A telemetry event. -/
structure TelemetryEvent where
  eventType : String
  at_ : Instant
  attributes : Attributes
  deriving Repr, BEq

/-- The document of a telemetry event. -/
def TelemetryEvent.toJson (e : TelemetryEvent) : Json :=
  .obj [("eventType", .str e.eventType), ("timestamp", .int e.at_.millis),
    ("attributes", e.attributes.toJson)]

/-- Records not sent yet, each channel in the order they were added. -/
structure Buffer where
  metrics : List Metric
  events : List TelemetryEvent
  deriving Repr, BEq

namespace Buffer

def empty : Buffer := ⟨[], []⟩

instance : Inhabited Buffer := ⟨empty⟩

def addMetrics (b : Buffer) (ms : List Metric) : Buffer := { b with metrics := b.metrics ++ ms }

def addEvents (b : Buffer) (es : List TelemetryEvent) : Buffer := { b with events := b.events ++ es }

/-- Records in both channels. -/
def size (b : Buffer) : Nat := b.metrics.length + b.events.length

def isEmpty (b : Buffer) : Bool := b.size == 0

/-- The documents of a buffer's records. -/
def toJson (b : Buffer) : Json :=
  .obj [("metrics", .arr (b.metrics.map Metric.toJson)),
    ("events", .arr (b.events.map TelemetryEvent.toJson))]

end Buffer

/-- Records of one channel with the attributes they share. -/
inductive Batch where
  | metrics (common : Attributes) (records : List Metric)
  | events (common : Attributes) (records : List TelemetryEvent)
  deriving Repr, BEq

namespace Batch

/-- The channel's name. -/
def kind : Batch → String
  | metrics .. => "metrics"
  | events .. => "events"

def size : Batch → Nat
  | metrics _ records => records.length
  | events _ records => records.length

/-- The records' documents. -/
def records : Batch → List Json
  | metrics _ records => records.map Metric.toJson
  | events _ records => records.map TelemetryEvent.toJson

def common : Batch → Attributes
  | metrics common _ | events common _ => common

/-- The document of a batch. -/
def toJson (b : Batch) : Json :=
  .obj [("common", .obj [("attributes", b.common.toJson)]), (b.kind, .arr b.records)]

end Batch

/-- The batches of a buffer under the attributes current now, one for each channel that holds
anything, metrics first. -/
def Buffer.batches (b : Buffer) (common : Attributes) : List Batch :=
  (if b.metrics.isEmpty then [] else [.metrics common b.metrics]) ++
    (if b.events.isEmpty then [] else [.events common b.events])

end RecordingHarvest
