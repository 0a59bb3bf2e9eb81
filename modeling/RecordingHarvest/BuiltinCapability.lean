import RecordingHarvest.Capability

/-!
# The shipped capabilities

* processor load and heap summaries become gauges,
* compilations and long monitor waits become telemetry events,
* collection pauses, allocations and socket traffic are summarized per window.

Each handles one event type, and `Registry.default` holds at most one for a type.
-/

namespace RecordingHarvest

/-- A span in milliseconds. -/
def Span.toMillis (s : Span) : Float := s.nanos.toUInt64.toFloat / 1000000.0

namespace Mapper

variable {α : Type}

/-- A mapper for one event type. -/
def forType (eventType : String) (apply : Event → Except Fault (List α)) : Mapper α where
  handles e := .ok (e.eventType == eventType)
  apply e := .ofExcept (apply e)

/-- The string fields of an event as attributes, the ones that are missing or no strings left
out. -/
def textAttributes (fields : List (String × String)) (e : Event) : Attributes :=
  fields.foldl
    (fun a (field, name) =>
      match e.field? field with
      | some (.str s) => a.put name (.str s)
      | _ => a)
    Attributes.empty

/-- One gauge for each pair of a field path and a metric name; string fields become attributes of
all of them. -/
def fieldGauges (eventType : String) (gauges attributes : List (String × String)) :
    Mapper Metric :=
  forType eventType fun e =>
    gauges.mapM fun (field, name) => do
      return .gauge name (← e.double field) e.start (textAttributes attributes e)

/-- The name of the emitting thread as an attribute, if there is one. -/
def threadAttributes (e : Event) : Attributes :=
  match e.threadName? with
  | some name => Attributes.empty.put "thread.name" (.str name)
  | none => Attributes.empty

/-- Compilations as `JfrCompilation` events. -/
def compilation : Mapper TelemetryEvent :=
  forType "jdk.Compilation" fun e => do
    let a := (threadAttributes e).put "desc" (.str (← e.string "method"))
    let a := (a.put "duration" (.float e.duration.toMillis)).put "succeeded"
      (.bool (← e.boolean "succeeded"))
    return [⟨"JfrCompilation", e.start, a⟩]

/-- Monitor waits longer than a threshold as `JfrJavaMonitorWait` events. -/
def monitorWait (threshold : Span) : Mapper TelemetryEvent :=
  forType "jdk.JavaMonitorWait" fun e =>
    if e.duration ≤ threshold then .ok []
    else do
      let a := (threadAttributes e).put "class" (.str (← e.string "monitorClass.name"))
      return [⟨"JfrJavaMonitorWait", e.start, a.put "duration" (.float e.duration.toMillis)⟩]

end Mapper

namespace Summarizer

/-- Summarizes one value of each event of a type under a metric name.  An event without a value
leaves the window as it is, and each window begins with nothing in it. -/
def ofValues (eventType metric : String) (value : Event → Except Fault Float) :
    Summarizer Aggregate where
  initial := Aggregate.empty
  handles _ e := .ok (e.eventType == eventType)
  accept window e :=
    match value e with
    | .ok x => (.ok (), window.add x)
    | .error f => (.rejected f, window)
  emit window start finish :=
    (.ok [.summary metric window start finish Attributes.empty], Aggregate.empty)

/-- Summarizes durations in milliseconds. -/
def durations (eventType metric : String) : Summarizer Aggregate :=
  ofValues eventType metric fun e => .ok e.duration.toMillis

/-- Summarizes a whole-number field. -/
def integers (eventType field metric : String) : Summarizer Aggregate :=
  ofValues eventType metric fun e => (e.integer field).map Json.doubleOfInt

end Summarizer

namespace Registry

/-- Monitor waits of at most this are not reported. -/
def monitorWaitThreshold : Span := Span.ofMillis 20

/-- The registry with every shipped capability. -/
def default : Registry Aggregate where
  metrics :=
    [.fieldGauges "jdk.CPULoad"
      [("jvmUser", "jfr.CPULoad.jvmUser"), ("jvmSystem", "jfr.CPULoad.jvmSystem"),
        ("machineTotal", "jfr.CPULoad.machineTotal")] [],
     .fieldGauges "jdk.GCHeapSummary"
      [("heapUsed", "jfr.GCHeapSummary.heapUsed"),
        ("heapSpace.committedSize", "jfr.GCHeapSummary.heapCommittedSize"),
        ("heapSpace.reservedSize", "jfr.GCHeapSummary.heapReservedSize")] [("when", "when")]]
  events := [.compilation, .monitorWait monitorWaitThreshold]
  summarizers :=
    [.durations "jdk.GCPhasePause" "jfr.GCPhasePause.duration",
     .integers "jdk.ObjectAllocationInNewTLAB" "tlabSize"
      "jfr.ObjectAllocationInNewTLAB.allocation",
     .integers "jdk.SocketRead" "bytesRead" "jfr.SocketRead.bytesRead",
     .integers "jdk.SocketWrite" "bytesWritten" "jfr.SocketWrite.bytesWritten"]

end Registry
end RecordingHarvest
