import Mathlib.Data.List.Nodup
import RecordingHarvest.Proofs.Conversion.Isolation
import RecordingHarvest.Proofs.Event.Needs

/-!
# Events are converted as a whole or not at all

Each shipped capability handles one type of events, and no two handle the same type.  So an event has
one share in what is sent (`Event.Becomes`): gauges, a telemetry event, or a value in one window; and
if a payload value that the share takes is missing or of another kind, the event has none.

* `convert_shipped`: an event is converted by the one capability for its type (`Registry.offers`).
* `reads_offers`: that capability fails exactly if the event lacks what it needs.
* `Becomes.portion`, `exists_becomes_iff`: what it gives otherwise.
* `process_whole`: an event adds its whole share, or nothing but one error.
-/

namespace RecordingHarvest

/-! ## Shares -/

/-- What becomes of one event. -/
structure Share where
  metrics : List Metric
  events : List TelemetryEvent
  /-- A value, and the summarizer whose window takes it in. -/
  value : Option (Nat × Float)

namespace Share

def nothing : Share := ⟨[], [], none⟩

def gauges (ms : List Metric) : Share := ⟨ms, [], none⟩

def reported (ts : List TelemetryEvent) : Share := ⟨[], ts, none⟩

def measured (k : Nat) (x : Float) : Share := ⟨[], [], some (k, x)⟩

/-- The records of a share. -/
def records (s : Share) : Buffer := ⟨s.metrics, s.events⟩

/-- Some windows with the value of a share taken in. -/
def folded (s : Share) (windows : List (Summarizer Aggregate × Aggregate)) :
    List (Summarizer Aggregate × Aggregate) :=
  match s.value with
  | some (k, x) => windows.modify k fun (z, window) => (z, window.add x)
  | none => windows

variable (windows : List (Summarizer Aggregate × Aggregate))

@[simp] theorem folded_nothing : nothing.folded windows = windows := rfl

@[simp] theorem folded_gauges (ms : List Metric) : (gauges ms).folded windows = windows := rfl

@[simp] theorem folded_reported (ts : List TelemetryEvent) :
    (reported ts).folded windows = windows := rfl

/-- A value goes into the window behind some others. -/
theorem folded_measured (before after : List (Summarizer Aggregate × Aggregate))
    (s : Summarizer Aggregate) (window : Aggregate) (x : Float) :
    (measured before.length x).folded (before ++ (s, window) :: after) =
      before ++ (s, window.add x) :: after :=
  List.modifyTailIdx_add _ 0 before ((s, window) :: after)

variable (b : Buffer)

@[simp] theorem append_nothing : b ++ nothing.records = b := b.append_empty

@[simp] theorem append_gauges (ms : List Metric) :
    b ++ (gauges ms).records = b.addMetrics ms := (b.addMetrics_eq ms).symm

@[simp] theorem append_reported (ts : List TelemetryEvent) :
    b ++ (reported ts).records = b.addEvents ts := (b.addEvents_eq ts).symm

@[simp] theorem append_measured (k : Nat) (x : Float) :
    b ++ (measured k x).records = b := b.append_empty

end Share

/-- The types of events that the shipped capabilities handle. -/
def Registry.shippedTypes : List String :=
  ["jdk.CPULoad", "jdk.GCHeapSummary", "jdk.Compilation", "jdk.JavaMonitorWait", "jdk.GCPhasePause",
    "jdk.ObjectAllocationInNewTLAB", "jdk.SocketRead", "jdk.SocketWrite"]

/-- The moment a summary of the heap was taken, as an attribute if it is told. -/
def Event.moment (e : Event) : Attributes :=
  match (e.field? "when").bind Json.str? with
  | some moment => Attributes.empty.put "when" (.str moment)
  | none => .empty

/-- **What becomes of an event** that the shipped capabilities can convert: a line for each of them. -/
inductive Event.Becomes (e : Event) : Share → Prop where
  /-- The load of the processors. -/
  | load {user system total : Float} (htype : e.eventType = "jdk.CPULoad")
      (huser : (e.field? "jvmUser").bind Json.double? = some user)
      (hsystem : (e.field? "jvmSystem").bind Json.double? = some system)
      (htotal : (e.field? "machineTotal").bind Json.double? = some total) :
      e.Becomes (.gauges [.gauge "jfr.CPULoad.jvmUser" user e.start .empty,
        .gauge "jfr.CPULoad.jvmSystem" system e.start .empty,
        .gauge "jfr.CPULoad.machineTotal" total e.start .empty])
  /-- A summary of the heap, with the moment it was taken if that is told. -/
  | heap {used committed reserved : Float} (htype : e.eventType = "jdk.GCHeapSummary")
      (hused : (e.field? "heapUsed").bind Json.double? = some used)
      (hcommitted : (e.field? "heapSpace.committedSize").bind Json.double? = some committed)
      (hreserved : (e.field? "heapSpace.reservedSize").bind Json.double? = some reserved) :
      e.Becomes (.gauges
        [.gauge "jfr.GCHeapSummary.heapUsed" used e.start e.moment,
          .gauge "jfr.GCHeapSummary.heapCommittedSize" committed e.start e.moment,
          .gauge "jfr.GCHeapSummary.heapReservedSize" reserved e.start e.moment])
  | compilation {method : String} {succeeded : Bool} (htype : e.eventType = "jdk.Compilation")
      (hmethod : (e.field? "method").bind Json.str? = some method)
      (hsucceeded : (e.field? "succeeded").bind Json.bool? = some succeeded) :
      e.Becomes (.reported [⟨"JfrCompilation", e.start,
        (((Mapper.threadAttributes e).put "desc" (.str method)).put "duration"
          (.float e.duration.toMillis)).put "succeeded" (.bool succeeded)⟩])
  /-- A monitor wait that is not worth a report. -/
  | shortWait (htype : e.eventType = "jdk.JavaMonitorWait")
      (hshort : e.duration ≤ Registry.monitorWaitThreshold) : e.Becomes .nothing
  | longWait {monitor : String} (htype : e.eventType = "jdk.JavaMonitorWait")
      (hlong : Registry.monitorWaitThreshold < e.duration)
      (hmonitor : (e.field? "monitorClass.name").bind Json.str? = some monitor) :
      e.Becomes (.reported [⟨"JfrJavaMonitorWait", e.start,
        ((Mapper.threadAttributes e).put "class" (.str monitor)).put "duration"
          (.float e.duration.toMillis)⟩])
  /-- A pause for collection. -/
  | pause (htype : e.eventType = "jdk.GCPhasePause") : e.Becomes (.measured 0 e.duration.toMillis)
  | allocation {bytes : Int} (htype : e.eventType = "jdk.ObjectAllocationInNewTLAB")
      (hbytes : (e.field? "tlabSize").bind Json.int64? = some bytes) :
      e.Becomes (.measured 1 (Json.doubleOfInt bytes))
  /-- Bytes read from a socket. -/
  | socketRead {bytes : Int} (htype : e.eventType = "jdk.SocketRead")
      (hbytes : (e.field? "bytesRead").bind Json.int64? = some bytes) :
      e.Becomes (.measured 2 (Json.doubleOfInt bytes))
  | socketWrite {bytes : Int} (htype : e.eventType = "jdk.SocketWrite")
      (hbytes : (e.field? "bytesWritten").bind Json.int64? = some bytes) :
      e.Becomes (.measured 3 (Json.doubleOfInt bytes))
  /-- An event of any other type. -/
  | other (htype : e.eventType ∉ Registry.shippedTypes) : e.Becomes .nothing

/-! ## One capability for each event -/

namespace Conversion

variable {α σ : Type} {e : Event}

/-- What applying the mappers comes to if one of them is all that handles the event. -/
def alone : Except Fault (List α) → List α × Option Fault
  | .ok records => (records, none)
  | .error f => ([], some f)

theorem applyAll_idle {mappers : List (Mapper α)}
    (h : ∀ m ∈ mappers, (m.handles e).result = .ok false) : applyAll e mappers = ([], none) := by
  induction mappers with
  | nil => rfl
  | cons m rest ih =>
      rw [applyAll, h m List.mem_cons_self]
      exact ih fun m hm => h m (List.mem_cons_of_mem _ hm)

theorem applyAll_alone (before after : List (Mapper α)) {m : Mapper α}
    (hbefore : ∀ m ∈ before, (m.handles e).result = .ok false) (hm : (m.handles e).result = .ok true)
    (hafter : ∀ m ∈ after, (m.handles e).result = .ok false) :
    applyAll e (before ++ m :: after) = alone (m.apply e).result := by
  induction before with
  | nil =>
      rw [List.nil_append, applyAll, hm, applyAll_idle hafter]
      cases (m.apply e).result with
      | ok records => simp [alone]
      | error f => rfl
  | cons m' rest ih =>
      rw [List.cons_append, applyAll, hbefore m' List.mem_cons_self]
      exact ih fun m hm => hbefore m (List.mem_cons_of_mem _ hm)

theorem acceptAll_idle {windows : List (Summarizer σ × σ)}
    (h : ∀ z ∈ windows, (z.1.handles z.2 e).result = .ok false) :
    acceptAll e windows = (windows, none) := by
  induction windows with
  | nil => rfl
  | cons z rest ih =>
      obtain ⟨s, window⟩ := z
      rw [acceptAll, h (s, window) List.mem_cons_self,
        ih fun z hz => h z (List.mem_cons_of_mem _ hz)]

theorem acceptAll_alone {before after : List (Summarizer σ × σ)} {s : Summarizer σ} {window : σ}
    (hbefore : ∀ z ∈ before, (z.1.handles z.2 e).result = .ok false)
    (hs : (s.handles window e).result = .ok true)
    (hafter : ∀ z ∈ after, (z.1.handles z.2 e).result = .ok false) :
    acceptAll e (before ++ (s, window) :: after) =
      (before ++ (s, (s.accept window e).2) :: after,
        match (s.accept window e).1.result with
        | .ok () => none
        | .error f => some f) := by
  induction before with
  | nil =>
      rw [List.nil_append, acceptAll, hs, acceptAll_idle hafter]
      simp only
      cases (s.accept window e).1.result <;> rfl
  | cons z rest ih =>
      obtain ⟨s', window'⟩ := z
      rw [List.cons_append, acceptAll, hbefore (s', window') List.mem_cons_self,
        ih fun z hz => hbefore z (List.mem_cons_of_mem _ hz)]
      rfl

end Conversion

/-- A shipped capability, by the type of events that it handles: what it needs of an event, and what it
gives. -/
structure Offer where
  eventType : String
  needs : Event → List Need
  share : Event → Except Fault Share

namespace Registry

/-- Gauges are offered for some fields. -/
def gaugeOffer (eventType : String) (gauges attributes : List (String × String)) : Offer where
  eventType := eventType
  needs _ := gauges.map fun g => ⟨g.1, .number⟩
  share e := ((Mapper.fieldGauges eventType gauges attributes).apply e).result.map .gauges

/-- The `k`-th summarizer offers to sum a whole-number field up. -/
def integerOffer (eventType field : String) (k : Nat) : Offer where
  eventType := eventType
  needs _ := [⟨field, .integer⟩]
  share e := ((e.integer field).map Json.doubleOfInt).map (.measured k)

/-- What the shipped capabilities offer. -/
def offers : List Offer :=
  [gaugeOffer "jdk.CPULoad"
      [("jvmUser", "jfr.CPULoad.jvmUser"), ("jvmSystem", "jfr.CPULoad.jvmSystem"),
        ("machineTotal", "jfr.CPULoad.machineTotal")] [],
    gaugeOffer "jdk.GCHeapSummary"
      [("heapUsed", "jfr.GCHeapSummary.heapUsed"),
        ("heapSpace.committedSize", "jfr.GCHeapSummary.heapCommittedSize"),
        ("heapSpace.reservedSize", "jfr.GCHeapSummary.heapReservedSize")] [("when", "when")],
    ⟨"jdk.Compilation", fun _ => [⟨"method", .text⟩, ⟨"succeeded", .truth⟩],
      fun e => (Mapper.compilation.apply e).result.map .reported⟩,
    ⟨"jdk.JavaMonitorWait",
      fun e => if e.duration ≤ monitorWaitThreshold then [] else [⟨"monitorClass.name", .text⟩],
      fun e => ((Mapper.monitorWait monitorWaitThreshold).apply e).result.map .reported⟩,
    ⟨"jdk.GCPhasePause", fun _ => [], fun e => .ok (.measured 0 e.duration.toMillis)⟩,
    integerOffer "jdk.ObjectAllocationInNewTLAB" "tlabSize" 1,
    integerOffer "jdk.SocketRead" "bytesRead" 2,
    integerOffer "jdk.SocketWrite" "bytesWritten" 3]

/-- The offer for an event. -/
def offer? (e : Event) : Option Offer := offers.find? (·.eventType == e.eventType)

end Registry

/-- What the shipped capability for its type needs of an event, in the order in which it reads. -/
def Event.needs (e : Event) : List Need := ((Registry.offer? e).map (·.needs e)).getD []

/-- What the shipped capability for its type gives for an event. -/
def Event.portion (e : Event) : Except Fault Share :=
  ((Registry.offer? e).map (·.share e)).getD (.ok .nothing)

namespace Registry

theorem offers_types : offers.map (·.eventType) = shippedTypes := rfl

theorem offer?_eq_none {e : Event} (h : e.eventType ∉ shippedTypes) : offer? e = none := by
  rw [← offers_types, List.mem_map] at h
  apply List.find?_eq_none.2
  intro o ho hsame
  exact h ⟨o, ho, eq_of_beq hsame⟩

end Registry

theorem Event.type_cases (e : Event) :
    e.eventType ∉ Registry.shippedTypes ∨ e.eventType = "jdk.CPULoad" ∨
      e.eventType = "jdk.GCHeapSummary" ∨ e.eventType = "jdk.Compilation" ∨
      e.eventType = "jdk.JavaMonitorWait" ∨ e.eventType = "jdk.GCPhasePause" ∨
      e.eventType = "jdk.ObjectAllocationInNewTLAB" ∨ e.eventType = "jdk.SocketRead" ∨
      e.eventType = "jdk.SocketWrite" := by
  simp only [Registry.shippedTypes, List.mem_cons, List.not_mem_nil, or_false]
  exact (Decidable.em _).symm

theorem Event.portion_eq {e : Event} {eventType : String} (h : e.eventType = eventType) {o : Offer}
    (ho : Registry.offers.find? (·.eventType == eventType) = some o) : e.portion = o.share e := by
  rw [portion, Registry.offer?, h, ho]
  rfl

theorem Event.needs_eq {e : Event} {eventType : String} (h : e.eventType = eventType) {o : Offer}
    (ho : Registry.offers.find? (·.eventType == eventType) = some o) : e.needs = o.needs e := by
  rw [needs, Registry.offer?, h, ho]
  rfl

section

variable (e : Event) (eventType metric : String)

@[simp] theorem Mapper.handles_fieldGauges (gauges attributes : List (String × String)) :
    ((Mapper.fieldGauges eventType gauges attributes).handles e).result =
      .ok (e.eventType == eventType) := rfl

@[simp] theorem Mapper.handles_compilation :
    (Mapper.compilation.handles e).result = .ok (e.eventType == "jdk.Compilation") := rfl

@[simp] theorem Mapper.handles_monitorWait (threshold : Span) :
    ((Mapper.monitorWait threshold).handles e).result =
      .ok (e.eventType == "jdk.JavaMonitorWait") := rfl

@[simp] theorem Summarizer.handles_durations (window : Aggregate) :
    ((Summarizer.durations eventType metric).handles window e).result =
      .ok (e.eventType == eventType) := rfl

@[simp] theorem Summarizer.handles_integers (field : String) (window : Aggregate) :
    ((Summarizer.integers eventType field metric).handles window e).result =
      .ok (e.eventType == eventType) := rfl

end

namespace Conversion

/-- The windows of a conversion with the shipped capabilities. -/
theorem windows_shipped {c : Conversion Aggregate} (hc : c.registry = .default) :
    ∃ w₀ w₁ w₂ w₃ : Aggregate, c.windows =
      [(.durations "jdk.GCPhasePause" "jfr.GCPhasePause.duration", w₀),
        (.integers "jdk.ObjectAllocationInNewTLAB" "tlabSize"
          "jfr.ObjectAllocationInNewTLAB.allocation", w₁),
        (.integers "jdk.SocketRead" "bytesRead" "jfr.SocketRead.bytesRead", w₂),
        (.integers "jdk.SocketWrite" "bytesWritten" "jfr.SocketWrite.bytesWritten", w₃)] := by
  obtain ⟨-, -, hwindows⟩ := Registry.mk.inj hc
  simp only [List.map_eq_cons_iff, List.map_eq_nil_iff] at hwindows
  obtain ⟨⟨_, w₀⟩, _, hall, rfl, ⟨_, w₁⟩, _, rfl, rfl, ⟨_, w₂⟩, _, rfl, rfl, ⟨_, w₃⟩, _, rfl, rfl,
    rfl⟩ := hwindows
  exact ⟨w₀, w₁, w₂, w₃, hall⟩

/-- How an event is settled that comes to some share, or to a fault. -/
def settled (c : Conversion Aggregate) (b : Buffer) :
    Except Fault Share → Conversion Aggregate × Buffer × Option Fault
  | .ok share => ({ c with windows := share.folded c.windows }, b ++ share.records, none)
  | .error f => (c, b, some f)

section

variable {c : Conversion Aggregate}

theorem convert_of_metrics {given : Except Fault (List Metric)}
    (hmetrics : applyAll e c.metrics = alone given) (hevents : applyAll e c.events = ([], none))
    (hwindows : acceptAll e c.windows = (c.windows, none)) (b : Buffer) :
    c.convert e b = c.settled b (given.map .gauges) := by
  rw [convert, hmetrics]
  cases given with
  | error f => simp [alone, settled, Except.map, Buffer.addMetrics]
  | ok records => simp [alone, settled, Except.map, hevents, hwindows, Buffer.addMetrics,
      Buffer.addEvents]

theorem convert_of_events {given : Except Fault (List TelemetryEvent)}
    (hmetrics : applyAll e c.metrics = ([], none)) (hevents : applyAll e c.events = alone given)
    (hwindows : acceptAll e c.windows = (c.windows, none)) (b : Buffer) :
    c.convert e b = c.settled b (given.map .reported) := by
  rw [convert, hmetrics, hevents]
  cases given with
  | error f => simp [alone, settled, Except.map, Buffer.addMetrics, Buffer.addEvents]
  | ok records => simp [alone, settled, Except.map, hwindows, Buffer.addEvents,
      Buffer.addMetrics]

/-- A summarizer of values that is alone with an event: its value goes into its window. -/
theorem convert_of_values (before after : List (Summarizer Aggregate × Aggregate))
    {eventType metric : String} {value : Event → Except Fault Float} {window : Aggregate}
    (hmetrics : applyAll e c.metrics = ([], none)) (hevents : applyAll e c.events = ([], none))
    (hwindows : c.windows = before ++ (.ofValues eventType metric value, window) :: after)
    (hbefore : ∀ z ∈ before, (z.1.handles z.2 e).result = .ok false)
    (htype : e.eventType = eventType)
    (hafter : ∀ z ∈ after, (z.1.handles z.2 e).result = .ok false) (b : Buffer) :
    c.convert e b = c.settled b ((value e).map (.measured before.length)) := by
  have hhandles : ((Summarizer.ofValues eventType metric value).handles window e).result =
      .ok true := by
    simp [Summarizer.ofValues, Applied.result, htype]
  rw [convert, hmetrics, hevents, hwindows, acceptAll_alone hbefore hhandles hafter]
  cases hvalue : value e with
  | error f =>
      have haccept : (Summarizer.ofValues eventType metric value).accept window e =
          (.rejected f, window) := by simp [Summarizer.ofValues, hvalue]
      simp [haccept, Applied.result, settled, Except.map, Buffer.addMetrics, Buffer.addEvents,
        ← hwindows]
  | ok x =>
      have haccept : (Summarizer.ofValues eventType metric value).accept window e =
          (.ok (), window.add x) := by simp [Summarizer.ofValues, hvalue]
      simp [haccept, Applied.result, settled, Except.map, Buffer.addMetrics, Buffer.addEvents,
        hwindows, Share.folded_measured]

theorem convert_idle (hmetrics : applyAll e c.metrics = ([], none))
    (hevents : applyAll e c.events = ([], none))
    (hwindows : acceptAll e c.windows = (c.windows, none)) (b : Buffer) :
    c.convert e b = c.settled b (.ok .nothing) := by
  rw [convert, hmetrics, hevents, hwindows]
  simp [settled, Buffer.addMetrics, Buffer.addEvents]

end

/-! ## The shipped capabilities -/

section

variable {c : Conversion Aggregate} (hc : c.registry = .default)

include hc

theorem applyAll_metrics_idle (h : e.eventType ∉ ["jdk.CPULoad", "jdk.GCHeapSummary"]) :
    applyAll e c.metrics = ([], none) := by
  obtain ⟨hmetrics, -, -⟩ := Registry.mk.inj hc
  rw [hmetrics]
  apply applyAll_idle
  simp at h ⊢
  exact h

theorem applyAll_events_idle (h : e.eventType ∉ ["jdk.Compilation", "jdk.JavaMonitorWait"]) :
    applyAll e c.events = ([], none) := by
  obtain ⟨-, hevents, -⟩ := Registry.mk.inj hc
  rw [hevents]
  apply applyAll_idle
  simp at h ⊢
  exact h

theorem acceptAll_windows_idle (h : e.eventType ∉ ["jdk.GCPhasePause",
      "jdk.ObjectAllocationInNewTLAB", "jdk.SocketRead", "jdk.SocketWrite"]) :
    acceptAll e c.windows = (c.windows, none) := by
  obtain ⟨w₀, w₁, w₂, w₃, hwindows⟩ := windows_shipped hc
  rw [hwindows]
  apply acceptAll_idle
  simp at h ⊢
  exact h

/-- **An event is converted by the one capability for its type.** -/
theorem convert_shipped (e : Event) (b : Buffer) : c.convert e b = c.settled b e.portion := by
  obtain ⟨hmetrics, hevents, -⟩ := Registry.mk.inj hc
  obtain ⟨w₀, w₁, w₂, w₃, hwindows⟩ := windows_shipped hc
  have hnometrics := applyAll_metrics_idle (e := e) hc
  have hnoevents := applyAll_events_idle (e := e) hc
  have hnowindows := acceptAll_windows_idle (e := e) hc
  rcases e.type_cases with h | h | h | h | h | h | h | h | h
  · rw [Event.portion, Registry.offer?_eq_none h]
    simp [Registry.shippedTypes] at h
    exact convert_idle (hnometrics (by simp [h])) (hnoevents (by simp [h]))
      (hnowindows (by simp [h])) b
  -- one of the two metric mappers
  · rw [Event.portion_eq h (o := Registry.offers[0]) rfl]
    apply convert_of_metrics _ (hnoevents (by simp [h])) (hnowindows (by simp [h]))
    rw [hmetrics]
    apply applyAll_alone [] _ <;> simp [h]
  · rw [Event.portion_eq h (o := Registry.offers[1]) rfl]
    apply convert_of_metrics _ (hnoevents (by simp [h])) (hnowindows (by simp [h]))
    rw [hmetrics]
    apply applyAll_alone [_] [] <;> simp [h]
  -- one of the two event mappers
  · rw [Event.portion_eq h (o := Registry.offers[2]) rfl]
    apply convert_of_events (hnometrics (by simp [h])) _ (hnowindows (by simp [h]))
    rw [hevents]
    apply applyAll_alone [] _ <;> simp [h]
  · rw [Event.portion_eq h (o := Registry.offers[3]) rfl]
    apply convert_of_events (hnometrics (by simp [h])) _ (hnowindows (by simp [h]))
    rw [hevents]
    apply applyAll_alone [_] [] <;> simp [h]
  -- one of the four summarizers
  · rw [Event.portion_eq h (o := Registry.offers[4]) rfl]
    apply convert_of_values [] _ (hnometrics (by simp [h])) (hnoevents (by simp [h])) hwindows <;>
      simp [h]
  · rw [Event.portion_eq h (o := Registry.offers[5]) rfl]
    apply convert_of_values [_] _ (hnometrics (by simp [h])) (hnoevents (by simp [h])) hwindows <;>
      simp [h]
  · rw [Event.portion_eq h (o := Registry.offers[6]) rfl]
    apply convert_of_values [_, _] _ (hnometrics (by simp [h])) (hnoevents (by simp [h]))
      hwindows <;> simp [h]
  · rw [Event.portion_eq h (o := Registry.offers[7]) rfl]
    apply convert_of_values [_, _, _] [] (hnometrics (by simp [h])) (hnoevents (by simp [h]))
      hwindows <;> simp [h]

end

end Conversion

/-! ## What an event needs -/

namespace Mapper

variable (e : Event)

/-- A gauge for each field, if each is a number. -/
theorem result_fieldGauges (eventType : String) (gauges attributes : List (String × String)) :
    ((fieldGauges eventType gauges attributes).apply e).result =
      gauges.mapM fun g => (e.double g.1).map fun value =>
        .gauge g.2 value e.start (textAttributes attributes e) := Applied.result_ofExcept _

theorem result_compilation :
    (compilation.apply e).result = do
      let method ← e.string "method"
      let succeeded ← e.boolean "succeeded"
      return [⟨"JfrCompilation", e.start,
        (((threadAttributes e).put "desc" (.str method)).put "duration"
          (.float e.duration.toMillis)).put "succeeded" (.bool succeeded)⟩] :=
  Applied.result_ofExcept _

theorem result_monitorWait (threshold : Span) :
    ((monitorWait threshold).apply e).result =
      if e.duration ≤ threshold then .ok []
      else (e.string "monitorClass.name").map fun monitor =>
        [⟨"JfrJavaMonitorWait", e.start, ((threadAttributes e).put "class" (.str monitor)).put
          "duration" (.float e.duration.toMillis)⟩] := Applied.result_ofExcept _

end Mapper

namespace Registry

variable (e : Event)

theorem reads_gaugeOffer (eventType : String) (gauges attributes : List (String × String)) :
    e.Reads ((gaugeOffer eventType gauges attributes).needs e)
      ((gaugeOffer eventType gauges attributes).share e) := by
  refine Event.Reads.map ?_ Share.gauges
  rw [Mapper.result_fieldGauges]
  apply Event.reads_mapM
  intro g
  exact (e.reads_double g.1).map _

theorem reads_integerOffer (eventType field : String) (k : Nat) :
    e.Reads ((integerOffer eventType field k).needs e)
      ((integerOffer eventType field k).share e) :=
  ((e.reads_integer field).map Json.doubleOfInt).map (Share.measured k)

theorem share_integerOffer {e : Event} {field : String} {bytes : Int} (eventType : String) (k : Nat)
    (hbytes : (e.field? field).bind Json.int64? = some bytes) :
    (integerOffer eventType field k).share e = .ok (.measured k (Json.doubleOfInt bytes)) := by
  have hread : e.integer field = .ok bytes := Event.read_eq_ok_iff.2 hbytes
  exact congrArg (fun value => (value.map Json.doubleOfInt).map (Share.measured k)) hread

/-- **A shipped capability fails exactly if the event lacks what it needs.** -/
theorem reads_offers {o : Offer} (ho : o ∈ offers) : e.Reads (o.needs e) (o.share e) := by
  simp only [offers, List.mem_cons, List.not_mem_nil, or_false] at ho
  rcases ho with rfl | rfl | rfl | rfl | rfl | rfl | rfl | rfl
  · exact reads_gaugeOffer ..
  · exact reads_gaugeOffer ..
  · refine Event.Reads.map ?_ Share.reported
    rw [Mapper.result_compilation]
    exact (e.reads_string "method").bind fun method =>
      (e.reads_boolean "succeeded").bind fun succeeded => e.reads_ok _
  · refine Event.Reads.map ?_ Share.reported
    rw [Mapper.result_monitorWait]
    by_cases hshort : e.duration ≤ monitorWaitThreshold
    · simp only [hshort, if_true]
      exact e.reads_ok []
    · simp only [hshort, if_false]
      exact (e.reads_string "monitorClass.name").map _
  · exact e.reads_ok _
  · exact reads_integerOffer ..
  · exact reads_integerOffer ..
  · exact reads_integerOffer ..

end Registry

theorem Event.reads_portion (e : Event) : e.Reads e.needs e.portion := by
  rw [needs, portion]
  cases hoffer : Registry.offer? e with
  | none => exact e.reads_ok _
  | some o => exact Registry.reads_offers e (List.mem_of_find?_eq_some hoffer)

/-! ## What becomes of it -/

theorem Mapper.textAttributes_when (e : Event) :
    Mapper.textAttributes [("when", "when")] e = e.moment := by
  simp only [Mapper.textAttributes, Event.moment, List.foldl_cons, List.foldl_nil]
  cases e.field? "when" with
  | none => rfl
  | some value => cases value <;> rfl

namespace Event

variable {e : Event} {share : Share}

/-- What becomes of an event is what the capability for its type gives. -/
theorem Becomes.portion (h : e.Becomes share) : e.portion = .ok share := by
  cases h with
  | @load user system total htype huser hsystem htotal =>
      have huser : e.double "jvmUser" = .ok user := read_eq_ok_iff.2 huser
      have hsystem : e.double "jvmSystem" = .ok system := read_eq_ok_iff.2 hsystem
      have htotal : e.double "machineTotal" = .ok total := read_eq_ok_iff.2 htotal
      rw [portion_eq htype (o := Registry.offers[0]) rfl]
      refine (congrArg (Except.map Share.gauges) (Mapper.result_fieldGauges ..)).trans ?_
      simp only [List.mapM_cons, List.mapM_nil, huser, hsystem, htotal]
      rfl
  | @heap used committed reserved htype hused hcommitted hreserved =>
      have hused : e.double "heapUsed" = .ok used := read_eq_ok_iff.2 hused
      have hcommitted : e.double "heapSpace.committedSize" = .ok committed :=
        read_eq_ok_iff.2 hcommitted
      have hreserved : e.double "heapSpace.reservedSize" = .ok reserved :=
        read_eq_ok_iff.2 hreserved
      rw [portion_eq htype (o := Registry.offers[1]) rfl]
      refine (congrArg (Except.map Share.gauges) (Mapper.result_fieldGauges ..)).trans ?_
      simp only [List.mapM_cons, List.mapM_nil, hused, hcommitted, hreserved,
        Mapper.textAttributes_when]
      rfl
  | @compilation method succeeded htype hmethod hsucceeded =>
      have hmethod : e.string "method" = .ok method := read_eq_ok_iff.2 hmethod
      have hsucceeded : e.boolean "succeeded" = .ok succeeded := read_eq_ok_iff.2 hsucceeded
      rw [portion_eq htype (o := Registry.offers[2]) rfl]
      refine (congrArg (Except.map Share.reported) (Mapper.result_compilation e)).trans ?_
      rw [hmethod, hsucceeded]
      rfl
  | shortWait htype hshort =>
      rw [portion_eq htype (o := Registry.offers[3]) rfl]
      refine (congrArg (Except.map Share.reported) (Mapper.result_monitorWait e _)).trans ?_
      rw [if_pos hshort]
      rfl
  | @longWait monitor htype hlong hmonitor =>
      have hlong : ¬e.duration ≤ Registry.monitorWaitThreshold := Nat.not_le.2 hlong
      have hmonitor : e.string "monitorClass.name" = .ok monitor := read_eq_ok_iff.2 hmonitor
      rw [portion_eq htype (o := Registry.offers[3]) rfl]
      refine (congrArg (Except.map Share.reported) (Mapper.result_monitorWait e _)).trans ?_
      rw [if_neg hlong, hmonitor]
      rfl
  | pause htype => exact portion_eq htype (o := Registry.offers[4]) rfl
  | allocation htype hbytes =>
      rw [portion_eq htype (o := Registry.offers[5]) rfl]
      exact Registry.share_integerOffer _ _ hbytes
  | socketRead htype hbytes =>
      rw [portion_eq htype (o := Registry.offers[6]) rfl]
      exact Registry.share_integerOffer _ _ hbytes
  | socketWrite htype hbytes =>
      rw [portion_eq htype (o := Registry.offers[7]) rfl]
      exact Registry.share_integerOffer _ _ hbytes
  | other htype =>
      rw [Event.portion, Registry.offer?_eq_none htype]
      rfl

/-- Something becomes of an event that has all that is needed of it. -/
theorem exists_becomes (h : ∀ n ∈ e.needs, e.meets n = true) : ∃ share, e.Becomes share := by
  rcases e.type_cases with htype | htype | htype | htype | htype | htype | htype | htype | htype
  · exact ⟨_, .other htype⟩
  · have hneeds : e.needs = [⟨"jvmUser", .number⟩, ⟨"jvmSystem", .number⟩,
        ⟨"machineTotal", .number⟩] := needs_eq htype rfl
    simp only [hneeds, List.forall_mem_cons] at h
    obtain ⟨huser, hsystem, htotal, -⟩ := h
    obtain ⟨user, huser⟩ := exists_double huser
    obtain ⟨system, hsystem⟩ := exists_double hsystem
    obtain ⟨total, htotal⟩ := exists_double htotal
    exact ⟨_, .load htype huser hsystem htotal⟩
  · have hneeds : e.needs = [⟨"heapUsed", .number⟩, ⟨"heapSpace.committedSize", .number⟩,
        ⟨"heapSpace.reservedSize", .number⟩] := needs_eq htype rfl
    simp only [hneeds, List.forall_mem_cons] at h
    obtain ⟨hused, hcommitted, hreserved, -⟩ := h
    obtain ⟨used, hused⟩ := exists_double hused
    obtain ⟨committed, hcommitted⟩ := exists_double hcommitted
    obtain ⟨reserved, hreserved⟩ := exists_double hreserved
    exact ⟨_, .heap htype hused hcommitted hreserved⟩
  · have hneeds : e.needs = [⟨"method", .text⟩, ⟨"succeeded", .truth⟩] := needs_eq htype rfl
    simp only [hneeds, List.forall_mem_cons] at h
    obtain ⟨hmethod, hsucceeded, -⟩ := h
    obtain ⟨method, hmethod⟩ := exists_string hmethod
    obtain ⟨succeeded, hsucceeded⟩ := exists_boolean hsucceeded
    exact ⟨_, .compilation htype hmethod hsucceeded⟩
  · by_cases hshort : e.duration ≤ Registry.monitorWaitThreshold
    · exact ⟨_, .shortWait htype hshort⟩
    · have hneeds : e.needs = [⟨"monitorClass.name", .text⟩] :=
        (needs_eq htype (o := Registry.offers[3]) rfl).trans (if_neg hshort)
      simp only [hneeds, List.forall_mem_singleton] at h
      obtain ⟨monitor, hmonitor⟩ := exists_string h
      exact ⟨_, .longWait htype (Nat.not_le.1 hshort) hmonitor⟩
  · exact ⟨_, .pause htype⟩
  · have hneeds : e.needs = [⟨"tlabSize", .integer⟩] := needs_eq htype rfl
    simp only [hneeds, List.forall_mem_singleton] at h
    obtain ⟨bytes, hbytes⟩ := exists_integer h
    exact ⟨_, .allocation htype hbytes⟩
  · have hneeds : e.needs = [⟨"bytesRead", .integer⟩] := needs_eq htype rfl
    simp only [hneeds, List.forall_mem_singleton] at h
    obtain ⟨bytes, hbytes⟩ := exists_integer h
    exact ⟨_, .socketRead htype hbytes⟩
  · have hneeds : e.needs = [⟨"bytesWritten", .integer⟩] := needs_eq htype rfl
    simp only [hneeds, List.forall_mem_singleton] at h
    obtain ⟨bytes, hbytes⟩ := exists_integer h
    exact ⟨_, .socketWrite htype hbytes⟩

/-- **Something becomes of an event exactly if it has all that is needed of it.** -/
theorem exists_becomes_iff : (∃ share, e.Becomes share) ↔ ∀ n ∈ e.needs, e.meets n = true := by
  refine ⟨?_, exists_becomes⟩
  rintro ⟨share, h⟩
  exact e.reads_portion.exists_iff.1 ⟨share, h.portion⟩

/-- The fault of an event that lacks something. -/
theorem portion_of_unmet {n : Need} (h : e.unmet? e.needs = some n) :
    e.portion = .error (e.faultAbout n) := by
  have hreads := e.reads_portion
  rwa [Reads, h] at hreads

end Event

/-! ## At most one capability -/

/-- A test passes. -/
def Applied.passes (handled : Applied Bool) : Bool := handled.result.toOption.getD false

namespace Conversion

/-- How many capabilities handle an event, the windows being as they are. -/
def handling (c : Conversion Aggregate) (e : Event) : Nat :=
  c.metrics.countP (fun m => (m.handles e).passes) +
    c.events.countP (fun m => (m.handles e).passes) +
    c.windows.countP fun z => (z.1.handles z.2 e).passes

/-- **No two shipped capabilities handle the same event.** -/
theorem handling_shipped {c : Conversion Aggregate} (hc : c.registry = .default) (e : Event) :
    c.handling e ≤ 1 := by
  obtain ⟨hmetrics, hevents, -⟩ := Registry.mk.inj hc
  obtain ⟨w₀, w₁, w₂, w₃, hwindows⟩ := windows_shipped hc
  have hcount : c.handling e = Registry.shippedTypes.count e.eventType := by
    rw [handling, hmetrics, hevents, hwindows]
    simp [Registry.shippedTypes, Applied.passes, List.countP_cons, List.count_cons,
      Except.toOption, BEq.comm]
    omega
  have hdistinct : Registry.shippedTypes.Nodup := by decide
  rw [hcount]
  exact List.nodup_iff_count_le_one.1 hdistinct e.eventType

/-- **Events are converted as a whole or not at all.**  With the shipped capabilities and whatever
went before:

* at most one capability handles an event,
* something becomes of the event exactly if it has all that is needed of it, each value of its kind,
* then the event is counted in the tally, and its whole share is taken in,
* else the tally counts it too, and all that is left behind is one more conversion error, and a line
  about the first value that is missing or of another kind. -/
theorem process_whole {c : Conversion Aggregate} (hc : c.registry = .default) (e : Event)
    (b : Buffer) (j : Journal) :
    c.handling e ≤ 1 ∧
      ((∃ share, e.Becomes share) ↔ ∀ n ∈ e.needs, e.meets n = true) ∧
      (∀ share, e.Becomes share → Noting.perform (c.process e b) j =
        (({ c.counted e with windows := share.folded c.windows }, b ++ share.records), j)) ∧
      ∀ n, e.unmet? e.needs = some n → Noting.perform (c.process e b) j =
        ((c.counted e, b), (j.add (.count .conversionErrors 1)).add
          (.line .warn (droppedLine e (e.faultAbout n)))) := by
  have hcounted : (c.counted e).registry = .default := hc
  have hconvert := convert_shipped hcounted e b
  refine ⟨handling_shipped hc e, Event.exists_becomes_iff, ?_, ?_⟩
  · intro share hshare
    rw [hshare.portion] at hconvert
    rw [process, hconvert]
    rfl
  · intro n hn
    rw [Event.portion_of_unmet hn] at hconvert
    rw [process, hconvert]
    rfl

/-- A summary of the heap that gives its last size as a text adds no gauge at all; a read from a socket
adds its bytes to one window. -/
theorem process_whole_mistyped :
    let c := Conversion.new .default .epoch
    let heap := ((Event.new "jdk.GCHeapSummary" .epoch).withField "heapUsed" (.int 5)).withField
      "heapSpace" (.obj [("committedSize", .int 7), ("reservedSize", .str "9")])
    let read := (Event.new "jdk.SocketRead" .epoch).withField "bytesRead" (.int 512)
    Noting.perform (c.process heap .empty) .empty =
        ((c.counted heap, .empty), (Journal.empty.add (.count .conversionErrors 1)).add
          (.line .warn (droppedLine heap (.conversionFailed
            "jdk.GCHeapSummary.heapSpace.reservedSize is not a number")))) ∧
      Noting.perform (c.process read .empty) .empty =
        (({ c.counted read with
          windows := (Share.measured 2 (Json.doubleOfInt 512)).folded c.windows }, .empty),
          .empty) := by
  intro c heap read
  have hheap := process_whole (c := c) (registry_new _ _) heap .empty .empty
  have hread := process_whole (c := c) (registry_new _ _) read .empty .empty
  exact ⟨hheap.2.2.2 ⟨"heapSpace.reservedSize", .number⟩ rfl,
    hread.2.2.1 (.measured 2 (Json.doubleOfInt 512)) (.socketRead rfl rfl)⟩

end Conversion
end RecordingHarvest
