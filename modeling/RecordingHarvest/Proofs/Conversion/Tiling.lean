import Mathlib.Algebra.Ring.Nat
import RecordingHarvest.Proofs.Conversion.Isolation
import RecordingHarvest.Proofs.Event.Needs

/-!
# Summary windows

The summarizers of the shipped kinds (`Measure`) fold one value of each event they accept, and every
closing begins the next window where the last one ended.  So the windows of a run (`Turn.windows`)
follow from its turns alone: each takes the events between two closings.

* `Metering.value?`: the value that a summarizer accepts of an event, if it accepts the event.
* `keeps_turns`: what a run has in its open windows.
* `finishes_windows`, `starts_windows`, `events_windows`: windows leave no gap and share no event.
* `cycles_tile`: what each closing appends, and which events it counts.
-/

namespace RecordingHarvest

/-- A summarizer whose test gives an answer fails on the events that it wants and rejects. -/
theorem Summarizer.fails_of_handles {σ : Type} {s : Summarizer σ} {window : σ} {e : Event}
    {handled : Bool} (h : s.handles window e = .ok handled) :
    s.fails window e = (handled && !(s.accept window e).1.result.isOk) := by
  rw [fails, h]
  cases handled with
  | false => rfl
  | true => cases (s.accept window e).1 <;> rfl

/-! ## Measures -/

/-- What a summarizer of the shipped kinds sums up, and the name of its metric. -/
inductive Measure where
  /-- The durations of the events of a type. -/
  | durations (eventType metric : String)
  /-- A whole-number field of the events of a type. -/
  | integers (eventType field metric : String)

namespace Measure

/-- The type of the events that are summed up. -/
def eventType : Measure → String
  | durations eventType _ | integers eventType _ _ => eventType

/-- The name of the summaries. -/
def metric : Measure → String
  | durations _ metric | integers _ _ metric => metric

/-- The summarizer of a measure. -/
def summarizer : Measure → Summarizer Aggregate
  | durations eventType metric => .durations eventType metric
  | integers eventType field metric => .integers eventType field metric

/-- The value of an event; none if the field is missing, or holds anything but a whole number of 64
bits. -/
def value? : Measure → Event → Option Float
  | durations .., e => some e.duration.toMillis
  | integers _ field _, e => ((e.field? field).bind Json.int64?).map Json.doubleOfInt

/-- Whether an event is of the measure's type. -/
def covers (m : Measure) (e : Event) : Bool := e.eventType == m.eventType

/-- Whether an event is of the measure's type and has no value. -/
def refuses (m : Measure) (e : Event) : Bool := m.covers e && (m.value? e).isNone

variable (m : Measure) (e : Event) (window : Aggregate)

theorem initial_summarizer : m.summarizer.initial = Aggregate.empty := by
  cases m <;> rfl

theorem handles_summarizer : m.summarizer.handles window e = .ok (m.covers e) := by
  cases m <;> rfl

/-- A summarizer adds the value of an event to its window; one without a value it rejects. -/
theorem accept_summarizer :
    (m.summarizer.accept window e).1.result.isOk = (m.value? e).isSome ∧
      (m.summarizer.accept window e).2 = ((m.value? e).map window.add).getD window := by
  cases m with
  | durations eventType metric => exact ⟨rfl, rfl⟩
  | integers eventType field metric =>
      have hread := e.toOption_read field "an integer" Json.int64?
      simp only [summarizer, Summarizer.integers, Summarizer.ofValues, value?, ← hread,
        Event.integer]
      cases e.read field "an integer" Json.int64? <;> exact ⟨rfl, rfl⟩

theorem wants_summarizer : m.summarizer.wants window e = m.covers e := by
  rw [Summarizer.wants, handles_summarizer]

theorem fails_summarizer : m.summarizer.fails window e = m.refuses e := by
  rw [Summarizer.fails_of_handles (m.handles_summarizer e window),
    (m.accept_summarizer e window).1, Option.not_isSome, refuses]

theorem emit_summarizer (start finish : Instant) :
    m.summarizer.emit window start finish =
      (.ok [.summary m.metric window start finish Attributes.empty], Aggregate.empty) := by
  cases m <;> rfl

end Measure

/-- A window that was closed, with the events converted while it was open. -/
structure Window where
  start : Instant
  finish : Instant
  events : List Event

/-- Any mappers, with summarizers of the shipped kinds. -/
structure Metering where
  metrics : List (Mapper Metric)
  events : List (Mapper TelemetryEvent)
  measures : List Measure

namespace Metering

/-- The capabilities of a metering. -/
def registry (r : Metering) : Registry Aggregate :=
  ⟨r.metrics, r.events, r.measures.map Measure.summarizer⟩

/-- The value that the `k`-th summarizer accepts of an event: no mapper fails on the event, no
summarizer before refuses it, and it is of the measure's type and has a value. -/
def value? (r : Metering) (k : Nat) (e : Event) : Option Float :=
  if r.metrics.any (·.fails e) || r.events.any (·.fails e) || (r.measures.take k).any (·.refuses e)
  then none
  else r.measures[k]?.bind fun m => if m.covers e then m.value? e else none

/-- The values that the `k`-th summarizer accepts of some events, added one after the other. -/
def aggregate (r : Metering) (k : Nat) (es : List Event) : Aggregate :=
  (es.filterMap (r.value? k)).foldl Aggregate.add Aggregate.empty

/-- One more event adds its value, if it is accepted. -/
theorem aggregate_snoc (r : Metering) (k : Nat) (es : List Event) (e : Event) :
    r.aggregate k (es ++ [e]) =
      ((r.value? k e).map (r.aggregate k es).add).getD (r.aggregate k es) := by
  rw [aggregate, List.filterMap_append, List.foldl_append]
  cases hvalue : r.value? k e <;> simp [aggregate, hvalue]

theorem count_foldl_add (a : Aggregate) (xs : List Float) :
    (xs.foldl Aggregate.add a).count = a.count + xs.length := by
  induction xs generalizing a with
  | nil => rfl
  | cons x rest ih =>
      have hcount : (a.add x).count = a.count + 1 := rfl
      rw [List.foldl_cons, ih, List.length_cons, hcount]
      omega

/-- Each value that is accepted is counted once. -/
theorem count_aggregate (r : Metering) (k : Nat) (es : List Event) :
    (r.aggregate k es).count = (es.filterMap (r.value? k)).length :=
  (count_foldl_add _ _).trans (Nat.zero_add _)

theorem count_aggregate_append (r : Metering) (k : Nat) (es more : List Event) :
    (r.aggregate k (es ++ more)).count = (r.aggregate k es).count + (r.aggregate k more).count := by
  simp only [count_aggregate, List.filterMap_append, List.length_append]

/-- Counts add up over any parts of the events. -/
theorem count_aggregate_flatMap (r : Metering) (k : Nat) (windows : List Window) :
    (r.aggregate k (windows.flatMap (·.events))).count =
      (windows.map fun w => (r.aggregate k w.events).count).sum := by
  induction windows with
  | nil => rfl
  | cons w rest ih => rw [List.flatMap_cons, count_aggregate_append, ih, List.map_cons, List.sum_cons]

/-- The shipped capabilities. -/
def shipped : Metering where
  metrics := Registry.default.metrics
  events := Registry.default.events
  measures :=
    [.durations "jdk.GCPhasePause" "jfr.GCPhasePause.duration",
     .integers "jdk.ObjectAllocationInNewTLAB" "tlabSize"
      "jfr.ObjectAllocationInNewTLAB.allocation",
     .integers "jdk.SocketRead" "bytesRead" "jfr.SocketRead.bytesRead",
     .integers "jdk.SocketWrite" "bytesWritten" "jfr.SocketWrite.bytesWritten"]

theorem registry_shipped : shipped.registry = Registry.default := rfl

end Metering

/-! ## The windows of a run -/

/-- What the summarizers emit for a window, in the order of the registry. -/
def Window.summaries (w : Window) (r : Metering) : List Metric :=
  r.measures.mapIdx fun k m =>
    .summary m.metric (r.aggregate k w.events) w.start w.finish Attributes.empty

namespace Conversion
namespace Turn

/-- When the window closes, if the turn closes it. -/
def closing? : Turn → Option Instant
  | converted _ => none
  | closed now => some now

/-- The times at which some turns close the window. -/
def closings (ts : List Turn) : List Instant := ts.filterMap closing?

/-- The windows that some turns close, of which the first is open since `start` and has taken some
events. -/
def windows (start : Instant) (es : List Event) : List Turn → List Window
  | [] => []
  | converted e :: rest => windows start (es ++ [e]) rest
  | closed now :: rest => ⟨start, now, es⟩ :: windows now [] rest

/-- When the window that is open after some turns began. -/
def openSince (start : Instant) (ts : List Turn) : Instant := (closings ts).getLastD start

/-- **Each closing ends a window.** -/
theorem finishes_windows (start : Instant) (es : List Event) (ts : List Turn) :
    (windows start es ts).map (·.finish) = closings ts := by
  induction ts generalizing start es with
  | nil => rfl
  | cons t rest ih =>
      cases t with
      | converted e => exact ih start (es ++ [e])
      | closed now => exact congrArg (now :: ·) (ih now [])

/-- **Each window begins where the one before it ended.** -/
theorem starts_windows (start : Instant) (es : List Event) (ts : List Turn) :
    (windows start es ts).map (·.start) = (start :: closings ts).dropLast := by
  induction ts generalizing start es with
  | nil => rfl
  | cons t rest ih =>
      cases t with
      | converted e => exact ih start (es ++ [e])
      | closed now => exact congrArg (start :: ·) (ih now [])

/-- **Each event is in one window**, or in the one still open. -/
theorem events_windows (start : Instant) (es : List Event) (ts : List Turn) :
    (windows start es ts).flatMap (·.events) ++ ts.foldl sinceClosing es = es ++ events ts := by
  induction ts generalizing start es with
  | nil => exact (List.append_nil es).symm
  | cons t rest ih =>
      cases t with
      | converted e => exact (ih start (es ++ [e])).trans (List.append_assoc es [e] _)
      | closed now =>
          have hrest := ih now []
          rw [List.nil_append] at hrest
          rw [windows, List.flatMap_cons, List.append_assoc]
          exact congrArg (es ++ ·) hrest

/-- The window that a closing ends: the first one that the turns before it leave open. -/
theorem getElem?_windows (start : Instant) (es : List Event) (before : List Turn) (now : Instant)
    (after : List Turn) :
    (windows start es (before ++ closed now :: after))[(closings before).length]? =
      some ⟨openSince start before, now, before.foldl sinceClosing es⟩ := by
  induction before generalizing start es with
  | nil => rfl
  | cons t rest ih =>
      cases t with
      | converted e => exact ih start (es ++ [e])
      | closed finish =>
          have hsince : openSince start (closed finish :: rest) = openSince finish rest :=
            List.getLastD_cons ..
          rw [hsince]
          exact ih finish []

end Turn

/-! ## What the windows hold -/

/-- Summarizers of the shipped kinds let an event pass unless it is one that their measure refuses,
whatever is in their windows. -/
theorem all_take_measures {windows : List (Summarizer Aggregate × Aggregate)}
    {measures : List Measure} (h : windows.map (·.1) = measures.map Measure.summarizer) (e : Event) (k : Nat) :
    ((windows.take k).all fun z => !z.1.fails z.2 e) = !(measures.take k).any (·.refuses e) := by
  induction windows generalizing measures k with
  | nil =>
      obtain rfl := List.map_eq_nil_iff.1 h.symm
      simp
  | cons z rest ih =>
      obtain ⟨m, more, rfl, hm, hmore⟩ := List.map_eq_cons_iff.1 h.symm
      obtain ⟨s, window⟩ := z
      obtain rfl : m.summarizer = s := hm
      cases k with
      | zero => rfl
      | succ k =>
          rw [List.take_succ_cons, List.take_succ_cons, List.all_cons, List.any_cons,
            Measure.fails_summarizer, ih hmore.symm, Bool.not_or]

/-- A window takes in what its summarizer wants, unless a summarizer before fails. -/
theorem takesIn_cons {σ : Type} (e : Event) (s : Summarizer σ) (window : σ)
    (rest : List (Summarizer σ × σ)) (k : Nat) :
    takesIn e ((s, window) :: rest) k = (!s.fails window e &&
      match k with
      | 0 => s.wants window e
      | k + 1 => takesIn e rest k) := by
  rw [Summarizer.fails, Summarizer.wants]
  cases hhandles : s.handles window e with
  | rejected f | panicked text => simp [takesIn, hhandles, Applied.result]
  | ok handled =>
      cases handled with
      | false => cases k <;> simp [takesIn, hhandles, Applied.result]
      | true =>
          cases haccept : (s.accept window e).1 <;> cases k <;>
            simp [takesIn, hhandles, haccept, Applied.result]

theorem takesIn_measures {windows : List (Summarizer Aggregate × Aggregate)}
    {measures : List Measure} (h : windows.map (·.1) = measures.map Measure.summarizer) (e : Event) (k : Nat) :
    takesIn e windows k = (!(measures.take k).any (·.refuses e) &&
      measures[k]?.any fun m => m.covers e && (m.value? e).isSome) := by
  induction windows generalizing measures k with
  | nil =>
      obtain rfl := List.map_eq_nil_iff.1 h.symm
      simp [takesIn]
  | cons z rest ih =>
      obtain ⟨m, more, rfl, hm, hmore⟩ := List.map_eq_cons_iff.1 h.symm
      obtain ⟨s, window⟩ := z
      obtain rfl : m.summarizer = s := hm
      rw [takesIn_cons, Measure.fails_summarizer, Measure.wants_summarizer]
      cases k with
      | zero =>
          rw [Measure.refuses]
          cases hcovers : m.covers e <;> cases hvalue : m.value? e <;> simp [hcovers, hvalue]
      | succ k => simp [ih hmore.symm, Bool.and_assoc]

/-- Only a closing begins new windows. -/
theorem windowStart_after {σ : Type} (c : Conversion σ) (e : Event) :
    (c.after e).windowStart = c.windowStart := by
  simp only [after, convert, counted]
  cases (applyAll e c.metrics).2 with
  | some f => rfl
  | none => cases (applyAll e c.events).2 <;> rfl

variable {r : Metering} {c : Conversion Aggregate} {since : Instant} {es : List Event}

/-- The conversion has these capabilities, its windows are open since then, and they hold what the
summarizers accept of these events. -/
structure Keeps (r : Metering) (c : Conversion Aggregate) (since : Instant) (es : List Event) :
    Prop where
  registry : c.registry = r.registry
  windowStart : c.windowStart = since
  window : ∀ k : Nat, c.windows[k]? = r.measures[k]?.map fun m => (m.summarizer, r.aggregate k es)

theorem keeps_new (r : Metering) (opening : Instant) :
    Keeps r (new r.registry opening) opening [] where
  registry := registry_new ..
  windowStart := rfl
  window k := by
    rw [new, Metering.registry, List.getElem?_map, List.getElem?_map, Option.map_map]
    have hopened : (fun s => (s, s.initial)) ∘ Measure.summarizer =
        fun m => (m.summarizer, r.aggregate k []) :=
      funext fun m => congrArg (m.summarizer, ·) m.initial_summarizer
    rw [hopened]

namespace Keeps

/-- A summarizer is given the events that pass everything before it. -/
theorem isGiven (h : Keeps r c since es) (e : Event) (m : Measure) (window : Aggregate) (k : Nat) :
    c.isGiven e m.summarizer window k = (m.covers e && !(r.metrics.any (·.fails e) ||
      r.events.any (·.fails e) || (r.measures.take k).any (·.refuses e))) := by
  obtain ⟨hmetrics, hevents, hwindows⟩ := Registry.mk.inj h.registry
  rw [Conversion.isGiven, Measure.wants_summarizer, all_take_measures hwindows, hmetrics, hevents,
    Bool.not_or, Bool.not_or]

/-- **A summarizer accepts the events of which it has a value.** -/
theorem accepts (h : Keeps r c since es) (e : Event) (k : Nat) :
    c.accepts e k = (r.value? k e).isSome := by
  obtain ⟨hmetrics, hevents, hwindows⟩ := Registry.mk.inj h.registry
  rw [Conversion.accepts, takesIn_measures hwindows, Metering.value?,
    ← Option.not_isSome, (applyAll_eq e c.metrics).2, ← Option.not_isSome,
    (applyAll_eq e c.events).2, hmetrics, hevents]
  cases r.metrics.any (·.fails e) <;> cases r.events.any (·.fails e) <;>
    cases (r.measures.take k).any (·.refuses e) <;>
    cases hm : r.measures[k]? <;> simp
  rename_i m
  cases m.covers e <;> simp

/-- An event adds its value to the windows of the summarizers that accept it. -/
theorem converted (h : Keeps r c since es) (e : Event) : Keeps r (c.after e) since (es ++ [e]) where
  registry := (c.registry_turn (.converted e)).trans h.registry
  windowStart := (windowStart_after c e).trans h.windowStart
  window k := by
    rw [getElem?_windows_after, h.window]
    cases hm : r.measures[k]? with
    | none => rfl
    | some m =>
        simp only [Option.map_some, h.isGiven, (m.accept_summarizer e _).2, r.aggregate_snoc,
          Metering.value?, hm, Option.bind_some]
        cases m.covers e <;> cases (r.metrics.any (·.fails e) || r.events.any (·.fails e) ||
          (r.measures.take k).any (·.refuses e)) <;> rfl

/-- The windows begin anew when they close. -/
theorem closed (h : Keeps r c since es) (now : Instant) : Keeps r (c.closed now) now [] where
  registry := (c.registry_turn (.closed now)).trans h.registry
  windowStart := rfl
  window k := by
    rw [Conversion.closed, reopened, List.getElem?_map, h.window]
    cases r.measures[k]? with
    | none => rfl
    | some m => simp [Measure.emit_summarizer, Metering.aggregate]

/-- **A closing appends the summary of each window**, over the values accepted in it. -/
theorem summaries (h : Keeps r c since es) (now : Instant) :
    c.summaries now = (⟨since, now, es⟩ : Window).summaries r := by
  have hwindows : c.windows = r.measures.mapIdx fun k m => (m.summarizer, r.aggregate k es) :=
    List.ext_getElem? fun k => by rw [h.window, List.getElem?_mapIdx]
  have hemitted : ∀ (k : Nat) (m : Measure),
      (m.summarizer.emit (r.aggregate k es) since now).1.result.toOption.getD [] =
        [.summary m.metric (r.aggregate k es) since now Attributes.empty] := by
    intro k m
    rw [Measure.emit_summarizer]
    rfl
  rw [Conversion.summaries, emitted, hwindows, h.windowStart, Window.summaries,
    List.mapIdx_eq_zipIdx_map, List.flatMap_map, List.mapIdx_eq_zipIdx_map, List.map_eq_flatMap]
  exact congrArg (List.flatMap · _) (funext fun x => hemitted x.2 x.1)

end Keeps

/-- **What a run has in its open windows**: what was accepted since the last closing. -/
theorem keeps_turns (h : Keeps r c since es) (ts : List Turn) :
    Keeps r (c.turns ts) (Turn.openSince since ts) (ts.foldl Turn.sinceClosing es) := by
  induction ts generalizing c since es with
  | nil => exact h
  | cons t rest ih =>
      cases t with
      | converted e => exact ih (h.converted e)
      | closed now =>
          have hsince : Turn.openSince since (.closed now :: rest) = Turn.openSince now rest :=
            List.getLastD_cons ..
          rw [hsince]
          exact ih (h.closed now)

/-- **Summary windows tile time and share out the accepted events.**  A conversion with any mappers
and any summarizers of the shipped kinds is built at some time, and then converts events and closes
its windows in any order and at any times:

* a closing appends one summary for each summarizer, in the order of the registry, over the values
  accepted in the window that it ends, whatever the buffer holds;
* each closing ends a window, and each window begins where the one before it ended, the first at the
  time of the construction;
* each event is converted in one window, or in the one still open, and what a summarizer accepts is
  counted once;
* a summarizer accepts the events of which it has a value, and it has none of an event whose field
  is missing or holds anything but a whole number of 64 bits. -/
theorem cycles_tile (r : Metering) (opening : Instant) (b₀ : Buffer) (j₀ : Journal)
    (ts : List Turn) :
    let run (us : List Turn) := (Noting.perform ((new r.registry opening).takeTurns b₀ us) j₀).1
    let windows := Turn.windows opening [] ts
    (∀ before now after, ts = before ++ .closed now :: after →
      ∃ w, windows[(Turn.closings before).length]? = some w ∧
        ∀ b j, (Noting.perform ((run before).1.finishCycle now b) j).1 =
          ((run (before ++ [.closed now])).1, b ++ ⟨w.summaries r, []⟩)) ∧
    (windows.map (·.finish) = Turn.closings ts ∧
      windows.map (·.start) = (opening :: Turn.closings ts).dropLast) ∧
    (windows.flatMap (·.events) ++ ts.foldl Turn.sinceClosing [] = Turn.events ts ∧
      ∀ k, (windows.map fun w => (r.aggregate k w.events).count).sum +
          (r.aggregate k (ts.foldl Turn.sinceClosing [])).count =
        ((Turn.events ts).filterMap (r.value? k)).length) ∧
    (∀ before e after, ts = before ++ .converted e :: after → ∀ k,
      (run before).1.accepts e k = (r.value? k e).isSome) ∧
    ∀ k eventType field metric, r.measures[k]? = some (.integers eventType field metric) →
      ∀ e : Event, (e.field? field).bind Json.int64? = none → r.value? k e = none := by
  intro run windows
  have hrun : ∀ us, (run us).1 = (new r.registry opening).turns us := fun us =>
    congrArg Prod.fst (takeTurns_value (new r.registry opening) b₀ us j₀)
  have hkeeps : ∀ us, Keeps r (run us).1 (Turn.openSince opening us)
      (us.foldl Turn.sinceClosing []) := fun us => hrun us ▸ keeps_turns (keeps_new r opening) us
  have hevents : windows.flatMap (·.events) ++ ts.foldl Turn.sinceClosing [] = Turn.events ts :=
    Turn.events_windows opening [] ts
  refine ⟨?_, ⟨Turn.finishes_windows .., Turn.starts_windows ..⟩, ⟨hevents, fun k => ?_⟩, ?_, ?_⟩
  · rintro before now after rfl
    refine ⟨_, Turn.getElem?_windows opening [] before now after, fun b j => ?_⟩
    rw [finishCycle_value, (hkeeps before).summaries now, hrun, hrun, turns_append]
    rfl
  · rw [← hevents, ← r.count_aggregate_flatMap, ← r.count_aggregate_append, r.count_aggregate]
  · rintro before e after - k
    exact (hkeeps before).accepts e k
  · intro k eventType field metric hm e hvalue
    have hnone : (Measure.integers eventType field metric).value? e = none := by
      rw [Measure.value?, hvalue]
      rfl
    simp [Metering.value?, hm, hnone]

/-- A mapper that panics on some events, and two summarizers of one type. -/
def reading : Metering where
  metrics := [⟨fun e => if e.eventType == "bad" then .panicked none else .ok false, fun _ => .ok []⟩]
  events := []
  measures := [.integers "read" "bytes" "bytes", .durations "read" "time"]

/-- A read of some bytes that took some milliseconds. -/
def readOf (bytes : Int) (millis : Nat) : Event :=
  ((Event.new "read" .epoch).withDuration (.ofMillis millis)).withField "bytes" (.int bytes)

/-- A read, a read without its field, a bad event, a closing, another read, and two closings. -/
def threeWindows : List Turn :=
  [.converted (readOf 512 3), .converted (.new "read" .epoch), .converted (.new "bad" .epoch),
    .closed ⟨10, 0⟩, .converted (readOf 7 5), .closed ⟨5, 0⟩, .closed ⟨20, 0⟩]

/-- The read without its field and the bad event are counted by no summarizer; the second closing
appends a summary of each, though the clock ran backwards. -/
theorem cycles_tile_reading :
    let met := (Noting.perform ((new reading.registry .epoch).takeTurns Buffer.empty
      (threeWindows.take 5)) Journal.empty).1
    (Noting.perform (met.1.finishCycle ⟨5, 0⟩ Buffer.empty) Journal.empty).1.2 =
        ⟨[.summary "bytes" ⟨1, 7.0, 7.0, 7.0⟩ ⟨10, 0⟩ ⟨5, 0⟩ .empty,
          .summary "time" ⟨1, 5.0, 5.0, 5.0⟩ ⟨10, 0⟩ ⟨5, 0⟩ .empty], []⟩ ∧
      ((Turn.windows .epoch [] threeWindows).map fun w => (reading.aggregate 0 w.events).count) =
        [1, 1, 0] := by
  intro met
  obtain ⟨hclosings, -⟩ := cycles_tile reading .epoch Buffer.empty Journal.empty threeWindows
  obtain ⟨w, hw, happends⟩ := hclosings (threeWindows.take 5) ⟨5, 0⟩ [.closed ⟨20, 0⟩] rfl
  have hwindow : w = ⟨⟨10, 0⟩, ⟨5, 0⟩, [readOf 7 5]⟩ := (Option.some.inj hw).symm
  have hbytes : reading.aggregate 0 [readOf 7 5] = ⟨1, 7.0, 7.0, 7.0⟩ := by decide +kernel
  have htime : reading.aggregate 1 [readOf 7 5] = ⟨1, 5.0, 5.0, 5.0⟩ := by decide +kernel
  refine ⟨?_, by decide +kernel⟩
  rw [happends, hwindow]
  show Buffer.empty ++ ⟨[.summary "bytes" (reading.aggregate 0 [readOf 7 5]) _ _ _,
    .summary "time" (reading.aggregate 1 [readOf 7 5]) _ _ _], []⟩ = _
  rw [hbytes, htime]
  rfl

end Conversion
end RecordingHarvest
