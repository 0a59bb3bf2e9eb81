import RecordingHarvest.Delivery.Converter
import RecordingHarvest.Proofs.Effects

/-!
# What a conversion yields

A conversion turns: it converts an event, or it closes its summary window.  Either turn only
appends to the buffer, so what a list of turns appends is a buffer of its own, the *production* of
those turns (`Conversion.production`).  It is written without any buffer, flush or sender, and it is
what the laws on delivery compare the sent batches with.

* `process_value`, `finishCycle_value`: a turn appends its yield and nothing else.
* `production_append`: the production of a run is the production of its parts, one after the other.
-/

namespace RecordingHarvest

/-! ## Buffers, one after the other -/

namespace Buffer

/-- The records of the first buffer before those of the second, in each channel. -/
instance : Append Buffer := ⟨fun a b => ⟨a.metrics ++ b.metrics, a.events ++ b.events⟩⟩

@[simp] theorem metrics_append (a b : Buffer) : (a ++ b).metrics = a.metrics ++ b.metrics := rfl

@[simp] theorem events_append (a b : Buffer) : (a ++ b).events = a.events ++ b.events := rfl

@[simp] theorem metrics_empty : Buffer.empty.metrics = [] := rfl

@[simp] theorem events_empty : Buffer.empty.events = [] := rfl

theorem ext {a b : Buffer} (hm : a.metrics = b.metrics) (he : a.events = b.events) : a = b := by
  cases a; cases b; simp_all

@[simp] theorem empty_append (b : Buffer) : Buffer.empty ++ b = b := ext rfl rfl

@[simp] theorem append_empty (b : Buffer) : b ++ Buffer.empty = b :=
  ext (List.append_nil _) (List.append_nil _)

theorem append_assoc (a b c : Buffer) : a ++ b ++ c = a ++ (b ++ c) :=
  ext (List.append_assoc ..) (List.append_assoc ..)

theorem addMetrics_eq (b : Buffer) (ms : List Metric) : b.addMetrics ms = b ++ ⟨ms, []⟩ :=
  ext rfl (List.append_nil _).symm

theorem addEvents_eq (b : Buffer) (es : List TelemetryEvent) : b.addEvents es = b ++ ⟨[], es⟩ :=
  ext (List.append_nil _).symm rfl

@[simp] theorem size_append (a b : Buffer) : (a ++ b).size = a.size + b.size := by
  simp only [size, metrics_append, events_append, List.length_append]
  omega

theorem eq_empty_of_size {b : Buffer} (h : b.size = 0) : b = Buffer.empty := by
  simp only [size, Nat.add_eq_zero_iff, List.length_eq_zero_iff] at h
  exact ext h.1 h.2

end Buffer

namespace Conversion

variable {σ : Type}

/-! ## One event -/

/-- The records an event is converted to. -/
def yield (c : Conversion σ) (e : Event) : Buffer := (c.convert e Buffer.empty).2.1

/-- The conversion after an event: it is counted, and the windows have taken it in. -/
def after (c : Conversion σ) (e : Event) : Conversion σ := ((c.counted e).convert e Buffer.empty).1

/-- Converting appends: what was buffered decides nothing and stays in front. -/
theorem convert_append (c : Conversion σ) (e : Event) (b : Buffer) :
    c.convert e b = ((c.convert e Buffer.empty).1, b ++ c.yield e,
      (c.convert e Buffer.empty).2.2) := by
  simp only [yield, convert]
  cases (applyAll e c.metrics).2 with
  | some f => simp [Buffer.addMetrics_eq]
  | none =>
      cases (applyAll e c.events).2 <;>
        simp [Buffer.addMetrics_eq, Buffer.addEvents_eq, Buffer.append_assoc]

theorem yield_counted (c : Conversion σ) (e e' : Event) : (c.counted e').yield e = c.yield e := by
  simp only [yield, convert, counted]
  cases (applyAll e c.metrics).2 <;> cases (applyAll e c.events).2 <;> rfl

/-- Converting an event changes none of the mappers. -/
theorem after_mappers (c : Conversion σ) (e : Event) :
    (c.after e).metrics = c.metrics ∧ (c.after e).events = c.events := by
  simp only [after, convert, counted]
  cases (applyAll e c.metrics).2 with
  | some f => exact ⟨rfl, rfl⟩
  | none => cases (applyAll e c.events).2 <;> exact ⟨rfl, rfl⟩

/-- **An event appends its yield.** -/
theorem process_value (c : Conversion σ) (e : Event) (b : Buffer) (j : Journal) :
    (Noting.perform (c.process e b) j).1 = (c.after e, b ++ c.yield e) := by
  have happend := convert_append (c.counted e) e b
  rw [yield_counted] at happend
  simp only [process, happend, after]
  cases ((c.counted e).convert e Buffer.empty).2.2 <;> rfl

/-! ## The end of a window -/

/-- The metrics the summarizers emit for their windows; one that panics emits none. -/
def emitted (start finish : Instant) (windows : List (Summarizer σ × σ)) : List Metric :=
  windows.flatMap fun (s, window) => (s.emit window start finish).1.result.toOption.getD []

/-- The windows after the summarizers emitted. -/
def reopened (start finish : Instant) (windows : List (Summarizer σ × σ)) :
    List (Summarizer σ × σ) :=
  windows.map fun (s, window) => (s, (s.emit window start finish).2)

/-- The metrics a conversion appends when its window closes now. -/
def summaries (c : Conversion σ) (now : Instant) : List Metric :=
  emitted c.windowStart now c.windows

/-- The conversion after its window closed now. -/
def closed (c : Conversion σ) (now : Instant) : Conversion σ :=
  { c with windows := reopened c.windowStart now c.windows, windowStart := now, tally := [] }

theorem emitAll_value (start finish : Instant) (windows : List (Summarizer σ × σ))
    (b : Buffer) (j : Journal) :
    (Noting.perform (emitAll start finish windows b) j).1 =
      (reopened start finish windows, b ++ ⟨emitted start finish windows, []⟩) := by
  induction windows generalizing b j with
  | nil => exact Prod.ext rfl (Buffer.append_empty b).symm
  | cons w rest ih =>
      obtain ⟨s, window⟩ := w
      simp only [emitAll, reopened, emitted, List.map_cons, List.flatMap_cons]
      cases (s.emit window start finish).1.result with
      | ok metrics =>
          simp only [Noting.perform_bind, Noting.perform_pure, ih]
          refine Prod.ext rfl ?_
          rw [Buffer.addMetrics_eq, Buffer.append_assoc]
          rfl
      | error f =>
          simp only [Noting.perform_bind, Noting.perform_pure, ih]
          rfl

/-- **Closing a window appends the summaries.** -/
theorem finishCycle_value (c : Conversion σ) (now : Instant) (b : Buffer) (j : Journal) :
    (Noting.perform (c.finishCycle now b) j).1 = (c.closed now, b ++ ⟨c.summaries now, []⟩) := by
  have hemit := emitAll_value c.windowStart now c.windows b j
  simp only [finishCycle, Noting.perform_bind, hemit]
  split <;> rfl

/-! ## Turns -/

/-- One turn of a conversion: it converts an event, or closes its window. -/
inductive Turn where
  | converted (e : Event)
  | closed (now : Instant)

/-- The conversion after a turn. -/
def turn (c : Conversion σ) : Turn → Conversion σ
  | .converted e => c.after e
  | .closed now => c.closed now

/-- What a turn appends to the buffer. -/
def gives (c : Conversion σ) : Turn → Buffer
  | .converted e => c.yield e
  | .closed now => ⟨c.summaries now, []⟩

/-- The conversion after some turns. -/
def turns (c : Conversion σ) : List Turn → Conversion σ := List.foldl turn c

/-- Everything some turns append, in the order of the turns. -/
def production (c : Conversion σ) : List Turn → Buffer
  | [] => Buffer.empty
  | t :: rest => c.gives t ++ (c.turn t).production rest

theorem turns_append (c : Conversion σ) (ts us : List Turn) :
    c.turns (ts ++ us) = (c.turns ts).turns us := List.foldl_append

theorem production_append (c : Conversion σ) (ts us : List Turn) :
    c.production (ts ++ us) = c.production ts ++ (c.turns ts).production us := by
  induction ts generalizing c with
  | nil => exact (Buffer.empty_append _).symm
  | cons t rest ih =>
      rw [List.cons_append, production, production, ih, Buffer.append_assoc]
      rfl

/-- One more turn appends what it gives after the turns before it. -/
theorem production_snoc (c : Conversion σ) (ts : List Turn) (t : Turn) :
    c.production (ts ++ [t]) = c.production ts ++ (c.turns ts).gives t := by
  rw [production_append, production, production, Buffer.append_empty]

namespace Turn

/-- The event a turn converts, if it converts one. -/
def event? : Turn → Option Event
  | converted e => some e
  | closed _ => none

/-- The events some turns convert, in their order. -/
def events (ts : List Turn) : List Event := ts.filterMap event?

@[simp] theorem events_append (ts us : List Turn) : events (ts ++ us) = events ts ++ events us :=
  List.filterMap_append

@[simp] theorem events_converted (es : List Event) : events (es.map converted) = es := by
  induction es with
  | nil => rfl
  | cons e rest ih => exact congrArg (e :: ·) ih

@[simp] theorem events_closed (now : Instant) : events [closed now] = [] := rfl

end Turn
end Conversion
end RecordingHarvest
