import RecordingHarvest.Proofs.Conversion.Yield
import RecordingHarvest.Proofs.Delivery.FlushTimes

/-!
# From the converter to the sender

What a converter hands out and what of it reaches the sender.  A record that was converted has left
the converter, to be sent or already sent, or is still buffered: `Converter.Keeps` says that what
left and what is buffered, one after the other, are the production so far.

* `Desk.perform_ship`: a buffer leaves as the batches of its channels, whatever the sender answers.
* `Buffer.load_batches`: these batches hold exactly the buffer's records; none of them is empty.
* `Keeps.convert`, `Keeps.take`: converting and handing out keep every record where it belongs.
-/

namespace RecordingHarvest

open Conversion (Turn)

variable {σ : Type}

/-! ## Batches -/

namespace Batch

/-- The metrics in a batch. -/
def metricRecords : Batch → List Metric
  | metrics _ records => records
  | events .. => []

/-- The telemetry events in a batch. -/
def eventRecords : Batch → List TelemetryEvent
  | metrics .. => []
  | events _ records => records

/-- All records in a list of batches, each channel in the order of the batches. -/
def load (bs : List Batch) : Buffer := ⟨bs.flatMap metricRecords, bs.flatMap eventRecords⟩

@[simp] theorem load_append (bs cs : List Batch) : load (bs ++ cs) = load bs ++ load cs :=
  Buffer.ext List.flatMap_append List.flatMap_append

end Batch

namespace Buffer

/-- The batches of a buffer hold exactly its records. -/
@[simp] theorem load_batches (b : Buffer) (common : Attributes) :
    Batch.load (b.batches common) = b := by
  obtain ⟨metrics, events⟩ := b
  cases metrics <;> cases events <;>
    simp [batches, Batch.load, Batch.metricRecords, Batch.eventRecords]

/-- No batch of a buffer is empty. -/
theorem size_pos_of_mem_batches {b : Buffer} {common : Attributes} {x : Batch}
    (h : x ∈ b.batches common) : 0 < x.size := by
  obtain ⟨metrics, events⟩ := b
  cases metrics <;> cases events <;> simp [batches] at h
  · subst h; exact Nat.succ_pos _
  · subst h; exact Nat.succ_pos _
  · rcases h with rfl | rfl <;> exact Nat.succ_pos _

/-- The metrics of a buffer alone. -/
def metricsOnly (b : Buffer) : Buffer := ⟨b.metrics, []⟩

/-- The telemetry events of a buffer alone. -/
def eventsOnly (b : Buffer) : Buffer := ⟨[], b.events⟩

theorem metricsOnly_append_eventsOnly (b : Buffer) : b.metricsOnly ++ b.eventsOnly = b :=
  ext (List.append_nil _) rfl

theorem batches_split (b : Buffer) (common : Attributes) :
    b.batches common = b.metricsOnly.batches common ++ b.eventsOnly.batches common := by
  obtain ⟨metrics, events⟩ := b
  cases metrics <;> cases events <;> rfl

end Buffer

/-! ## The desk -/

namespace Desk

/-- The desk after a batch was handed over: later, with one more batch sent. -/
def handed (d : Desk) (x : Batch) : Desk :=
  { d with now := d.now.advance d.outbox.delay,
           outbox := { d.outbox with sent := d.outbox.sent ++ [x] } }

/-- Handing a batch over adds it to the batches sent, whatever the transport answers. -/
theorem perform_send (x : Batch) (d : Desk) (j : Journal) :
    (Sending.perform (send x) d j).2.1 = d.handed x := by
  simp only [send, handOver, Sending.perform_bind, Sending.perform_get, Sending.perform_set,
    Sending.perform_pure, Sending.perform_lift]
  split <;> rfl

theorem perform_forM_send (xs : List Batch) (d : Desk) (j : Journal) :
    (Sending.perform (xs.forM send) d j).2.1 = xs.foldl handed d := by
  induction xs generalizing d j with
  | nil => rfl
  | cons x rest ih =>
      have hforM : (x :: rest).forM send = (do send x; rest.forM send : Sending PUnit) := rfl
      rw [hforM, Sending.perform_bind, ih, perform_send, List.foldl_cons]

/-- A buffer leaves as its batches, in their order and each of them once. -/
theorem perform_ship (b : Buffer) (d : Desk) (j : Journal) :
    (Sending.perform (ship b) d j).2.1 = (b.batches d.common).foldl handed d := by
  simp only [ship, Sending.perform_bind, Sending.perform_get, perform_forM_send]

theorem common_handed (xs : List Batch) (d : Desk) : (xs.foldl handed d).common = d.common := by
  induction xs generalizing d with
  | nil => rfl
  | cons x rest ih => exact ih (d.handed x)

theorem sent_handed (xs : List Batch) (d : Desk) :
    (xs.foldl handed d).outbox.sent = d.outbox.sent ++ xs := by
  induction xs generalizing d with
  | nil => exact (List.append_nil _).symm
  | cons x rest ih =>
      rw [List.foldl_cons, ih]
      exact List.append_assoc ..

theorem sent_ship (b : Buffer) (d : Desk) (j : Journal) :
    (Sending.perform (ship b) d j).2.1.outbox.sent = d.outbox.sent ++ b.batches d.common := by
  rw [perform_ship, sent_handed]

/-- Sending a buffer is sending its metrics and then its telemetry events. -/
theorem perform_ship_eq (b : Buffer) (d : Desk) (j j' j'' : Journal) :
    (Sending.perform (ship b) d j).2.1 =
      (Sending.perform (ship b.eventsOnly)
        (Sending.perform (ship b.metricsOnly) d j').2.1 j'').2.1 := by
  rw [perform_ship, perform_ship, perform_ship, common_handed, ← List.foldl_append,
    Buffer.batches_split]

end Desk

/-! ## The converter -/

namespace Converter

theorem convert_value (c : Converter σ) (e : Event) (j : Journal) :
    (Noting.perform (c.convert e) j).1 =
      { c with conversion := c.conversion.after e,
               buffer := c.buffer ++ c.conversion.yield e } := by
  simp only [convert, Noting.perform_bind, Noting.perform_pure, Conversion.process_value]

/-- A flush closes the window and hands out the buffer with the summaries at its end. -/
theorem take_value (c : Converter σ) (now : Instant) (j : Journal) :
    (Noting.perform (c.take now) j).1 =
      (c.buffer ++ ⟨c.conversion.summaries now, []⟩,
        { c with conversion := c.conversion.closed now, buffer := Buffer.empty,
                 outstanding := true }) := by
  simp only [take, Noting.perform_bind, Noting.perform_pure, Conversion.finishCycle_value]

/-- Nothing is handed out while a flush is outstanding or none is due; else everything is. -/
theorem takeIfReady_value (c : Converter σ) (now : Instant) (j : Journal) :
    (Noting.perform (c.takeIfReady now) j).1 =
      if c.outstanding = false ∧ c.schedule.isDue now c.buffered = true then
        (some (c.buffer ++ ⟨c.conversion.summaries now, []⟩),
          { c with conversion := c.conversion.closed now, buffer := Buffer.empty,
                   outstanding := true })
      else (none, c) := by
  unfold takeIfReady
  cases hout : c.outstanding with
  | true => rfl
  | false =>
      simp only [Bool.false_eq_true, ↓reduceIte, Noting.perform_bind,
        FlushSchedule.ready_value, true_and]
      split
      · simp only [Noting.perform_bind, Noting.perform_pure, take_value]
      · rfl

/-- A converter that took these turns, when these records have left it. -/
structure Keeps (c₀ : Conversion σ) (book : List Turn) (left : Buffer) (c : Converter σ) :
    Prop where
  conversion : c.conversion = c₀.turns book
  records : left ++ c.buffer = c₀.production book

theorem keeps_new (registry : Registry σ) (start : Instant) (schedule : FlushSchedule) :
    Keeps (Conversion.new registry start) [] Buffer.empty (new registry start schedule) :=
  ⟨rfl, rfl⟩

namespace Keeps

variable {c₀ : Conversion σ} {book : List Turn} {left : Buffer} {c : Converter σ}

/-- **An event's records join the buffer.** -/
theorem convert (h : Keeps c₀ book left c) (e : Event) (j : Journal) :
    Keeps c₀ (book ++ [.converted e]) left (Noting.perform (c.convert e) j).1 := by
  rw [convert_value]
  refine ⟨?_, ?_⟩
  · rw [Conversion.turns_append, ← h.conversion]
    rfl
  · rw [Conversion.production_snoc, ← h.conversion, ← h.records, Buffer.append_assoc]
    rfl

/-- **A flush takes the whole buffer along**, with the summaries of the window it closes. -/
theorem take (h : Keeps c₀ book left c) (now : Instant) (j : Journal) :
    Keeps c₀ (book ++ [.closed now]) (left ++ (Noting.perform (c.take now) j).1.1)
      (Noting.perform (c.take now) j).1.2 := by
  rw [take_value]
  refine ⟨?_, ?_⟩
  · rw [Conversion.turns_append, ← h.conversion]
    rfl
  · rw [Conversion.production_snoc, ← h.conversion, ← h.records, Buffer.append_empty,
      Buffer.append_assoc]
    rfl

theorem markSent (h : Keeps c₀ book left c) (now : Instant) :
    Keeps c₀ book left (c.markSent now) := ⟨h.conversion, h.records⟩

end Keeps

/-- A converter hands a flush out as `take` does, or nothing. -/
theorem takeIfReady_cases (c : Converter σ) (now : Instant) (j : Journal) :
    (Noting.perform (c.takeIfReady now) j).1 = (none, c) ∨
      c.outstanding = false ∧ (Noting.perform (c.takeIfReady now) j).1 =
        (some (Noting.perform (c.take now) j).1.1, (Noting.perform (c.take now) j).1.2) := by
  rw [takeIfReady_value, take_value]
  split
  · rename_i hdue
    exact .inr ⟨hdue.1, rfl⟩
  · exact .inl rfl

end Converter
end RecordingHarvest
