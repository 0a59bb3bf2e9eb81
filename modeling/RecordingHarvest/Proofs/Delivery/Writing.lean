import RecordingHarvest.Delivery.Consumer
import RecordingHarvest.Delivery.Ingest
import RecordingHarvest.Delivery.Uploader
import RecordingHarvest.Proofs.Writing

/-!
# What delivering writes

Converting, flushing, handling a snapshot and looking at the queue only write to the journal, if the
way out does, and of the counters they count only the events and the faults of capabilities
themselves (`Entry.isDelivery`).

* `writes_handle`: the whole of what the uploader does with a snapshot.
* `writes_look`, `writes_windUp`: the same for the consumer of a queue.
* `writes_logging`, `writes_outbox`: the ways out are such.
-/

namespace RecordingHarvest

variable {σ : Type}

/-- The entries that delivering events writes itself, whatever the way out adds to them. -/
def Entry.isDelivery : Entry → Bool
  | .line .. => true
  | .count c _ => c == .eventsForwarded || c == .eventsDropped || c == .conversionErrors

variable {may : Entry → Prop}

/-! ## Converting -/

namespace Conversion

open Noting

variable (hmay : ∀ e, Entry.isDelivery e = true → may e)

include hmay

theorem writes_process (c : Conversion σ) (e : Event) (b : Buffer) :
    Writes may (c.process e b) := by
  unfold process
  rcases (c.counted e).convert e b with ⟨c', b', _ | f⟩
  · exact writes_pure _
  · refine (writes_count (hmay _ rfl)).bind fun _ => ?_
    exact (writes_note (hmay _ rfl)).bind fun _ => writes_pure _

theorem writes_emitAll (start finish : Instant) (windows : List (Summarizer σ × σ))
    (b : Buffer) : Writes may (emitAll start finish windows b) := by
  induction windows generalizing b with
  | nil => exact writes_pure _
  | cons first rest ih =>
      obtain ⟨s, window⟩ := first
      rw [emitAll]
      dsimp only
      cases (s.emit window start finish).1.result with
      | ok metrics => exact (ih _).bind fun _ => writes_pure _
      | error f =>
          refine (writes_count (hmay _ rfl)).bind fun _ => ?_
          refine (writes_note (hmay _ rfl)).bind fun _ => ?_
          exact (ih _).bind fun _ => writes_pure _

theorem writes_finishCycle (c : Conversion σ) (now : Instant) (b : Buffer) :
    Writes may (c.finishCycle now b) := by
  refine (writes_emitAll hmay _ _ _ _).bind fun (windows, b) => ?_
  dsimp only
  split
  · exact writes_pure _
  · exact (writes_note (hmay _ rfl)).bind fun _ => writes_pure _

end Conversion

namespace Converter

open Noting

variable (hmay : ∀ e, Entry.isDelivery e = true → may e)

include hmay

theorem writes_convert (c : Converter σ) (e : Event) : Writes may (c.convert e) :=
  (Conversion.writes_process hmay _ _ _).bind fun _ => writes_pure _

theorem writes_convertAll (c : Converter σ) (events : List Event) :
    Writes may (c.convertAll events) := by
  induction events generalizing c with
  | nil => exact writes_pure _
  | cons e rest ih => exact (writes_convert hmay c e).bind fun c' => ih c'

theorem writes_take (c : Converter σ) (now : Instant) : Writes may (c.take now) :=
  (Conversion.writes_finishCycle hmay _ _ _).bind fun _ => writes_pure _

theorem writes_takeIfReady (c : Converter σ) (now : Instant) : Writes may (c.takeIfReady now) := by
  have hready : Writes may (c.schedule.ready now c.buffered) := by
    unfold FlushSchedule.ready
    split
    · exact (writes_note (hmay _ rfl)).bind fun _ => writes_pure _
    · exact writes_pure _
  unfold takeIfReady
  split
  · exact writes_pure _
  · refine hready.bind fun due => ?_
    split
    · exact (writes_take hmay c now).bind fun _ => writes_pure _
    · exact writes_pure _

end Converter

/-! ## Sending -/

namespace Desk

open Sending

variable (hmay : ∀ e, Entry.isDelivery e = true → may e)

include hmay

theorem writes_send (b : Batch) : Writes may (send b) := by
  refine (writes_handOver b).bind fun r => ?_
  cases r with
  | ok _ => exact writes_lift (Noting.writes_note (hmay _ rfl))
  | error f => exact writes_lift (Noting.writes_note (hmay _ rfl))

theorem writes_ship (b : Buffer) : Writes may (ship b) := by
  have hall : ∀ batches : List Batch, Writes may (batches.forM send) := by
    intro batches
    induction batches with
    | nil => exact writes_pure _
    | cons first rest ih => exact (writes_send hmay first).bind fun _ => ih
  exact writes_get.bind fun d => hall _

end Desk

/-! ## The uploader -/

namespace Uploader

open Sending

variable (hmay : ∀ e, Entry.isDelivery e = true → may e)

include hmay

theorem writes_scan (w : Watermark) (items : List (Except Fault Event)) :
    Noting.Writes may (w.scan items) := by
  unfold Watermark.scan
  cases Watermark.readAll items with
  | error f => exact Noting.writes_pure _
  | ok events => exact (Noting.writes_note (hmay _ rfl)).bind fun _ => Noting.writes_pure _

theorem writes_settle (u : Uploader σ) (path : String) (s : Scan) :
    Noting.Writes may (u.settle path s) := by
  have hadvance : Noting.Writes may (u.watermark.advance s) :=
    (Noting.writes_count (hmay _ rfl)).bind fun _ => Noting.writes_pure _
  refine hadvance.bind fun w => ?_
  refine (Noting.writes_count (hmay _ rfl)).bind fun _ => ?_
  exact (Noting.writes_note (hmay _ rfl)).bind fun _ => Noting.writes_pure _

theorem writes_deliver (path : String) (events : List Event) (delivery : Delivery σ) :
    Writes may (deliver path events delivery) := by
  cases delivery with
  | direct c =>
      refine (writes_lift (Converter.writes_convertAll hmay c events)).bind fun c' => ?_
      refine writes_get.bind fun d => ?_
      exact (writes_lift (Converter.writes_takeIfReady hmay c' d.now)).bind fun _ => writes_pure _
  | queued q =>
      unfold deliver
      dsimp only
      rcases q.pushAll events with ⟨q', f | _ | ⟨e, left⟩⟩
      · exact (writes_lift (Noting.writes_note (hmay _ rfl))).bind fun _ => writes_pure _
      · exact writes_pure _
      · exact writes_pure _

theorem writes_harvest (u : Uploader σ) (path : String) (items : List (Except Fault Event)) :
    Writes may (u.harvest path items) := by
  refine (writes_lift (writes_scan hmay u.watermark items)).bind fun r => ?_
  cases r with
  | error f => exact writes_pure _
  | ok s =>
      refine (writes_deliver hmay path s.accepted u.delivery).bind fun (harvested, delivery) => ?_
      cases harvested with
      | due b => exact (writes_lift (writes_settle hmay _ path s)).bind fun _ => writes_pure _
      | settled => exact (writes_lift (writes_settle hmay _ path s)).bind fun _ => writes_pure _
      | failed f => exact writes_pure _
      | waiting left => exact writes_pure _

theorem writes_flush (u : Uploader σ) (b : Buffer) : Writes may (u.flush b) := by
  refine (writes_lift (Noting.writes_note (hmay _ rfl))).bind fun _ => ?_
  refine (Desk.writes_ship hmay b).bind fun _ => ?_
  exact writes_get.bind fun d => writes_pure _

theorem writes_cleanUp (strict : Bool) (shelf : Shelf) (x : Snapshot)
    (refused : Option RemovalStep) : Noting.Writes may (cleanUp strict shelf x refused) := by
  unfold cleanUp
  rcases shelf.remove x refused with ⟨f | _, shelf'⟩
  · cases strict with
    | true => exact Noting.writes_pure _
    | false => exact (Noting.writes_note (hmay _ rfl)).bind fun _ => Noting.writes_pure _
  · exact Noting.writes_pure _

theorem writes_handleFile (u : Uploader σ) (shelf : Shelf) (x : Snapshot)
    (refuses : Desk → Option RemovalStep) : Writes may (u.handleFile shelf x refuses) := by
  have hclean : ∀ (u : Uploader σ), Writes may (do
      let d ← get
      let p ← liftM (cleanUp u.strictCleanup shelf x (refuses d))
      return (p.1, u, p.2) : Sending (Handled × Uploader σ × Shelf)) := fun u =>
    writes_get.bind fun d =>
      (writes_lift (writes_cleanUp hmay u.strictCleanup shelf x (refuses d))).bind fun _ =>
        writes_pure _
  refine (writes_harvest hmay u _ _).bind ?_
  rintro ⟨harvested, u⟩
  cases harvested with
  | waiting left => exact writes_pure _
  | settled => exact hclean u
  | due b => exact (writes_flush hmay u b).bind fun u => hclean u
  | failed f => exact (writes_lift (Noting.writes_note (hmay _ rfl))).bind fun _ => hclean u

/-- **Handling a snapshot only writes.** -/
theorem writes_handle (u : Uploader σ) (shelf : Shelf) (x : Snapshot) :
    Writes may (u.handle shelf x) := by
  refine (writes_handleFile hmay u shelf x _).bind fun (handled, u, shelf) => ?_
  cases handled with
  | failed f => exact (writes_lift (Noting.writes_note (hmay _ rfl))).bind fun _ => writes_pure _
  | done => exact writes_pure _
  | waiting left => exact writes_pure _

theorem writes_finish (u : Uploader σ) : Writes may u.finish := by
  unfold finish
  cases u.delivery with
  | queued q => exact writes_pure _
  | direct c =>
      refine writes_get.bind fun d => ?_
      refine (writes_lift (Converter.writes_take hmay c d.now)).bind fun (b, c) => ?_
      dsimp only
      split
      · exact writes_get.bind fun d => writes_pure _
      · exact writes_flush hmay _ b

end Uploader

/-! ## The consumer of a queue -/

namespace Consumer

open Sending

variable (hmay : ∀ e, Entry.isDelivery e = true → may e)

include hmay

theorem writes_flush (c : Consumer σ) (b : Buffer) : Writes may (c.flush b) :=
  (Desk.writes_ship hmay b).bind fun _ => writes_get.bind fun _ => writes_pure _

theorem writes_flushIfDue (c : Consumer σ) : Writes may c.flushIfDue := by
  refine writes_get.bind fun d => ?_
  refine (writes_lift (Converter.writes_takeIfReady hmay c.converter d.now)).bind
    fun (due, converter) => ?_
  cases due with
  | some b => exact writes_flush hmay _ b
  | none => exact writes_pure _

/-- **A look of the consumer only writes.** -/
theorem writes_look (c : Consumer σ) : Writes may c.look := by
  unfold look
  rcases c.queue.poll with ⟨e | _ | _, queue⟩
  · refine (writes_lift (Converter.writes_convert hmay c.converter e)).bind fun converter => ?_
    exact (writes_flushIfDue hmay _).bind fun _ => writes_pure _
  · exact (writes_flushIfDue hmay _).bind fun _ => writes_pure _
  · exact (writes_lift (Noting.writes_note (hmay _ rfl))).bind fun _ => writes_pure _

theorem writes_windUp (c : Consumer σ) : Writes may c.windUp := by
  refine (writes_lift (Converter.writes_convertAll hmay c.converter _)).bind fun converter => ?_
  dsimp only
  split
  · exact writes_pure _
  · refine writes_get.bind fun d => ?_
    refine (writes_lift (Converter.writes_take hmay converter d.now)).bind fun (b, converter) => ?_
    exact writes_flush hmay _ b

end Consumer

/-! ## The ways out -/

namespace Outbox

theorem writes_logging (hmay : ∀ e, Entry.isLine e = true → may e) : logging.Writes may := by
  intro n b
  refine (Noting.writes_note (hmay _ rfl)).bind fun _ => ?_
  exact (Noting.writes_note (hmay _ rfl)).bind fun _ => Noting.writes_pure _

end Outbox

namespace Ingest

open Noting

/-- Posting to the backend writes lines, and counts the batches that it accepts. -/
theorem writes_outbox (hline : ∀ e, Entry.isLine e = true → may e)
    (hsent : may (.count .batchesSent 1)) (i : Ingest) (network : Nat → Post → Exchange) :
    (i.outbox network).Writes may := by
  have hpack : ∀ bytes, Writes may (i.compression.pack bytes) := by
    intro bytes
    cases i.compression with
    | none => exact writes_pure _
    | zstd => exact (writes_note (hline _ rfl)).bind fun _ => writes_pure _
  have hconclude : ∀ kind exchange, Writes may (i.conclude kind exchange) := by
    intro kind exchange
    cases exchange with
    | lost => exact writes_pure _
    | late => exact writes_pure _
    | response status body =>
        unfold conclude
        dsimp only
        split
        · refine (writes_count hsent).bind fun _ => ?_
          exact (writes_note (hline _ rfl)).bind fun _ => writes_pure _
        · exact writes_pure _
  intro n b
  show Writes may (i.send (network n) b)
  unfold send
  cases i.addressFor b with
  | none => exact (writes_note (hline _ rfl)).bind fun _ => writes_pure _
  | some address =>
      refine (hpack _).bind fun body => ?_
      dsimp only
      split
      · exact hconclude _ _
      · exact writes_pure _

end Ingest
end RecordingHarvest
