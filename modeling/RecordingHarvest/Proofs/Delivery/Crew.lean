import RecordingHarvest.Delivery.Uploader
import RecordingHarvest.Proofs.Delivery.Calls
import RecordingHarvest.Proofs.Watermark.Run

/-!
# Calls that share one direct uploader

Several workers handle snapshots at the same time, and one last call sends what is left when all of
them have returned.  A call moves in steps, and between two steps of one call any other may move:

* it takes the watermark filter, which must be free, and scans its snapshot;
* it converts the accepted events, one per step;
* it hands out what is buffered if a flush is due and none is outstanding;
* it moves the watermark on and lets go of the filter;
* it sends the metrics and then the telemetry events of what it handed out;
* it marks the flush as sent.

The clock and the common attributes may change between any two steps, and the journal is whatever
the calls and everything else have written by then.  Deleting the snapshot touches nothing that the
calls share and is left out.

* `handleFile_steps`, `finish_steps`: the uploader's own calls, one after the other, are runs of a
  crew.
-/

namespace RecordingHarvest

open Conversion (Turn)

variable {σ : Type}

/-! ## The crew -/

/-- What the calls share, where each of them stands, and what they did so far. -/
structure Crew (σ : Type) where
  watermark : Watermark
  converter : Converter σ
  desk : Desk
  calls : Nat → Call
  /-- The call that holds the watermark filter. -/
  holder : Option Nat
  /-- The calls in the order in which they took the filter. -/
  order : List Nat
  /-- What the conversion did, in order. -/
  book : List Turn

namespace Crew

/-- A crew with one call for each snapshot and the last call behind them. -/
def opening (c : Converter σ) (w : Watermark) (d : Desk)
    (snapshots : List (List (Except Fault Event))) : Crew σ where
  watermark := w
  converter := c
  desk := d
  calls i :=
    match snapshots[i]? with
    | some items => .waiting items
    | none => if i = snapshots.length then .closing else .returned
  holder := none
  order := []
  book := []

/-- Moves one call to another stage. -/
def move (s : Crew σ) (i : Nat) (c : Call) : Crew σ :=
  { s with calls := Function.update s.calls i c }

@[simp] theorem calls_move_self (s : Crew σ) (i : Nat) (c : Call) : (s.move i c).calls i = c :=
  Function.update_self ..

theorem calls_move_of_ne (s : Crew σ) {i k : Nat} (c : Call) (h : k ≠ i) :
    (s.move i c).calls k = s.calls k := Function.update_of_ne h ..

/-- One step of one call, or of the world around them. -/
inductive Step : Crew σ → Crew σ → Prop
  | scan {s : Crew σ} {i : Nat} {items : List (Except Fault Event)} {found : Scan} (j : Journal)
      (hcall : s.calls i = .waiting items) (hfree : s.holder = none)
      (hread : (Noting.perform (s.watermark.scan items) j).1 = .ok found) :
      Step s { s.move i (.converting found found.accepted) with
        holder := some i, order := s.order ++ [i] }
  /-- A snapshot that cannot be read lets go of the filter at once. -/
  | skip {s : Crew σ} {i : Nat} {items : List (Except Fault Event)} {f : Fault} (j : Journal)
      (hcall : s.calls i = .waiting items) (hfree : s.holder = none)
      (hread : (Noting.perform (s.watermark.scan items) j).1 = .error f) :
      Step s { s.move i .returned with order := s.order ++ [i] }
  | convert {s : Crew σ} {i : Nat} {found : Scan} {e : Event} {left : List Event} (j : Journal)
      (hcall : s.calls i = .converting found (e :: left)) :
      Step s { s.move i (.converting found left) with
        converter := (Noting.perform (s.converter.convert e) j).1,
        book := s.book ++ [.converted e] }
  | hold {s : Crew σ} {i : Nat} {found : Scan} {c : Converter σ} (j : Journal)
      (hcall : s.calls i = .converting found [])
      (htake : (Noting.perform (s.converter.takeIfReady s.desk.now) j).1 = (none, c)) :
      Step s { s.move i (.settling found none) with converter := c }
  | take {s : Crew σ} {i : Nat} {found : Scan} {b : Buffer} {c : Converter σ} (j : Journal)
      (hcall : s.calls i = .converting found [])
      (htake : (Noting.perform (s.converter.takeIfReady s.desk.now) j).1 = (some b, c)) :
      Step s { s.move i (.settling found (some b)) with
        converter := c, book := s.book ++ [.closed s.desk.now] }
  | settle {s : Crew σ} {i : Nat} {found : Scan} {due : Option Buffer} (j : Journal)
      (hcall : s.calls i = .settling found due) :
      Step s { s.move i (.afterSettling due) with
        watermark := (Noting.perform (s.watermark.advance found) j).1, holder := none }
  | shipMetrics {s : Crew σ} {i : Nat} {b : Buffer} (j : Journal)
      (hcall : s.calls i = .shipping b) :
      Step s { s.move i (.shippingEvents b) with
        desk := (Sending.perform (Desk.ship b.metricsOnly) s.desk j).2.1 }
  | shipEvents {s : Crew σ} {i : Nat} {b : Buffer} (j : Journal)
      (hcall : s.calls i = .shippingEvents b) :
      Step s { s.move i .marking with
        desk := (Sending.perform (Desk.ship b.eventsOnly) s.desk j).2.1 }
  | mark {s : Crew σ} {i : Nat} (hcall : s.calls i = .marking) :
      Step s { s.move i .returned with converter := s.converter.markSent s.desk.now }
  /-- The last call hands out everything, due or not. -/
  | close {s : Crew σ} {i : Nat} (j : Journal)
      (hcall : s.calls i = .closing) (hlast : ∀ k, k ≠ i → s.calls k = .returned) :
      Step s { s.move i (.afterClosing (Noting.perform (s.converter.take s.desk.now) j).1.1) with
        converter := (Noting.perform (s.converter.take s.desk.now) j).1.2,
        book := s.book ++ [.closed s.desk.now] }
  | tick {s : Crew σ} (now : Instant) : Step s { s with desk := { s.desk with now := now } }
  | relabel {s : Crew σ} (common : Attributes) :
      Step s { s with desk := { s.desk with common := common } }

/-- Any number of steps, in any order of the calls. -/
abbrev Reachable : Crew σ → Crew σ → Prop := Relation.ReflTransGen Step

/-- A call holds a flush that it handed out and has not marked as sent. -/
def HoldsFlush (s : Crew σ) (i : Nat) : Prop := (s.calls i).unsent?.isSome = true

/-- Every call has returned, the last one too. -/
def Done (s : Crew σ) : Prop := ∀ i, s.calls i = .returned

/-! ## The uploader as a crew -/

/-- What the calls of a direct uploader share at a desk. -/
structure Mirrors (s : Crew σ) (u : Uploader σ) (d : Desk) : Prop where
  watermark : u.watermark = s.watermark
  delivery : u.delivery = .direct s.converter
  desk : d = s.desk

/-- Steps in which one call moves on while all others stand still. -/
abbrev Moved : Crew σ → Nat → Call → Crew σ → Prop := RecordingHarvest.Moved Step calls

theorem Moved.single {s t : Crew σ} {i : Nat} {c : Call} (h : Step s t)
    (hcalls : t.calls = (s.move i c).calls) : Moved s i c t :=
  RecordingHarvest.Moved.single h hcalls

/-- The holder of the filter converts all it found, one event after the other. -/
theorem convertAll_steps {s : Crew σ} {i : Nat} {found : Scan} (left : List Event) (j : Journal)
    (hcall : s.calls i = .converting found left) :
    ∃ t, Moved s i (.converting found []) t ∧ t.watermark = s.watermark ∧ t.desk = s.desk ∧
      t.holder = s.holder ∧ t.converter = (Noting.perform (s.converter.convertAll left) j).1 := by
  induction left generalizing s j with
  | nil => exact ⟨s, .refl hcall, rfl, rfl, rfl, rfl⟩
  | cons e rest ih =>
      have hfirst := Moved.single (.convert j hcall) rfl
      obtain ⟨t, hmoved, hrest⟩ := ih (Noting.perform (s.converter.convert e) j).2 hfirst.self
      exact ⟨t, hfirst.trans hmoved, hrest⟩

/-- Sending a flush and marking it as sent is a run of three steps. -/
theorem flush_steps {s : Crew σ} {u : Uploader σ} {d : Desk} {i : Nat} {b : Buffer}
    (hcall : s.calls i = .shipping b) (h : s.Mirrors u d) (j : Journal) :
    ∃ t, Moved s i .returned t ∧ t.holder = s.holder ∧
      t.Mirrors (Sending.perform (u.flush b) d j).1 (Sending.perform (u.flush b) d j).2.1 := by
  obtain ⟨hwatermark, hdelivery, rfl⟩ := h
  have hmetrics := Moved.single (.shipMetrics j hcall) rfl
  have hevents := Moved.single (.shipEvents j hmetrics.self) rfl
  have hmark := Moved.single (.mark hevents.self) rfl
  have hdesk : ∀ j', (Sending.perform (u.flush b) s.desk j').2.1 =
      (Sending.perform (Desk.ship b) s.desk (j'.add (.line .info
        ("Flushing " ++ Number.naturalText b.size ++ " records")))).2.1 := fun _ => rfl
  have huploader : (Sending.perform (u.flush b) s.desk j).1 =
      u.markSent (Sending.perform (u.flush b) s.desk j).2.1.now := rfl
  rw [huploader, hdesk, Desk.perform_ship_eq b s.desk _ j j, Uploader.markSent, hdelivery]
  exact ⟨_, (hmetrics.trans hevents).trans hmark, rfl, hwatermark, rfl, rfl⟩

/-- What harvesting for a direct path comes to, step by step. -/
theorem perform_harvest {u : Uploader σ} {c c₁ c₂ : Converter σ} {found : Scan}
    {due : Option Buffer} {items : List (Except Fault Event)} {d : Desk} {j j₁ j₂ j₃ : Journal} (path : String)
    (hdelivery : u.delivery = .direct c)
    (hscan : Noting.perform (u.watermark.scan items) j = (.ok found, j₁))
    (hconvert : Noting.perform (c.convertAll found.accepted) j₁ = (c₁, j₂))
    (htake : Noting.perform (c₁.takeIfReady d.now) j₂ = ((due, c₂), j₃)) :
    ∃ j', Sending.perform (u.harvest path items) d j =
      (((due.map .due).getD .settled,
        { u with watermark := (Noting.perform (u.watermark.advance found) j₃).1,
                 delivery := .direct c₂ }), d, j') := by
  simp only [Uploader.harvest, Uploader.deliver, Sending.perform_bind, Sending.perform_lift,
    Sending.perform_get, Sending.perform_pure, hscan, hdelivery, hconvert, htake]
  cases due <;> exact ⟨_, rfl⟩

/-- Harvesting a snapshot takes the filter and lets go of it. -/
theorem harvest_steps {s : Crew σ} {u : Uploader σ} {d : Desk} (h : s.Mirrors u d) {i : Nat}
    {items : List (Except Fault Event)} (hcall : s.calls i = .waiting items)
    (hfree : s.holder = none) (path : String) (j : Journal) :
    ∃ t, Moved s i (.afterHarvest (Sending.perform (u.harvest path items) d j).1.1) t ∧
      t.holder = none ∧ t.Mirrors (Sending.perform (u.harvest path items) d j).1.2
        (Sending.perform (u.harvest path items) d j).2.1 := by
  obtain ⟨hwatermark, hdelivery, rfl⟩ := h
  cases hread : (Noting.perform (s.watermark.scan items) j).1 with
  | error f =>
      have hskip := Moved.single (.skip j hcall hfree hread) rfl
      simp only [Uploader.harvest, Sending.perform_bind, Sending.perform_lift, hwatermark, hread]
      exact ⟨_, hskip, hfree, hwatermark, hdelivery, rfl⟩
  | ok found =>
      have hscan := Moved.single (.scan j hcall hfree hread) rfl
      obtain ⟨t, hconverted, htw, htd, -, htc⟩ :=
        convertAll_steps found.accepted (Noting.perform (s.watermark.scan items) j).2 hscan.self
      have hdesk : t.desk = s.desk := htd
      have hheld := hscan.trans hconverted
      rcases htake : Noting.perform (t.converter.takeIfReady s.desk.now)
          (Noting.perform (s.converter.convertAll found.accepted)
            (Noting.perform (s.watermark.scan items) j).2).2 with ⟨⟨due, c⟩, j₃⟩
      have hfound : Noting.perform (u.watermark.scan items) j =
          (.ok found, (Noting.perform (s.watermark.scan items) j).2) := by
        rw [hwatermark]; exact Prod.ext hread rfl
      obtain ⟨j', hperform⟩ :=
        perform_harvest path hdelivery hfound (Prod.ext htc.symm rfl) htake
      have hvalue := congrArg Prod.fst htake
      rw [← hdesk] at hvalue
      rw [hperform, hwatermark]
      cases due with
      | none =>
          have hhold := Moved.single (.hold _ hheld.self hvalue) rfl
          have hsettle := Moved.single (.settle j₃ hhold.self) rfl
          refine ⟨_, (hheld.trans hhold).trans hsettle, rfl,
            congrArg (Watermark.past · found) htw.symm, rfl, hdesk.symm⟩
      | some b =>
          have htaken := Moved.single (.take _ hheld.self hvalue) rfl
          have hsettle := Moved.single (.settle j₃ htaken.self) rfl
          refine ⟨_, (hheld.trans htaken).trans hsettle, rfl,
            congrArg (Watermark.past · found) htw.symm, rfl, hdesk.symm⟩

/-- **Handling a snapshot is a run of one call.**  A call that waits with the snapshot's events
moves through all its stages while no other call moves, and the crew shares what the uploader
keeps. -/
theorem handleFile_steps {s : Crew σ} {u : Uploader σ} {d : Desk} (h : s.Mirrors u d) {i : Nat}
    {shelf : Shelf} {x : Snapshot} (hcall : s.calls i = .waiting (Uploader.itemsOf shelf x))
    (hfree : s.holder = none) (refuses : Desk → Option RemovalStep) (j : Journal) :
    ∃ t, Moved s i .returned t ∧ t.holder = none ∧
      t.Mirrors (Sending.perform (u.handleFile shelf x refuses) d j).1.2.1
        (Sending.perform (u.handleFile shelf x refuses) d j).2.1 := by
  obtain ⟨t, hmoved, hholder, hmirrors⟩ := harvest_steps h hcall hfree (shelf.filePath x) j
  rcases hharvest : Sending.perform (u.harvest (shelf.filePath x) (Uploader.itemsOf shelf x)) d j
    with ⟨⟨harvested, u'⟩, d', j'⟩
  rw [hharvest] at hmoved hmirrors
  simp only [Uploader.handleFile, Sending.perform_bind, hharvest]
  cases harvested with
  | due b =>
      obtain ⟨t', hflushed, hholder', hmirrors'⟩ := flush_steps hmoved.self hmirrors j'
      exact ⟨t', hmoved.trans hflushed, hholder'.trans hholder, hmirrors'⟩
  | settled => exact ⟨t, hmoved, hholder, hmirrors⟩
  | failed f => exact ⟨t, hmoved, hholder, hmirrors⟩
  | waiting left => exact ⟨t, hmoved, hholder, hmirrors⟩

/-- **The last call is a run too**, once all others have returned. -/
theorem finish_steps {s : Crew σ} {u : Uploader σ} {d : Desk} (h : s.Mirrors u d) {i : Nat}
    (hcall : s.calls i = .closing) (hlast : ∀ k, k ≠ i → s.calls k = .returned) (j : Journal) :
    ∃ t, Reachable s t ∧ t.Done ∧
      t.Mirrors (Sending.perform u.finish d j).1 (Sending.perform u.finish d j).2.1 := by
  obtain ⟨hwatermark, hdelivery, rfl⟩ := h
  have hclose := Moved.single (.close j hcall hlast) rfl
  simp only [Uploader.finish, hdelivery, Sending.perform_bind, Sending.perform_get,
    Sending.perform_lift]
  by_cases hempty : (Noting.perform (s.converter.take s.desk.now) j).1.1.isEmpty = true
  · have hmark := Moved.single (.mark (hclose.self.trans (if_pos hempty))) rfl
    have hall := hclose.trans hmark
    simp only [hempty, ↓reduceIte]
    exact ⟨_, hall.reachable, hall.all_returned hlast, hwatermark, rfl, rfl⟩
  · obtain ⟨t, hflushed, -, hmirrors⟩ :=
      flush_steps (u := { u with
        delivery := .direct (Noting.perform (s.converter.take s.desk.now) j).1.2 })
        (hclose.self.trans (if_neg hempty)) ⟨hwatermark, rfl, rfl⟩
        (Noting.perform (s.converter.take s.desk.now) j).2
    have hall := hclose.trans hflushed
    simp only [hempty]
    exact ⟨t, hall.reachable, hall.all_returned hlast, hmirrors⟩

end Crew
end RecordingHarvest
