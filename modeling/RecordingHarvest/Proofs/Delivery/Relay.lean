import RecordingHarvest.Delivery.Consumer
import RecordingHarvest.Proofs.Delivery.Calls

/-!
# Calls that share a queue with its consumer

Several workers handle snapshots at the same time and push the events they accept to one bounded
queue; one consumer takes the events off, converts them and sends a flush when one is due.  Between
two steps of one party any other may move:

* a call takes the watermark filter, which must be free, and scans its snapshot;
* it pushes the accepted events, one per step, and waits while the queue is full;
* it moves the watermark on and lets go of the filter, or, if the queue was closed, only lets go;
* the consumer looks at its stop handle, polls, converts what it got, and sends a flush if one is
  due; a poll on an empty queue times out, and on a queue without producers it ends the looking;
* told to stop or disconnected, it converts what is still queued and sends what is buffered.

The stop handle is set, and the producers go, only when every call has returned.  The clock and the
common attributes may change between any two steps.

* `handleFile_steps`, `look_steps`: the uploader's own calls and the consumer's own looks are runs
  of a relay.
-/

namespace RecordingHarvest

open Conversion (Turn)

variable {σ : Type}

/-! ## Delivering to a queue -/

namespace EventQueue

/-- A queue refuses an event when its consumer is gone. -/
theorem push_eq_closed_iff {q : EventQueue Event} {e : Event} :
    q.push e = .closed ↔ q.consumed = false := by
  unfold push
  cases q.consumed with
  | false => simp only [Bool.not_false, ↓reduceIte]
  | true =>
      simp only [Bool.not_true, Bool.false_eq_true, ↓reduceIte, Bool.true_eq_false, iff_false]
      split <;> nofun

theorem pushAll_closed {q : EventQueue Event} (h : q.consumed = false) {events : List Event}
    (hne : events ≠ []) : q.pushAll events = (q, .error .queueClosed) := by
  cases events with
  | nil => exact absurd rfl hne
  | cons e rest => rw [pushAll, push_eq_closed_iff.2 h]

end EventQueue

namespace Uploader

/-- How a harvest ends that pushed as much as its queue took. -/
def pushedTo : EventQueue Event × Except Fault (List Event) → Harvested × Delivery σ
  | (q, .ok []) => (.settled, .queued q)
  | (q, .ok (e :: left)) => (.waiting (e :: left), .queued q)
  | (q, .error f) => (.failed f, .queued q)

/-- Delivering to a queue pushes, and touches nothing else but the journal. -/
theorem deliver_queued {delivery : Delivery σ} {q : EventQueue Event} (h : delivery = .queued q)
    (path : String) (events : List Event) (d : Desk) (j : Journal) :
    ∃ j', Sending.perform (deliver path events delivery) d j =
      (pushedTo (q.pushAll events), d, j') := by
  rw [h]
  unfold deliver
  dsimp only
  rcases q.pushAll events with ⟨q', f | _ | ⟨e, left⟩⟩
  · exact ⟨_, rfl⟩
  · exact ⟨_, rfl⟩
  · exact ⟨_, rfl⟩

end Uploader

/-! ## The consumer's stages -/

namespace Consumer

/-- Where the consumer of a queue stands. -/
inductive Stage where
  /-- It is about to look at its stop handle. -/
  | heeding
  | polling
  /-- It took an event off the queue and has not converted it. -/
  | holding (e : Event)
  /-- It is about to send a flush if one is due. -/
  | flushing
  /-- It was told to stop, or the queue is disconnected. -/
  | windingUp
  | ended
  deriving Repr

namespace Stage

/-- The event off the queue that is not converted yet. -/
def held : Stage → List Event
  | holding e => [e]
  | heeding | polling | flushing | windingUp | ended => []

/-- Whether the consumer takes no more looks. -/
def isOver : Stage → Bool
  | windingUp | ended => true
  | heeding | polling | holding _ | flushing => false

end Stage

/-- A flush leaves the queue alone. -/
theorem queue_flushIfDue (c : Consumer σ) (d : Desk) (j : Journal) :
    (Sending.perform c.flushIfDue d j).1.queue = c.queue := by
  simp only [flushIfDue, Sending.perform_bind, Sending.perform_get, Sending.perform_lift]
  cases (Noting.perform (c.converter.takeIfReady d.now) j).1.1 <;> rfl

end Consumer

open Consumer (Stage)

/-- A queue with the calls on one end, the consumer on the other, and what passed through it. -/
structure Relay (σ : Type) where
  watermark : Watermark
  calls : Nat → Call
  /-- The call that holds the watermark filter. -/
  holder : Option Nat
  /-- The calls in the order in which they took the filter. -/
  order : List Nat
  queue : EventQueue Event
  /-- Where the consumer stands. -/
  stage : Stage
  converter : Converter σ
  desk : Desk
  /-- Whether the consumer's stop handle is set. -/
  stop : Bool
  /-- The events pushed, in order. -/
  passed : List Event
  /-- The events the consumer converted, in order. -/
  converted : List Event

namespace Relay

/-- One call for each snapshot, an empty queue, and a consumer that has not looked yet. -/
def opening (capacity : Nat) (c : Converter σ) (w : Watermark) (d : Desk)
    (snapshots : List (List (Except Fault Event))) : Relay σ where
  watermark := w
  calls i :=
    match snapshots[i]? with
    | some items => .waiting items
    | none => .returned
  holder := none
  order := []
  queue := .new capacity
  stage := .heeding
  converter := c
  desk := d
  stop := false
  passed := []
  converted := []

/-- Moves one call to another stage. -/
def move (s : Relay σ) (i : Nat) (c : Call) : Relay σ :=
  { s with calls := Function.update s.calls i c }

/-- The consumer with its end of the queue. -/
def consumer (s : Relay σ) : Consumer σ := ⟨s.queue, s.converter⟩

/-- Every call has returned. -/
def Quiet (s : Relay σ) : Prop := ∀ k, s.calls k = .returned

@[simp] theorem calls_move_self (s : Relay σ) (i : Nat) (c : Call) : (s.move i c).calls i = c :=
  Function.update_self ..

theorem calls_move_of_ne (s : Relay σ) {i k : Nat} (c : Call) (h : k ≠ i) :
    (s.move i c).calls k = s.calls k := Function.update_of_ne h ..

/-- One step of a call, of the consumer, or of the world around them. -/
inductive Step : Relay σ → Relay σ → Prop
  | scan {s : Relay σ} {i : Nat} {items : List (Except Fault Event)} {found : Scan} (j : Journal)
      (hcall : s.calls i = .waiting items) (hfree : s.holder = none)
      (hread : (Noting.perform (s.watermark.scan items) j).1 = .ok found) :
      Step s { s.move i (.converting found found.accepted) with
        holder := some i, order := s.order ++ [i] }
  /-- A snapshot that cannot be read lets go of the filter at once. -/
  | skip {s : Relay σ} {i : Nat} {items : List (Except Fault Event)} {f : Fault} (j : Journal)
      (hcall : s.calls i = .waiting items) (hfree : s.holder = none)
      (hread : (Noting.perform (s.watermark.scan items) j).1 = .error f) :
      Step s { s.move i .returned with order := s.order ++ [i] }
  | push {s : Relay σ} {i : Nat} {found : Scan} {e : Event} {left : List Event}
      {q : EventQueue Event} (hcall : s.calls i = .converting found (e :: left))
      (hpush : s.queue.push e = .done q) :
      Step s { s.move i (.converting found left) with queue := q, passed := s.passed ++ [e] }
  /-- A call whose queue is closed leaves the watermark. -/
  | refuse {s : Relay σ} {i : Nat} {found : Scan} {e : Event} {left : List Event}
      (hcall : s.calls i = .converting found (e :: left)) (hpush : s.queue.push e = .closed) :
      Step s { s.move i .returned with holder := none }
  | settle {s : Relay σ} {i : Nat} {found : Scan} (j : Journal)
      (hcall : s.calls i = .converting found []) :
      Step s { s.move i .returned with
        watermark := (Noting.perform (s.watermark.advance found) j).1, holder := none }
  | goOn {s : Relay σ} (hstage : s.stage = .heeding) (hstop : s.stop = false) :
      Step s { s with stage := .polling }
  | heed {s : Relay σ} (hstage : s.stage = .heeding) (hstop : s.stop = true) :
      Step s { s with stage := .windingUp }
  | take {s : Relay σ} {e : Event} {q : EventQueue Event} (hstage : s.stage = .polling)
      (hpoll : s.queue.poll = (.event e, q)) : Step s { s with stage := .holding e, queue := q }
  | timeOut {s : Relay σ} {q : EventQueue Event} (hstage : s.stage = .polling)
      (hpoll : s.queue.poll = (.empty, q)) : Step s { s with stage := .flushing, queue := q }
  | disconnect {s : Relay σ} {q : EventQueue Event} (hstage : s.stage = .polling)
      (hpoll : s.queue.poll = (.disconnected, q)) :
      Step s { s with stage := .windingUp, queue := q }
  | convert {s : Relay σ} {e : Event} (j : Journal) (hstage : s.stage = .holding e) :
      Step s { s with
        stage := .flushing, converter := (Noting.perform (s.converter.convert e) j).1,
        converted := s.converted ++ [e] }
  | flush {s : Relay σ} (j : Journal) (hstage : s.stage = .flushing) :
      Step s { s with
        stage := .heeding,
        converter := (Sending.perform s.consumer.flushIfDue s.desk j).1.converter,
        desk := (Sending.perform s.consumer.flushIfDue s.desk j).2.1 }
  | windUp {s : Relay σ} (j : Journal) (hstage : s.stage = .windingUp) :
      Step s { s with
        stage := .ended, queue := (Sending.perform s.consumer.windUp s.desk j).1.queue,
        converter := (Sending.perform s.consumer.windUp s.desk j).1.converter,
        desk := (Sending.perform s.consumer.windUp s.desk j).2.1,
        converted := s.converted ++ s.queue.drain.1 }
  /-- The consumer that has ended gives its end of the queue up. -/
  | leave {s : Relay σ} (hstage : s.stage = .ended) :
      Step s { s with queue := s.queue.dropConsumer }
  | stop {s : Relay σ} (hquiet : s.Quiet) : Step s { s with stop := true }
  /-- The uploader goes, and its end of the queue with it. -/
  | depart {s : Relay σ} (hquiet : s.Quiet) : Step s { s with queue := s.queue.dropProducer }
  | tick {s : Relay σ} (now : Instant) : Step s { s with desk := { s.desk with now := now } }
  | relabel {s : Relay σ} (common : Attributes) :
      Step s { s with desk := { s.desk with common := common } }

/-- Any number of steps, in any order of the parties. -/
abbrev Reachable : Relay σ → Relay σ → Prop := Relation.ReflTransGen Step

/-! ## The uploader's calls -/

/-- Steps in which one call moves on while all others, and the consumer, stand still. -/
abbrev Moved : Relay σ → Nat → Call → Relay σ → Prop := RecordingHarvest.Moved Step calls

theorem Moved.single {s t : Relay σ} {i : Nat} {c : Call} (h : Step s t)
    (hcalls : t.calls = (s.move i c).calls) : Moved s i c t :=
  RecordingHarvest.Moved.single h hcalls

/-- What the calls of a queueing uploader share. -/
structure Mirrors (s : Relay σ) (u : Uploader σ) : Prop where
  watermark : u.watermark = s.watermark
  delivery : u.delivery = .queued s.queue

/-- Where a call stands once its harvest has come as far as it can. -/
def afterHarvest (found : Scan) : Harvested → Call
  | .waiting left => .converting found left
  | .due _ | .settled | .failed _ => .returned

/-- Where a call stands once its snapshot is handled as far as it can be. -/
def afterHandling (found : Scan) : Handled → Call
  | .waiting left => .converting found left
  | .done | .failed _ => .returned

/-- Deleting a snapshot waits for nothing. -/
theorem afterHandling_cleanUp (found : Scan) (strict : Bool) (shelf : Shelf) (x : Snapshot)
    (refused : Option RemovalStep) (j : Journal) :
    afterHandling found (Noting.perform (Uploader.cleanUp strict shelf x refused) j).1.1 =
      .returned := by
  unfold Uploader.cleanUp
  rcases shelf.remove x refused with ⟨f | _, shelf'⟩
  · cases strict <;> rfl
  · rfl

/-- The holder of the filter pushes as much as the queue takes. -/
theorem pushAll_steps {s : Relay σ} {i : Nat} {found : Scan} (left : List Event)
    (hcall : s.calls i = .converting found left) :
    match s.queue.pushAll left with
    | (q, .ok left') => ∃ t, Moved s i (.converting found left') t ∧ t.watermark = s.watermark ∧
        t.holder = s.holder ∧ t.queue = q
    | (q, .error _) => ∃ t, Moved s i .returned t ∧ t.watermark = s.watermark ∧
        t.holder = none ∧ t.queue = q := by
  induction left generalizing s with
  | nil => exact ⟨s, .refl hcall, rfl, rfl, rfl⟩
  | cons e rest ih =>
      rw [EventQueue.pushAll]
      cases hpush : s.queue.push e with
      | done q =>
          have hfirst := Moved.single (.push hcall hpush) rfl
          have hrest := ih hfirst.self
          dsimp only at hrest ⊢
          rcases hall : q.pushAll rest with ⟨q', f | left'⟩ <;> rw [hall] at hrest
          all_goals
            obtain ⟨t, hmoved, hkept⟩ := hrest
            exact ⟨t, hfirst.trans hmoved, hkept⟩
      | waits => exact ⟨s, .refl hcall, rfl, rfl, rfl⟩
      | closed => exact ⟨_, .single (.refuse hcall hpush) rfl, rfl, rfl, rfl⟩

/-- Harvesting a snapshot takes the filter, and lets go of it unless it waits for room. -/
theorem harvest_steps {s : Relay σ} {u : Uploader σ} (h : s.Mirrors u) {i : Nat}
    {items : List (Except Fault Event)} (hcall : s.calls i = .waiting items)
    (hfree : s.holder = none) (path : String) (d : Desk) (j : Journal) :
    ∃ found t, Moved s i (afterHarvest found (Sending.perform (u.harvest path items) d j).1.1) t ∧
      t.Mirrors (Sending.perform (u.harvest path items) d j).1.2 := by
  obtain ⟨hwatermark, hdelivery⟩ := h
  simp only [Uploader.harvest, Sending.perform_bind, Sending.perform_lift, hwatermark]
  cases hread : (Noting.perform (s.watermark.scan items) j).1 with
  | error f =>
      exact ⟨.empty, _, .single (.skip j hcall hfree hread) rfl, hwatermark, hdelivery⟩
  | ok found =>
      have hscan := Moved.single (.scan j hcall hfree hread) rfl
      have hpushed := pushAll_steps found.accepted hscan.self
      obtain ⟨j', hdeliver⟩ := Uploader.deliver_queued hdelivery path found.accepted d
        (Noting.perform (s.watermark.scan items) j).2
      simp only [Sending.perform_bind, hdeliver]
      refine ⟨found, ?_⟩
      change match s.queue.pushAll found.accepted with | (q, .ok left') => _ | (q, .error _) => _
        at hpushed
      rcases hall : s.queue.pushAll found.accepted with ⟨q, f | _ | ⟨e, rest⟩⟩ <;>
        rw [hall] at hpushed <;> obtain ⟨t, hmoved, hkept, -, rfl⟩ := hpushed
      · exact ⟨t, hscan.trans hmoved, hkept.symm, rfl⟩
      · have hsettle := Moved.single (.settle j hmoved.self) rfl
        refine ⟨_, (hscan.trans hmoved).trans hsettle, ?_, rfl⟩
        exact congrArg (Watermark.past · found) hkept.symm
      · exact ⟨t, hscan.trans hmoved, hkept.symm, rfl⟩

/-- A queueing uploader hands no flush out. -/
theorem harvest_ne_due {s : Relay σ} {u : Uploader σ} (h : s.Mirrors u) (path : String)
    (items : List (Except Fault Event)) (d : Desk) (j : Journal) (b : Buffer) :
    (Sending.perform (u.harvest path items) d j).1.1 ≠ .due b := by
  simp only [Uploader.harvest, Sending.perform_bind, Sending.perform_lift]
  cases (Noting.perform (u.watermark.scan items) j).1 with
  | error f => exact Harvested.noConfusion
  | ok found =>
      obtain ⟨j', hdeliver⟩ := Uploader.deliver_queued h.delivery path found.accepted d
        (Noting.perform (u.watermark.scan items) j).2
      simp only [Sending.perform_bind, hdeliver]
      rcases s.queue.pushAll found.accepted with ⟨q, f | _ | ⟨e, left⟩⟩ <;>
        exact Harvested.noConfusion

/-- **Handling a snapshot is a run of one call**, which ends returned, or waits for room with the
events it has yet to push. -/
theorem handleFile_steps {s : Relay σ} {u : Uploader σ} (h : s.Mirrors u) {i : Nat} {shelf : Shelf}
    {x : Snapshot} (hcall : s.calls i = .waiting (Uploader.itemsOf shelf x))
    (hfree : s.holder = none) (refuses : Desk → Option RemovalStep) (d : Desk) (j : Journal) :
    ∃ found t, Moved s i
        (afterHandling found (Sending.perform (u.handleFile shelf x refuses) d j).1.1) t ∧
      t.Mirrors (Sending.perform (u.handleFile shelf x refuses) d j).1.2.1 := by
  obtain ⟨found, t, hmoved, hmirrors⟩ := harvest_steps h hcall hfree (shelf.filePath x) d j
  have hnodue := harvest_ne_due h (shelf.filePath x) (Uploader.itemsOf shelf x) d j
  rcases hharvest : Sending.perform (u.harvest (shelf.filePath x) (Uploader.itemsOf shelf x)) d j
    with ⟨⟨harvested, u'⟩, d', j'⟩
  rw [hharvest] at hmoved hmirrors hnodue
  simp only [Uploader.handleFile, Sending.perform_bind, hharvest]
  refine ⟨found, t, ?_⟩
  cases harvested with
  | due b => exact absurd rfl (hnodue b)
  | waiting left => exact ⟨hmoved, hmirrors⟩
  | settled =>
      simp only [Sending.perform_bind, Sending.perform_get, Sending.perform_lift,
        Sending.perform_pure, afterHandling_cleanUp]
      exact ⟨hmoved, hmirrors⟩
  | failed f =>
      simp only [Sending.perform_bind, Sending.perform_get, Sending.perform_lift,
        Sending.perform_pure, afterHandling_cleanUp]
      exact ⟨hmoved, hmirrors⟩

/-! ## The consumer's looks -/

/-- Sending a flush if one is due is a step of the consumer. -/
theorem flushIfDue_steps {s : Relay σ} (hstage : s.stage = .flushing) (j : Journal) :
    ∃ t, Reachable s t ∧ t.calls = s.calls ∧
      t.consumer = (Sending.perform s.consumer.flushIfDue s.desk j).1 ∧
      t.desk = (Sending.perform s.consumer.flushIfDue s.desk j).2.1 ∧ t.stage = .heeding := by
  refine ⟨_, .single (.flush j hstage), rfl, ?_, rfl, rfl⟩
  have hqueue := s.consumer.queue_flushIfDue s.desk j
  show Consumer.mk s.consumer.queue _ = _
  rw [← hqueue]

/-- **A look of the consumer is a run** that no call takes part in. -/
theorem look_steps {s : Relay σ} (hstage : s.stage = .polling) (j : Journal) :
    ∃ t, Reachable s t ∧ t.calls = s.calls ∧
      t.consumer = (Sending.perform s.consumer.look s.desk j).1.2 ∧
      t.desk = (Sending.perform s.consumer.look s.desk j).2.1 ∧
      t.stage =
        if (Sending.perform s.consumer.look s.desk j).1.1 then .heeding else .windingUp := by
  have hqueue : s.consumer.queue = s.queue := rfl
  unfold Consumer.look
  rw [hqueue]
  rcases hpoll : s.queue.poll with ⟨e | _ | _, queue⟩
  · have htaken : Reachable s { s with stage := .holding e, queue := queue } :=
      .single (.take hstage hpoll)
    have hconverted := htaken.tail (.convert j rfl)
    obtain ⟨t, hflushed, hcalls, hconsumer, hdesk, hheeding⟩ :=
      flushIfDue_steps (s := { s with
        stage := .flushing, queue := queue,
        converter := (Noting.perform (s.converter.convert e) j).1,
        converted := s.converted ++ [e] }) rfl (Noting.perform (s.converter.convert e) j).2
    exact ⟨t, hconverted.trans hflushed, hcalls, hconsumer, hdesk, hheeding⟩
  · have hlooked : Reachable s { s with stage := .flushing, queue := queue } :=
      .single (.timeOut hstage hpoll)
    obtain ⟨t, hflushed, hcalls, hconsumer, hdesk, hheeding⟩ :=
      flushIfDue_steps (s := { s with stage := .flushing, queue := queue }) rfl j
    exact ⟨t, hlooked.trans hflushed, hcalls, hconsumer, hdesk, hheeding⟩
  · exact ⟨_, .single (.disconnect hstage hpoll), rfl, rfl, rfl, rfl⟩

end Relay
end RecordingHarvest
