import RecordingHarvest.Proofs.Delivery.Interleaving
import RecordingHarvest.Proofs.Delivery.Relay

/-!
# What passes through a queue

The events of a relay stand in one row: those the consumer converted, the one it holds, those that
are queued.  A push adds to the end of the row, and every step of the consumer moves the borders in
it (`Relay.Conserves`).  Where the filter stands is the line of `Crew.Line`, with pushing in the
place of converting (`Relay.producers`).

* `conserves_of_reachable`, `line_of_reachable`: both hold in every order of the steps.
* `reaches_ended`: from every state the consumer can be brought to its end, since it makes room for
  a call that waits.
* `passed_once`: a consumer that ended converted exactly what the filter accepted, in order.
-/

namespace RecordingHarvest

open Conversion (Turn)
open Consumer (Stage)

variable {σ : Type}

/-! ## The queue -/

namespace EventQueue

variable {α : Type} {q q' : EventQueue α} {e : α}

/-- The counts of a queue agree with what it holds, which is not too much. -/
structure Counts (q : EventQueue α) : Prop where
  balance : q.pushed = q.popped + q.size
  bound : q.size ≤ q.capacity

theorem counts_new (capacity : Nat) : (new capacity : EventQueue α).Counts :=
  ⟨rfl, Nat.zero_le capacity⟩

/-- A push that goes in found the consumer there, and room. -/
theorem push_done (h : q.push e = .done q') :
    q.consumed = true ∧ q.size < q.capacity ∧
      q' = { q with queued := q.queued ++ [e], pushed := q.pushed + 1 } := by
  unfold push at h
  cases hconsumed : q.consumed with
  | false => rw [hconsumed] at h; exact nomatch h
  | true =>
      by_cases hroom : q.size < q.capacity
      · rw [hconsumed, if_neg (by decide), if_pos hroom] at h
        exact ⟨rfl, hroom, (Push.done.inj h).symm⟩
      · rw [hconsumed, if_neg (by decide), if_neg hroom] at h
        exact nomatch h

theorem push_of_room (hconsumed : q.consumed = true) (hroom : q.size < q.capacity) (e : α) :
    ∃ q', q.push e = .done q' := by
  unfold push
  rw [hconsumed, if_neg (by decide), if_pos hroom]
  exact ⟨_, rfl⟩

/-- An event that a poll gives was the oldest one queued. -/
theorem poll_event (h : q.poll = (.event e, q')) :
    ∃ rest, q.queued = e :: rest ∧ q' = { q with queued := rest, popped := q.popped + 1 } := by
  unfold poll at h
  cases hqueued : q.queued with
  | nil =>
      rw [hqueued] at h
      have hfirst := congrArg Prod.fst h
      dsimp only at hfirst
      split at hfirst <;> exact nomatch hfirst
  | cons x rest =>
      rw [hqueued] at h
      obtain ⟨hx, hq⟩ := Prod.mk.inj h
      obtain rfl := Poll.event.inj hx
      exact ⟨rest, rfl, hq.symm⟩

theorem poll_empty (h : q.poll = (.empty, q')) : q' = q := by
  unfold poll at h
  cases hqueued : q.queued with
  | nil => rw [hqueued] at h; exact (Prod.mk.inj h).2.symm
  | cons x rest => rw [hqueued] at h; exact nomatch h

/-- Only a queue without producers is disconnected. -/
theorem poll_disconnected (h : q.poll = (.disconnected, q')) : q' = q ∧ q.producers = 0 := by
  unfold poll at h
  cases hqueued : q.queued with
  | cons x rest => rw [hqueued] at h; exact nomatch h
  | nil =>
      rw [hqueued] at h
      obtain ⟨hgone, hq⟩ := Prod.mk.inj h
      by_cases hproducers : q.producers = 0
      · exact ⟨hq.symm, hproducers⟩
      · rw [if_neg hproducers] at hgone; exact nomatch hgone

namespace Counts

theorem push (h : q.Counts) (hpush : q.push e = .done q') : q'.Counts := by
  obtain ⟨-, hroom, rfl⟩ := push_done hpush
  obtain ⟨hbalance, -⟩ := h
  refine ⟨?_, ?_⟩ <;> simp only [size, List.length_append, List.length_singleton] at * <;> omega

theorem poll (h : q.Counts) (hpoll : q.poll = (.event e, q')) : q'.Counts := by
  obtain ⟨rest, hqueued, rfl⟩ := poll_event hpoll
  obtain ⟨hbalance, hbound⟩ := h
  refine ⟨?_, ?_⟩ <;> simp only [size, hqueued, List.length_cons] at * <;> omega

theorem drain (h : q.Counts) : q.drain.2.Counts := ⟨h.balance, Nat.zero_le _⟩

end Counts
end EventQueue

/-! ## The converter behind the queue -/

namespace Converter

/-- A converter that converted these events and closed its window now and then. -/
def Followed (c₀ : Conversion σ) (es : List Event) (c : Converter σ) : Prop :=
  ∃ book, Turn.events book = es ∧ c.conversion = c₀.turns book

variable {c₀ : Conversion σ} {es : List Event} {c : Converter σ}

theorem followed_new (registry : Registry σ) (start : Instant) (schedule : FlushSchedule) :
    Followed (.new registry start) [] (new registry start schedule) := ⟨[], rfl, rfl⟩

theorem Followed.convert (h : Followed c₀ es c) (e : Event) (j : Journal) :
    Followed c₀ (es ++ [e]) (Noting.perform (c.convert e) j).1 := by
  obtain ⟨book, hevents, hconversion⟩ := h
  refine ⟨book ++ [.converted e], by rw [Turn.events_append, hevents]; rfl, ?_⟩
  rw [convert_value, Conversion.turns_append, ← hconversion]
  rfl

theorem Followed.convertAll (h : Followed c₀ es c) (more : List Event) (j : Journal) :
    Followed c₀ (es ++ more) (Noting.perform (c.convertAll more) j).1 := by
  induction more generalizing es c j with
  | nil => rw [List.append_nil]; exact h
  | cons e rest ih =>
      have hrest := ih (h.convert e j) (Noting.perform (c.convert e) j).2
      rw [List.append_assoc] at hrest
      exact hrest

theorem Followed.take (h : Followed c₀ es c) (now : Instant) (j : Journal) :
    Followed c₀ es (Noting.perform (c.take now) j).1.2 := by
  obtain ⟨book, hevents, hconversion⟩ := h
  refine ⟨book ++ [.closed now], by rw [Turn.events_append, hevents]; exact List.append_nil es, ?_⟩
  rw [take_value, Conversion.turns_append, ← hconversion]
  rfl

end Converter

namespace Consumer

variable {c₀ : Conversion σ} {es : List Event} {c : Consumer σ}

open Converter (Followed)

/-- A flush closes the window at most. -/
theorem followed_flushIfDue (h : Followed c₀ es c.converter) (d : Desk) (j : Journal) :
    Followed c₀ es (Sending.perform c.flushIfDue d j).1.converter := by
  simp only [flushIfDue, Sending.perform_bind, Sending.perform_get, Sending.perform_lift]
  rcases c.converter.takeIfReady_cases d.now j with hnone | ⟨-, hsome⟩
  · rw [hnone]; exact h
  · rw [hsome]; exact h.take d.now j

/-- Winding up converts what is still queued and leaves nothing there. -/
theorem followed_windUp (h : Followed c₀ es c.converter) (d : Desk) (j : Journal) :
    Followed c₀ (es ++ c.queue.queued) (Sending.perform c.windUp d j).1.converter ∧
      (Sending.perform c.windUp d j).1.queue = c.queue.drain.2 := by
  have hdrained := h.convertAll c.queue.drain.1 j
  by_cases hbuffered : (Noting.perform (c.converter.convertAll c.queue.drain.1) j).1.buffered = 0
  · simp only [windUp, Sending.perform_bind, Sending.perform_lift, hbuffered, ↓reduceIte]
    exact ⟨hdrained, rfl⟩
  · simp only [windUp, Sending.perform_bind, Sending.perform_lift, hbuffered, ↓reduceIte]
    exact ⟨hdrained.take d.now _, rfl⟩

end Consumer

namespace Relay

variable {capacity : Nat} {c₀ : Conversion σ} {w : Watermark} {d : Desk}
variable {snapshots : List (List (Except Fault Event))} {s t : Relay σ} {i : Nat} {c : Call}

/-! ## The row of events -/

/-- The events of a relay stand in one row, and no call is left once the consumer can learn that
none is. -/
structure Conserves (capacity : Nat) (c₀ : Conversion σ) (s : Relay σ) : Prop where
  capacity : s.queue.capacity = capacity
  counts : s.queue.Counts
  row : s.passed = s.converted ++ s.stage.held ++ s.queue.queued
  followed : s.converter.Followed c₀ s.converted
  present : s.queue.consumed = false → s.stage = .ended
  quiet : s.stop = true ∨ s.queue.producers = 0 ∨ s.stage.isOver = true → s.Quiet
  drained : s.stage = .ended → s.queue.queued = []

namespace Conserves

/-- While a call is at work the consumer looks on. -/
theorem busy (h : Conserves capacity c₀ s) (hi : s.calls i ≠ .returned) :
    s.stop = false ∧ s.queue.producers ≠ 0 ∧ s.stage.isOver = false ∧ s.queue.consumed = true := by
  have hnot := fun hend => hi (h.quiet hend i)
  obtain ⟨hstop, hproducers, hover⟩ := (not_or.1 hnot).imp_right not_or.1
  rw [Bool.not_eq_true] at hstop hover
  refine ⟨hstop, hproducers, hover, ?_⟩
  cases hconsumed : s.queue.consumed with
  | true => rfl
  | false => rw [h.present hconsumed] at hover; exact nomatch hover

/-- A call at work that moves without the queue. -/
theorem moved (h : Conserves capacity c₀ s) (hi : s.calls i ≠ .returned)
    (hqueue : t.queue = s.queue) (hstage : t.stage = s.stage)
    (hconverter : t.converter = s.converter) (hstop : t.stop = s.stop)
    (hpassed : t.passed = s.passed) (hconverted : t.converted = s.converted) :
    Conserves capacity c₀ t where
  capacity := by rw [hqueue]; exact h.capacity
  counts := by rw [hqueue]; exact h.counts
  row := by rw [hpassed, hconverted, hstage, hqueue]; exact h.row
  followed := by rw [hconverter, hconverted]; exact h.followed
  present := by rw [hqueue, hstage]; exact h.present
  quiet hend := by
    rw [hstop, hqueue, hstage] at hend
    exact absurd (h.quiet hend i) hi
  drained := by rw [hstage, hqueue]; exact h.drained

/-- A push adds to the end of the row. -/
theorem push (h : Conserves capacity c₀ s) (hi : s.calls i ≠ .returned) {e : Event}
    {q : EventQueue Event} (hpush : s.queue.push e = .done q) :
    Conserves capacity c₀ { s.move i c with queue := q, passed := s.passed ++ [e] } := by
  obtain ⟨hstop, hproducers, hover, hconsumed⟩ := h.busy hi
  have hcounts := h.counts.push hpush
  obtain ⟨-, -, rfl⟩ := EventQueue.push_done hpush
  refine ⟨h.capacity, hcounts, ?_, h.followed, h.present, fun hend => ?_, fun hended => ?_⟩
  · show s.passed ++ [e] = s.converted ++ s.stage.held ++ (s.queue.queued ++ [e])
    rw [h.row, List.append_assoc]
  · exact absurd (h.quiet hend i) hi
  · rw [show s.stage = .ended from hended] at hover
    exact nomatch hover

/-- A stage that the consumer goes through while it looks at the queue. -/
theorem looking (h : Conserves capacity c₀ s) {stage : Stage} (hnext : stage.isOver = false)
    (hheld : stage.held = s.stage.held) (hlive : s.stage.isOver = false) :
    Conserves capacity c₀ { s with stage := stage } where
  capacity := h.capacity
  counts := h.counts
  row := by
    show s.passed = s.converted ++ stage.held ++ s.queue.queued
    rw [hheld]
    exact h.row
  followed := h.followed
  present hconsumed := by rw [h.present hconsumed] at hlive; exact nomatch hlive
  quiet hend := h.quiet (hend.imp_right (.imp_right fun hover =>
    absurd (hnext.symm.trans hover) Bool.false_ne_true))
  drained hended := by rw [show stage = .ended from hended] at hnext; exact nomatch hnext

/-- The consumer stops looking once no call is left. -/
theorem overlooking (h : Conserves capacity c₀ s) (hquiet : s.Quiet) (hheld : s.stage.held = [])
    (hlive : s.stage ≠ .ended) : Conserves capacity c₀ { s with stage := .windingUp } where
  capacity := h.capacity
  counts := h.counts
  row := by
    show s.passed = s.converted ++ [] ++ s.queue.queued
    rw [← hheld]
    exact h.row
  followed := h.followed
  present hconsumed := absurd (h.present hconsumed) hlive
  quiet _ := hquiet
  drained := nofun

/-- The consumer holds the event that it took off the queue. -/
theorem take (h : Conserves capacity c₀ s) (hstage : s.stage = .polling) {e : Event}
    {q : EventQueue Event} (hpoll : s.queue.poll = (.event e, q)) :
    Conserves capacity c₀ { s with stage := .holding e, queue := q } := by
  have hcounts := h.counts.poll hpoll
  obtain ⟨rest, hqueued, rfl⟩ := EventQueue.poll_event hpoll
  refine ⟨h.capacity, hcounts, ?_, h.followed, fun hconsumed => ?_, fun hend => ?_, nofun⟩
  · show s.passed = s.converted ++ [e] ++ rest
    rw [h.row, hstage, hqueued, Stage.held, List.append_nil, List.append_assoc]
    rfl
  · rw [h.present hconsumed] at hstage; exact nomatch hstage
  · exact h.quiet (hend.imp_right (.imp_right nofun))

/-- The event held is converted. -/
theorem convert (h : Conserves capacity c₀ s) {e : Event} (hstage : s.stage = .holding e)
    (j : Journal) :
    Conserves capacity c₀ { s with
      stage := .flushing, converter := (Noting.perform (s.converter.convert e) j).1,
      converted := s.converted ++ [e] } where
  capacity := h.capacity
  counts := h.counts
  row := by
    show s.passed = s.converted ++ [e] ++ [] ++ s.queue.queued
    rw [h.row, hstage, List.append_nil]
    rfl
  followed := h.followed.convert e j
  present hconsumed := by rw [h.present hconsumed] at hstage; exact nomatch hstage
  quiet hend := h.quiet (hend.imp_right (.imp_right nofun))
  drained := nofun

theorem flush (h : Conserves capacity c₀ s) (hstage : s.stage = .flushing) (j : Journal) :
    Conserves capacity c₀ { s with
      stage := .heeding, converter := (Sending.perform s.consumer.flushIfDue s.desk j).1.converter,
      desk := (Sending.perform s.consumer.flushIfDue s.desk j).2.1 } where
  capacity := h.capacity
  counts := h.counts
  row := by
    show s.passed = s.converted ++ [] ++ s.queue.queued
    rw [h.row, hstage]
    rfl
  followed := Consumer.followed_flushIfDue h.followed s.desk j
  present hconsumed := by rw [h.present hconsumed] at hstage; exact nomatch hstage
  quiet hend := h.quiet (hend.imp_right (.imp_right nofun))
  drained := nofun

/-- What is still queued is converted at the end, and nothing comes after it. -/
theorem windUp (h : Conserves capacity c₀ s) (hstage : s.stage = .windingUp) (j : Journal) :
    Conserves capacity c₀ { s with
      stage := .ended, queue := (Sending.perform s.consumer.windUp s.desk j).1.queue,
      converter := (Sending.perform s.consumer.windUp s.desk j).1.converter,
      desk := (Sending.perform s.consumer.windUp s.desk j).2.1,
      converted := s.converted ++ s.queue.drain.1 } := by
  obtain ⟨hfollowed, hqueue⟩ := Consumer.followed_windUp (c := s.consumer) h.followed s.desk j
  rw [hqueue]
  refine ⟨h.capacity, h.counts.drain, ?_, hfollowed, fun _ => rfl, fun _ => ?_, fun _ => rfl⟩
  · show s.passed = s.converted ++ s.queue.queued ++ [] ++ []
    rw [h.row, hstage, Stage.held, List.append_nil, List.append_nil, List.append_nil]
  · exact h.quiet (.inr (.inr (by rw [hstage]; rfl)))

/-- **Every step keeps the row of events.** -/
theorem step (h : Conserves capacity c₀ s) (hstep : Step s t) : Conserves capacity c₀ t := by
  cases hstep with
  | scan j hcall => exact h.moved (by rw [hcall]; nofun) rfl rfl rfl rfl rfl rfl
  | skip j hcall => exact h.moved (by rw [hcall]; nofun) rfl rfl rfl rfl rfl rfl
  | push hcall hpush => exact h.push (by rw [hcall]; nofun) hpush
  | refuse hcall => exact h.moved (by rw [hcall]; nofun) rfl rfl rfl rfl rfl rfl
  | settle j hcall => exact h.moved (by rw [hcall]; nofun) rfl rfl rfl rfl rfl rfl
  | goOn hstage hstop => exact h.looking rfl (by rw [hstage]; rfl) (by rw [hstage]; rfl)
  | heed hstage hstop =>
      exact h.overlooking (h.quiet (.inl hstop)) (by rw [hstage]; rfl) (by rw [hstage]; nofun)
  | take hstage hpoll => exact h.take hstage hpoll
  | timeOut hstage hpoll =>
      obtain rfl := EventQueue.poll_empty hpoll
      exact h.looking rfl (by rw [hstage]; rfl) (by rw [hstage]; rfl)
  | disconnect hstage hpoll =>
      obtain ⟨rfl, hproducers⟩ := EventQueue.poll_disconnected hpoll
      exact h.overlooking (h.quiet (.inr (.inl hproducers))) (by rw [hstage]; rfl)
        (by rw [hstage]; nofun)
  | convert j hstage => exact h.convert hstage j
  | flush j hstage => exact h.flush hstage j
  | windUp j hstage => exact h.windUp hstage j
  | leave hstage =>
      exact ⟨h.capacity, ⟨h.counts.balance, h.counts.bound⟩, h.row, h.followed, fun _ => hstage,
        h.quiet, h.drained⟩
  | stop hquiet =>
      exact ⟨h.capacity, h.counts, h.row, h.followed, h.present, fun _ => hquiet, h.drained⟩
  | depart hquiet =>
      exact ⟨h.capacity, ⟨h.counts.balance, h.counts.bound⟩, h.row, h.followed, h.present,
        fun _ => hquiet, h.drained⟩
  | tick now =>
      exact ⟨h.capacity, h.counts, h.row, h.followed, h.present, h.quiet, h.drained⟩
  | relabel common =>
      exact ⟨h.capacity, h.counts, h.row, h.followed, h.present, h.quiet, h.drained⟩

end Conserves

theorem opening_calls (capacity : Nat) (c : Converter σ) (w : Watermark) (d : Desk)
    (snapshots : List (List (Except Fault Event))) (k : Nat) :
    (∃ items, snapshots[k]? = some items ∧
        (opening capacity c w d snapshots).calls k = .waiting items) ∨
      snapshots.length ≤ k ∧ (opening capacity c w d snapshots).calls k = .returned := by
  simp only [opening]
  cases hget : snapshots[k]? with
  | some items => exact .inl ⟨items, rfl, rfl⟩
  | none => exact .inr ⟨List.getElem?_eq_none_iff.1 hget, rfl⟩

theorem conserves_of_reachable {registry : Registry σ} {start : Instant} {schedule : FlushSchedule}
    (h : Reachable (opening capacity (.new registry start schedule) w d snapshots) s) :
    Conserves capacity (.new registry start) s := by
  induction h with
  | refl =>
      refine ⟨rfl, EventQueue.counts_new capacity, rfl,
        Converter.followed_new registry start schedule, nofun, ?_, nofun⟩
      rintro (hstop | hproducers | hover)
      · exact nomatch hstop
      · exact nomatch hproducers
      · exact nomatch hover
  | tail _ hstep ih => exact ih.step hstep

/-! ## The line at the filter -/

/-- The calls of a relay as a crew, with what was pushed in the place of what was converted. -/
def producers (s : Relay σ) : Crew σ :=
  ⟨s.watermark, s.converter, s.desk, s.calls, s.holder, s.order, s.passed.map .converted⟩

/-- The snapshots in the order in which the calls took the filter. -/
def harvested (s : Relay σ) (snapshots : List (List (Except Fault Event))) :
    List (List (Except Fault Event)) :=
  s.producers.harvested snapshots

theorem line_push (h : Crew.Line w snapshots s.producers) {found : Scan} {e : Event}
    {left : List Event} {q : EventQueue Event}
    (hcall : s.calls i = .converting found (e :: left)) :
    Crew.Line w snapshots { s.move i (.converting found left) with
      queue := q, passed := s.passed ++ [e] }.producers := by
  have hpushed := h.convert s.converter hcall
  have hbook : (s.passed ++ [e]).map Turn.converted = s.producers.book ++ [.converted e] :=
    List.map_append
  rw [← hbook] at hpushed
  exact hpushed

/-- The holder that has pushed all it found moves the filter on and lets go of it. -/
theorem line_settle (h : Crew.Line w snapshots s.producers) {found : Scan} (j : Journal)
    (hcall : s.calls i = .converting found []) :
    Crew.Line w snapshots { s.move i .returned with
      watermark := (Noting.perform (s.watermark.advance found) j).1,
      holder := none }.producers := by
  have hheld : Crew.Line w snapshots (s.producers.move i (.settling found none)) :=
    h.of_eq (Crew.move_eq Call.atFilter
      (congrArg Call.atFilter hcall.symm : _ = (s.calls i).atFilter)) rfl rfl rfl rfl
  refine (hheld.settle j (Crew.calls_move_self ..)).of_eq (fun k => ?_) rfl rfl rfl rfl
  show ((s.move i .returned).calls k).atFilter =
    (((s.producers.move i (.settling found none)).move i .returned).calls k).atFilter
  by_cases hk : k = i
  · subst hk
    rw [calls_move_self, Crew.calls_move_self]
  · rw [calls_move_of_ne s _ hk, Crew.calls_move_of_ne _ _ hk, Crew.calls_move_of_ne _ _ hk]
    rfl

/-- **Every step keeps the line at the filter.** -/
theorem line_step (h : Crew.Line w snapshots s.producers) (hconserves : Conserves capacity c₀ s)
    (hstep : Step s t) : Crew.Line w snapshots t.producers := by
  cases hstep with
  | scan j hcall hfree hread => exact h.scan j hcall hfree hread
  | skip j hcall hfree hread => exact h.skip j hcall hfree hread
  | push hcall hpush => exact line_push h hcall
  | refuse hcall hpush =>
      -- the consumer is there as long as a call is at work
      obtain ⟨-, -, -, hconsumed⟩ := hconserves.busy (by rw [hcall]; nofun)
      exact absurd ((EventQueue.push_eq_closed_iff.1 hpush).symm.trans hconsumed) Bool.false_ne_true
  | settle j hcall => exact line_settle h j hcall
  | goOn | heed | take | timeOut | disconnect | leave | stop | depart => exact h
  | convert | flush | windUp | tick | relabel =>
      exact h.of_eq (fun _ => rfl) rfl rfl rfl rfl

theorem line_opening (capacity : Nat) (c : Converter σ) (w : Watermark) (d : Desk)
    (snapshots : List (List (Except Fault Event))) :
    Crew.Line w snapshots (opening capacity c w d snapshots).producers := by
  have hcrew : Crew.Line w snapshots (Crew.opening c w d snapshots) :=
    Crew.line_of_reachable .refl
  refine hcrew.of_eq (fun k => ?_) rfl rfl rfl rfl
  show ((opening capacity c w d snapshots).calls k).atFilter =
    ((Crew.opening c w d snapshots).calls k).atFilter
  simp only [opening, Crew.opening]
  cases snapshots[k]? with
  | some items => rfl
  | none =>
      -- the crew's last call knows as little of the filter as one that has returned
      by_cases hlast : k = snapshots.length
      · simp only [hlast, ↓reduceIte]; rfl
      · simp only [hlast, ↓reduceIte]

variable {registry : Registry σ} {start : Instant} {schedule : FlushSchedule}

theorem line_of_reachable
    (h : Reachable (opening capacity (.new registry start schedule) w d snapshots) s) :
    Crew.Line w snapshots s.producers := by
  induction h with
  | refl => exact line_opening capacity _ w d snapshots
  | tail hreach hstep ih => exact line_step ih (conserves_of_reachable hreach) hstep

/-! ## Nothing gets stuck -/

/-- A stage that a call with a queue can be at. -/
def isQueueing : Call → Bool
  | .waiting _ | .converting .. | .returned => true
  | .settling .. | .shipping _ | .shippingEvents _ | .marking | .closing => false

/-- A step moves at most one call, and none that has returned. -/
theorem Step.calls (hstep : Step s t) :
    t.calls = s.calls ∨
      ∃ i c, s.calls i ≠ .returned ∧ isQueueing c = true ∧ t.calls = (s.move i c).calls := by
  cases hstep with
  | scan j hcall | skip j hcall | push hcall | refuse hcall | settle j hcall =>
      exact .inr ⟨_, _, by rw [hcall]; nofun, rfl, rfl⟩
  | goOn | heed | take | timeOut | disconnect | convert | flush | windUp | leave | stop | depart
  | tick | relabel => exact .inl rfl

/-- A call that returned moves no more. -/
theorem returned_of_reachable (h : Reachable s t) (hi : s.calls i = .returned) :
    t.calls i = .returned := by
  induction h with
  | refl => exact hi
  | tail _ hstep ih =>
      rcases hstep.calls with hsame | ⟨k, c, hk, -, hmoved⟩
      · rw [hsame]; exact ih
      · rw [hmoved, calls_move_of_ne _ c (by rintro rfl; exact hk ih)]
        exact ih

theorem isQueueing_of_reachable {c : Converter σ}
    (h : Reachable (opening capacity c w d snapshots) s) (k : Nat) :
    isQueueing (s.calls k) = true := by
  induction h with
  | refl =>
      rcases opening_calls capacity c w d snapshots k with ⟨items, -, hk⟩ | ⟨-, hk⟩ <;> rw [hk] <;>
        rfl
  | @tail s t _ hstep ih =>
      rcases hstep.calls with hsame | ⟨i, c, -, hc, hmoved⟩
      · rw [hsame]; exact ih
      · rw [hmoved]
        by_cases hki : k = i
        · subst hki; rw [calls_move_self]; exact hc
        · rw [calls_move_of_ne s c hki]; exact ih

theorem Conserves.run (h : Conserves capacity c₀ s) (hrun : Reachable s t) :
    Conserves capacity c₀ t := by
  induction hrun with
  | refl => exact h
  | tail _ hstep ih => exact ih.step hstep

/-- A consumer that has taken its look heeds its stop handle again. -/
theorem reaches_heeding (hstage : s.stage = .flushing ∨ ∃ e, s.stage = .holding e) :
    ∃ t, Reachable s t ∧ t.calls = s.calls ∧ t.queue = s.queue ∧ t.stop = s.stop ∧
      t.stage = .heeding := by
  rcases hstage with hflushing | ⟨e, hholding⟩
  · exact ⟨_, .single (.flush .empty hflushing), rfl, rfl, rfl, rfl⟩
  · have hconverted := Relation.ReflTransGen.single (Step.convert .empty hholding)
    exact ⟨_, hconverted.tail (.flush .empty rfl), rfl, rfl, rfl, rfl⟩

/-- A consumer that looks on comes to its next poll. -/
theorem reaches_polling (hlive : s.stage.isOver = false) (hstop : s.stop = false) :
    ∃ t, Reachable s t ∧ t.calls = s.calls ∧ t.queue = s.queue ∧ t.stage = .polling := by
  have hlater : (s.stage = .flushing ∨ ∃ e, s.stage = .holding e) →
      ∃ t, Reachable s t ∧ t.calls = s.calls ∧ t.queue = s.queue ∧ t.stage = .polling := by
    intro hstage
    obtain ⟨t, hrun, hcalls, hqueue, hkept, hheeding⟩ := reaches_heeding hstage
    exact ⟨_, hrun.tail (.goOn hheeding (hkept.trans hstop)), hcalls, hqueue, rfl⟩
  cases hstage : s.stage with
  | heeding => exact ⟨_, .single (.goOn hstage hstop), rfl, rfl, rfl⟩
  | polling => exact ⟨s, .refl, rfl, rfl, hstage⟩
  | holding e => exact hlater (.inr ⟨e, hstage⟩)
  | flushing => exact hlater (.inl hstage)
  | windingUp => rw [hstage] at hlive; exact nomatch hlive
  | ended => rw [hstage] at hlive; exact nomatch hlive

/-- **The consumer makes room** for a call that waits. -/
theorem reaches_room (hcapacity : 0 < capacity) (h : Conserves capacity c₀ s)
    (hi : s.calls i ≠ .returned) :
    ∃ t, Reachable s t ∧ t.calls = s.calls ∧ t.queue.size < t.queue.capacity := by
  obtain ⟨hstop, -, hlive, -⟩ := h.busy hi
  by_cases hroom : s.queue.size < s.queue.capacity
  · exact ⟨s, .refl, rfl, hroom⟩
  · obtain ⟨t, hrun, hcalls, hqueue, hstage⟩ := reaches_polling hlive hstop
    have hcap := h.capacity
    have hbound := h.counts.bound
    cases hqueued : s.queue.queued with
    | nil => rw [EventQueue.size, hqueued, List.length_nil] at hroom; omega
    | cons e rest =>
        have hpoll : t.queue.poll =
            (.event e, { t.queue with queued := rest, popped := t.queue.popped + 1 }) := by
          rw [EventQueue.poll, hqueue, hqueued]
        refine ⟨_, hrun.tail (.take hstage hpoll), hcalls, ?_⟩
        rw [EventQueue.size, hqueued, List.length_cons] at hbound
        show rest.length < t.queue.capacity
        rw [hqueue]
        omega

/-- A call that holds the filter returns once it has pushed what it found. -/
theorem pusher_returns (hcapacity : 0 < capacity) {found : Scan} (left : List Event)
    (h : Conserves capacity c₀ s) (hcall : s.calls i = .converting found left) :
    ∃ t, Moved s i .returned t ∧ t.holder = none := by
  induction left generalizing s with
  | nil => exact ⟨_, .single (.settle .empty hcall) rfl, rfl⟩
  | cons e rest ih =>
      obtain ⟨t, hrun, hcalls, hroom⟩ := reaches_room hcapacity h (by rw [hcall]; nofun)
      have hkept : t.calls i = .converting found (e :: rest) := by rw [hcalls]; exact hcall
      have ht := h.run hrun
      obtain ⟨-, -, -, hconsumed⟩ := ht.busy (by rw [hkept]; nofun)
      obtain ⟨q, hpush⟩ := EventQueue.push_of_room hconsumed hroom e
      have hpushed := Moved.single (.push hkept hpush) rfl
      obtain ⟨u, hmoved, hholder⟩ := ih (ht.run hpushed.reachable) hpushed.self
      have hwaited : Moved s i (.converting found (e :: rest)) t :=
        ⟨hrun, hkept, fun k _ => by rw [hcalls]⟩
      exact ⟨u, (hwaited.trans hpushed).trans hmoved, hholder⟩

/-- The filter comes free, and calls that wait for it still wait. -/
theorem filter_comes_free (hcapacity : 0 < capacity)
    (h : Reachable (opening capacity (.new registry start schedule) w d snapshots) s)
    {items : List (Except Fault Event)} (hcall : s.calls i = .waiting items) :
    ∃ t, Reachable s t ∧ t.calls i = .waiting items ∧ t.holder = none := by
  cases hholder : s.holder with
  | none => exact ⟨s, .refl, hcall, hholder⟩
  | some k =>
      have hfound := ((line_of_reachable h).held k).1 hholder
      have hqueueing := isQueueing_of_reachable h k
      change (s.calls k).found?.isSome = true at hfound
      cases hk : s.calls k with
      | converting found left =>
          obtain ⟨t, hmoved, hfree⟩ :=
            pusher_returns hcapacity left (conserves_of_reachable h) hk
          have hne : i ≠ k := by rintro rfl; exact nomatch hcall.symm.trans hk
          exact ⟨t, hmoved.reachable, (hmoved.others i hne).trans hcall, hfree⟩
      | waiting _ | returned => rw [hk] at hfound; exact nomatch hfound
      | settling _ _ | shipping _ | shippingEvents _ | marking | closing =>
          rw [hk] at hqueueing; exact nomatch hqueueing

/-- Every call can be brought to return. -/
theorem call_returns (hcapacity : 0 < capacity)
    (h : Reachable (opening capacity (.new registry start schedule) w d snapshots) s) (i : Nat) :
    ∃ t, Reachable s t ∧ t.calls i = .returned := by
  have hqueueing := isQueueing_of_reachable h i
  cases hcall : s.calls i with
  | returned => exact ⟨s, .refl, hcall⟩
  | converting found left =>
      obtain ⟨t, hmoved, -⟩ := pusher_returns hcapacity left (conserves_of_reachable h) hcall
      exact ⟨t, hmoved.reachable, hmoved.self⟩
  | waiting items =>
      obtain ⟨t, hrun, hwaits, hfree⟩ := filter_comes_free hcapacity h hcall
      cases hread : (Noting.perform (t.watermark.scan items) .empty).1 with
      | error f => exact ⟨_, hrun.tail (.skip .empty hwaits hfree hread), calls_move_self ..⟩
      | ok found =>
          have hscan := Moved.single (.scan .empty hwaits hfree hread) rfl
          have hscanned := hrun.trans hscan.reachable
          obtain ⟨u, hmoved, -⟩ := pusher_returns hcapacity found.accepted
            (conserves_of_reachable (h.trans hscanned)) hscan.self
          exact ⟨u, hscanned.trans hmoved.reachable, hmoved.self⟩
  | settling _ _ | shipping _ | shippingEvents _ | marking | closing =>
      rw [hcall] at hqueueing; exact nomatch hqueueing

/-- All calls can be brought to return, one after the other. -/
theorem reaches_quiet (hcapacity : 0 < capacity)
    (h : Reachable (opening capacity (.new registry start schedule) w d snapshots) s) :
    ∃ t, Reachable s t ∧ t.Quiet := by
  have hfirst : ∀ n, ∃ t, Reachable s t ∧ ∀ k, k < n → t.calls k = .returned := by
    intro n
    induction n with
    | zero => exact ⟨s, .refl, fun k hk => absurd hk (Nat.not_lt_zero k)⟩
    | succ n ih =>
        obtain ⟨t, hrun, hreturned⟩ := ih
        obtain ⟨u, hrun', hn⟩ := call_returns hcapacity (h.trans hrun) n
        refine ⟨u, hrun.trans hrun', fun k hk => ?_⟩
        rcases Nat.lt_succ_iff_lt_or_eq.1 hk with hlt | rfl
        · exact returned_of_reachable hrun' (hreturned k hlt)
        · exact hn
  obtain ⟨t, hrun, hreturned⟩ := hfirst snapshots.length
  refine ⟨t, hrun, fun k => ?_⟩
  by_cases hk : k < snapshots.length
  · exact hreturned k hk
  · rcases opening_calls capacity (.new registry start schedule) w d snapshots k with
      ⟨items, hget, -⟩ | ⟨-, hopening⟩
    · exact absurd (List.getElem?_eq_some_iff.1 hget).1 hk
    · exact returned_of_reachable (h.trans hrun) hopening

/-- A consumer that is told to stop comes to its end. -/
theorem reaches_ended (hstop : s.stop = true) : ∃ t, Reachable s t ∧ t.stage = .ended := by
  have hlater : ∀ {t : Relay σ}, Reachable s t → t.stop = true →
      (t.stage = .flushing ∨ ∃ e, t.stage = .holding e) →
        ∃ u, Reachable s u ∧ u.stage = .ended := by
    intro t hrun hstop hstage
    obtain ⟨u, hback, -, -, hkept, hheeding⟩ := reaches_heeding hstage
    have hheeded := (hrun.trans hback).tail (.heed hheeding (hkept.trans hstop))
    exact ⟨_, hheeded.tail (.windUp .empty rfl), rfl⟩
  cases hstage : s.stage with
  | heeding =>
      have hheeded := Relation.ReflTransGen.single (Step.heed hstage hstop)
      exact ⟨_, hheeded.tail (.windUp .empty rfl), rfl⟩
  | holding e => exact hlater .refl hstop (.inr ⟨e, hstage⟩)
  | flushing => exact hlater .refl hstop (.inl hstage)
  | windingUp => exact ⟨_, .single (.windUp .empty hstage), rfl⟩
  | ended => exact ⟨s, .refl, hstage⟩
  | polling =>
      rcases hpoll : s.queue.poll with ⟨e | _ | _, q⟩
      · exact hlater (.single (.take hstage hpoll)) hstop (.inr ⟨e, rfl⟩)
      · exact hlater (.single (.timeOut hstage hpoll)) hstop (.inl rfl)
      · have hgone := Relation.ReflTransGen.single (Step.disconnect hstage hpoll)
        exact ⟨_, hgone.tail (.windUp .empty rfl), rfl⟩

/-! ## Whole runs -/

/-- **Queued delivery passes every accepted event on once and in order.**  However the calls push,
wait and settle and the consumer polls, times out and flushes: the counts of the queue agree and it
holds no more than its capacity; what the consumer converted is the beginning of what the filter
accepted, snapshot by snapshot in the order in which the calls took it; and a consumer that has
ended converted all of it.  No state is stuck: the consumer can always be brought to its end. -/
theorem passed_once (hcapacity : 0 < capacity)
    (h : Reachable (opening capacity (.new registry start schedule) w d snapshots) s) :
    s.queue.pushed = s.queue.popped + s.queue.size ∧ s.queue.size ≤ capacity ∧
    s.converter.Followed (.new registry start) s.converted ∧
    s.converted <+: w.acceptedFrom (s.harvested snapshots) ∧
    (s.stage = .ended → s.order.Perm (List.range snapshots.length) ∧
      s.converted = w.acceptedFrom (s.harvested snapshots)) ∧
    ∃ t, Reachable s t ∧ t.stage = .ended := by
  have hconserves := conserves_of_reachable h
  have hline := line_of_reachable h
  have hbook : Turn.events s.producers.book = s.passed := Turn.events_converted s.passed
  have hpassed : s.passed <+: w.acceptedFrom (s.harvested snapshots) := by
    cases hholder : s.holder with
    | none =>
        have hfree := (hline.free hholder).2
        rw [hbook] at hfree
        rw [hfree]
        exact List.prefix_refl _
    | some k =>
        obtain ⟨found, hfound⟩ := Option.isSome_iff_exists.1 ((hline.held k).1 hholder)
        have htaken := (hline.taken k found hfound).2
        rw [hbook] at htaken
        exact ⟨_, htaken⟩
  refine ⟨hconserves.counts.balance, hconserves.capacity ▸ hconserves.counts.bound,
    hconserves.followed, ?_, fun hended => ?_, ?_⟩
  · refine List.IsPrefix.trans ?_ hpassed
    rw [hconserves.row, List.append_assoc]
    exact List.prefix_append ..
  · have hquiet : s.Quiet := hconserves.quiet (.inr (.inr (by rw [hended]; rfl)))
    have hfree : s.holder = none := Option.eq_none_iff_forall_ne_some.2 fun k hk =>
      nomatch (congrArg (Option.isSome ∘ Call.found?) (hquiet k)).symm.trans ((hline.held k).1 hk)
    refine ⟨(List.perm_ext_iff_of_nodup hline.nodup List.nodup_range).2 fun k => ?_, ?_⟩
    · refine (hline.ordered k).trans (Iff.trans ?_ List.mem_range.symm)
      exact and_iff_left (congrArg Call.items? (hquiet k))
    · have hrow := hconserves.row
      rw [hended, hconserves.drained hended, Stage.held, List.append_nil, List.append_nil] at hrow
      rw [← hrow, ← hbook]
      exact (hline.free hfree).2
  · obtain ⟨t, hrun, hquiet⟩ := reaches_quiet hcapacity h
    have hstopped := hrun.tail (.stop hquiet)
    obtain ⟨u, hrun', hended⟩ := reaches_ended (s := { t with stop := true }) rfl
    exact ⟨u, hstopped.trans hrun', hended⟩

/-- Two snapshots that share an event, and one between them that breaks off. -/
def interrupted : List (List (Except Fault Event)) :=
  [[.ok (Event.new "first" ⟨10, 0⟩)],
    [.ok (Event.new "lost" ⟨12, 0⟩), .error (.decodeFailed "cut short")],
    [.ok (Event.new "first" ⟨10, 0⟩), .ok (Event.new "second" ⟨11, 0⟩)]]

/-- The last snapshot is harvested before the broken one, and waits until the consumer has taken the
only event that the queue has room for. -/
theorem interrupted_run :
    ∃ s, Reachable (opening 1 (.new Crew.echoing Instant.epoch Crew.eager) Watermark.initial
        Crew.reluctant interrupted) s ∧
      s.stage = .ended ∧ s.order = [0, 2, 1] := by
  let j := Journal.empty
  have ready : Reachable (opening 1 (.new Crew.echoing Instant.epoch Crew.eager) Watermark.initial
    Crew.reluctant interrupted) _ := .refl
  have filled := ((ready.tail (.scan (i := 0) j rfl rfl rfl)).tail
    (.push (i := 0) rfl rfl)).tail (.settle (i := 0) j rfl)
  have taken := ((filled.tail (.scan (i := 2) j rfl rfl rfl)).tail (.goOn rfl rfl)).tail
    (.take rfl rfl)
  have refilled := (taken.tail (.push (i := 2) rfl rfl)).tail (.settle (i := 2) j rfl)
  have looked := (refilled.tail (.convert j rfl)).tail (.flush j rfl)
  have skipped := looked.tail (.skip (i := 1) j rfl rfl rfl)
  have stopped := skipped.tail (.stop (by
    intro k
    match k with
    | 0 | 1 | 2 => rfl
    | _ + 3 => rfl))
  exact ⟨_, (stopped.tail (.heed rfl rfl)).tail (.windUp j rfl), rfl, rfl⟩

/-- Both events that the whole snapshots hold are converted, each of them once. -/
theorem passed_once_interrupted :
    0 < 1 ∧ ∃ s, Reachable (opening 1 (.new Crew.echoing Instant.epoch Crew.eager)
        Watermark.initial Crew.reluctant interrupted) s ∧
      s.stage = .ended ∧ s.queue.pushed = s.queue.popped + s.queue.size ∧ s.queue.size ≤ 1 ∧
      s.converted.map (·.eventType) = ["first", "second"] := by
  obtain ⟨s, hrun, hended, horder⟩ := interrupted_run
  obtain ⟨hbalance, hbound, -, -, hconverted, -⟩ := passed_once Nat.one_pos hrun
  obtain ⟨-, hall⟩ := hconverted hended
  refine ⟨Nat.one_pos, s, hrun, hended, hbalance, hbound, ?_⟩
  rw [hall, harvested, Crew.harvested, show s.producers.order = [0, 2, 1] from horder]
  rfl

end Relay
end RecordingHarvest
