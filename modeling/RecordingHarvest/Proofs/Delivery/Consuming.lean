import RecordingHarvest.Delivery.Consumer
import RecordingHarvest.Proofs.Conversion.Windows
import RecordingHarvest.Proofs.Delivery.Handover

/-!
# What a consumer of the queue sends

A consumer's events fall into two parts: those that were *flushed*, which have left with the window
that was closed behind them, and the *last* ones, whose records are buffered and whose counts are in
the open windows (`Consumer.Serves`).  Converting an event adds to the last ones; a flush makes all
of them flushed.

* `looks_serves`: the looks take events off the queue and serve each of them.
* `run_delivers`: when the consumer has ended, every record of a mapper was sent, and the summaries
  sent count exactly the events accepted up to the last flush.  Events that came later yielded no
  record; the windows they are in stay open.
* `final_window_unsent`: so the consumer can end with a summary that is never sent.
-/

namespace RecordingHarvest

open Conversion (Turn)

variable {σ : Type}

/-! ## What is taken off the queue -/

namespace Poll

/-- The event that a look takes off the queue, if any. -/
def taken {α : Type} : Poll α → List α
  | event e => [e]
  | empty | disconnected => []

/-- Whether there is anything to look for after a look. -/
def goesOn {α : Type} : Poll α → Bool
  | event _ | empty => true
  | disconnected => false

theorem taken_eq_nil {α : Type} {p : Poll α} (h : p.goesOn = false) : p.taken = [] := by
  cases p with
  | event e => exact nomatch h
  | empty => rfl
  | disconnected => rfl

end Poll

/-- The events a consumer takes off the queue, by its looks and when it winds up. -/
def Tide.takes (tide : Tide) : Nat → Nat → EventQueue Event → List Event
  | 0, _, _ => []
  | fuel + 1, n, q =>
    let q := tide.pushes n q
    if tide.stops n then q.queued
    else if q.poll.1.goesOn then q.poll.1.taken ++ tide.takes fuel (n + 1) q.poll.2
    else q.poll.2.queued

namespace Consumer

/-! ## Flushed events and the last ones -/

/-- A consumer at a desk that has sent what these turns produced and has converted these events
since. -/
structure Serves (c₀ : Conversion σ) (flushed : List Turn) (last : List Event) (d : Desk)
    (c : Consumer σ) : Prop where
  ended : flushed = [] ∨ ∃ ts now, flushed = ts ++ [.closed now]
  conversion : c.converter.conversion = (c₀.turns flushed).turns (last.map .converted)
  sent : Batch.load d.outbox.sent = c₀.production flushed
  buffered : c.converter.buffer = (c₀.turns flushed).production (last.map .converted)

namespace Serves

variable {c₀ : Conversion σ} {flushed : List Turn} {last : List Event} {d : Desk} {c : Consumer σ}

/-- Neither the queue nor the clock matters. -/
theorem elsewhere (h : Serves c₀ flushed last d c) {d' : Desk} (queue : EventQueue Event)
    (hsent : d'.outbox.sent = d.outbox.sent) :
    Serves c₀ flushed last d' { c with queue := queue } :=
  ⟨h.ended, h.conversion, by rw [hsent]; exact h.sent, h.buffered⟩

theorem convert (h : Serves c₀ flushed last d c) (e : Event) (j : Journal) :
    Serves c₀ flushed (last ++ [e]) d
      { c with converter := (Noting.perform (c.converter.convert e) j).1 } := by
  rw [Converter.convert_value]
  refine ⟨h.ended, ?_, h.sent, ?_⟩
  · rw [List.map_append, Conversion.turns_append, ← h.conversion]
    rfl
  · rw [List.map_append, List.map_singleton, Conversion.production_snoc, ← h.conversion,
      ← h.buffered]
    rfl

theorem convertAll (h : Serves c₀ flushed last d c) (es : List Event) (j : Journal) :
    Serves c₀ flushed (last ++ es) d
      { c with converter := (Noting.perform (c.converter.convertAll es) j).1 } := by
  induction es generalizing last c j with
  | nil => rw [List.append_nil]; exact h
  | cons e rest ih =>
      have hrest := ih (h.convert e j) (Noting.perform (c.converter.convert e) j).2
      rw [List.append_assoc] at hrest
      exact hrest

/-- **A flush leaves nothing behind**: what was converted since the last one is sent, with the
summaries of the window that it closes. -/
theorem flush (h : Serves c₀ flushed last d c) {now : Instant} {j : Journal} {b : Buffer}
    {converter : Converter σ} (htake : (Noting.perform (c.converter.take now) j).1 = (b, converter))
    (j' : Journal) :
    Serves c₀ (flushed ++ last.map .converted ++ [.closed now]) []
      (Sending.perform (Consumer.flush { c with converter := converter } b) d j').2.1
      (Sending.perform (Consumer.flush { c with converter := converter } b) d j').1 := by
  rw [Converter.take_value] at htake
  obtain ⟨rfl, rfl⟩ := Prod.mk.inj htake
  refine ⟨.inr ⟨_, now, rfl⟩, ?_, ?_, rfl⟩
  · rw [Conversion.turns_append, Conversion.turns_append, ← h.conversion]
    rfl
  · show Batch.load (Sending.perform (Desk.ship _) d j').2.1.outbox.sent = _
    rw [Desk.sent_ship, Batch.load_append, Buffer.load_batches, h.sent, Conversion.production_snoc,
      Conversion.production_append, Conversion.turns_append, ← h.conversion, ← h.buffered,
      Buffer.append_assoc]
    rfl

end Serves

/-! ## The looks -/

variable {c₀ : Conversion σ} {flushed : List Turn} {last : List Event} {d : Desk} {c : Consumer σ}

/-- A consumer serves some events, whatever part of them it has flushed. -/
def Served (c₀ : Conversion σ) (taken : List Event) (d : Desk) (c : Consumer σ) : Prop :=
  ∃ flushed last, Turn.events flushed ++ last = taken ∧ Serves c₀ flushed last d c

theorem events_flush (flushed : List Turn) (last : List Event) (now : Instant) :
    Turn.events (flushed ++ last.map .converted ++ [.closed now]) = Turn.events flushed ++ last := by
  simp

theorem served_flushIfDue {taken : List Event} (h : Served c₀ taken d c) (j : Journal) :
    Served c₀ taken (Sending.perform c.flushIfDue d j).2.1 (Sending.perform c.flushIfDue d j).1 ∧
      (Sending.perform c.flushIfDue d j).1.queue = c.queue := by
  obtain ⟨flushed, last, htaken, hserves⟩ := h
  simp only [flushIfDue, Sending.perform_bind, Sending.perform_get, Sending.perform_lift]
  rcases c.converter.takeIfReady_cases d.now j with hnone | ⟨-, hsome⟩
  · rw [hnone]
    exact ⟨⟨flushed, last, htaken, hserves⟩, rfl⟩
  · have htake : (Noting.perform (c.converter.take d.now) j).1 =
        ((Noting.perform (c.converter.take d.now) j).1.1,
          (Noting.perform (c.converter.take d.now) j).1.2) := rfl
    rw [hsome]
    refine ⟨⟨_, [], ?_, hserves.flush htake _⟩, rfl⟩
    rw [events_flush, htaken, List.append_nil]

/-- One look serves what it takes off the queue. -/
theorem served_look {taken : List Event} (h : Served c₀ taken d c) (j : Journal) :
    (Sending.perform c.look d j).1.1 = c.queue.poll.1.goesOn ∧
      (Sending.perform c.look d j).1.2.queue = c.queue.poll.2 ∧
      Served c₀ (taken ++ c.queue.poll.1.taken) (Sending.perform c.look d j).2.1
        (Sending.perform c.look d j).1.2 := by
  obtain ⟨flushed, last, htaken, hserves⟩ := h
  unfold look
  rcases c.queue.poll with ⟨e | _ | _, queue⟩
  · have hconverted : Served c₀ (taken ++ [e]) d
        ⟨queue, (Noting.perform (c.converter.convert e) j).1⟩ :=
      ⟨flushed, last ++ [e], by rw [← htaken, List.append_assoc],
        (hserves.convert e j).elsewhere queue rfl⟩
    obtain ⟨hserved, hqueue⟩ :=
      served_flushIfDue hconverted (Noting.perform (c.converter.convert e) j).2
    exact ⟨rfl, hqueue, hserved⟩
  · obtain ⟨hserved, hqueue⟩ :=
      served_flushIfDue ⟨flushed, last, htaken, hserves.elsewhere queue rfl⟩ j
    exact ⟨rfl, hqueue, (List.append_nil taken).symm ▸ hserved⟩
  · exact ⟨rfl, rfl, flushed, last, by rw [htaken]; exact (List.append_nil taken).symm,
      hserves.elsewhere queue rfl⟩

/-- **The looks serve what they take off the queue**; what is left there is what winding up finds. -/
theorem looks_serves {tide : Tide} {fuel n : Nat} {taken : List Event} {j : Journal}
    {c' : Consumer σ} (h : Served c₀ taken d c)
    (hlooks : (Sending.perform (looks tide fuel n c) d j).1 = some c') :
    ∃ taken', taken' ++ c'.queue.queued = taken ++ tide.takes fuel n c.queue ∧
      Served c₀ taken' (Sending.perform (looks tide fuel n c) d j).2.1 c' := by
  induction fuel generalizing n c d j taken with
  | zero => exact nomatch hlooks
  | succ fuel ih =>
      have hrisen : Served c₀ taken { d with now := tide.clock n d.now }
          { c with queue := tide.pushes n c.queue } := by
        obtain ⟨flushed, last, htaken, hserves⟩ := h
        exact ⟨flushed, last, htaken, hserves.elsewhere _ rfl⟩
      obtain ⟨hgoesOn, hqueue, hserved⟩ := served_look hrisen j
      simp only [looks, Sending.perform_bind, Sending.perform_modify] at hlooks ⊢
      rw [Tide.takes]
      by_cases hstops : tide.stops n = true
      · simp only [hstops, ↓reduceIte, Sending.perform_bind, Sending.perform_lift,
          Sending.perform_pure, Option.some.injEq] at hlooks ⊢
        subst hlooks
        exact ⟨taken, rfl, hrisen⟩
      · rcases hlook : Sending.perform (look { c with queue := tide.pushes n c.queue })
            { d with now := tide.clock n d.now } j with ⟨⟨more, next⟩, d', j'⟩
        rw [hlook] at hgoesOn hqueue hserved
        simp only [hstops, Bool.false_eq_true, ↓reduceIte, Sending.perform_bind, hlook] at hlooks ⊢
        cases more with
        | true =>
            obtain ⟨taken', htaken', hserved'⟩ := ih hserved hlooks
            refine ⟨taken', ?_, hserved'⟩
            rw [htaken', hqueue, ← hgoesOn, List.append_assoc]
            rfl
        | false =>
            obtain rfl := Option.some.inj hlooks
            refine ⟨_, ?_, hserved⟩
            rw [hqueue, ← hgoesOn, Poll.taken_eq_nil hgoesOn.symm, List.append_nil]
            rfl

/-! ## The whole run -/

/-- Events whose yields amount to nothing yield nothing each. -/
theorem yield_eq_empty {c₀ : Conversion σ} {last : List Event}
    (h : (c₀.production (last.map .converted)).size = 0) :
    ∀ e ∈ last, c₀.yield e = Buffer.empty := by
  induction last generalizing c₀ with
  | nil => exact fun e he => absurd he List.not_mem_nil
  | cons e rest ih =>
      have hsplit : (c₀.yield e).size +
          ((c₀.after e).production (rest.map .converted)).size = 0 := by
        rw [← Buffer.size_append]
        exact h
      obtain ⟨hhead, htail⟩ := Nat.add_eq_zero_iff.1 hsplit
      intro e' he'
      rcases List.mem_cons.1 he' with rfl | hmem
      · exact Buffer.eq_empty_of_size hhead
      · rw [← Conversion.yield_congr (c₀.registry_turn (.converted e)) e']
        exact ih htail e' hmem

/-- Winding up serves what is still queued.  The last flush goes by what is buffered, so only
events that yield nothing are left behind it. -/
theorem windUp_serves {taken : List Event} (h : Served c₀ taken d c) (j : Journal) :
    ∃ flushed last, Turn.events flushed ++ last = taken ++ c.queue.queued ∧
      Serves c₀ flushed last (Sending.perform c.windUp d j).2.1 (Sending.perform c.windUp d j).1 ∧
      ∀ e ∈ last, (c₀.turns flushed).yield e = Buffer.empty := by
  obtain ⟨flushed, last, htaken, hserves⟩ := h
  have hdrained : Serves c₀ flushed (last ++ c.queue.queued) d
      ⟨c.queue.drain.2, (Noting.perform (c.converter.convertAll c.queue.drain.1) j).1⟩ :=
    (hserves.convertAll c.queue.queued j).elsewhere c.queue.drain.2 rfl
  -- this is tested before the window is closed, so its summaries have no say in it
  by_cases hbuffered : (Noting.perform (c.converter.convertAll c.queue.drain.1) j).1.buffered = 0
  · simp only [windUp, Sending.perform_bind, Sending.perform_lift, hbuffered, ↓reduceIte]
    refine ⟨flushed, last ++ c.queue.queued, ?_, hdrained, yield_eq_empty ?_⟩
    · rw [← htaken, List.append_assoc]
    · rw [← hdrained.buffered]
      exact hbuffered
  · simp only [windUp, Sending.perform_bind, Sending.perform_lift, hbuffered, ↓reduceIte]
    refine ⟨flushed ++ (last ++ c.queue.queued).map .converted ++ [.closed d.now], [], ?_,
      Serves.flush hdrained rfl _, fun e he => absurd he List.not_mem_nil⟩
    rw [events_flush, ← htaken, List.append_nil, List.append_assoc]

/-- A consumer that has just started, at a desk that has sent nothing. -/
theorem serves_new {registry : Registry σ} {start : Instant} {schedule : FlushSchedule}
    (hsent : d.outbox.sent = []) (queue : EventQueue Event) :
    Serves (.new registry start) [] [] d ⟨queue, .new registry start schedule⟩ :=
  ⟨.inl rfl, rfl, by rw [hsent]; rfl, rfl⟩

/-- What the whole run serves is what the consumer took off the queue. -/
theorem run_serves {tide : Tide} {fuel : Nat} {j : Journal} {c' : Consumer σ}
    (h : Serves c₀ [] [] d c) (hrun : (Sending.perform (run tide fuel c) d j).1 = some c') :
    ∃ flushed last, Turn.events flushed ++ last = tide.takes fuel 0 c.queue ∧
      Serves c₀ flushed last (Sending.perform (run tide fuel c) d j).2.1 c' ∧
      ∀ e ∈ last, (c₀.turns flushed).yield e = Buffer.empty := by
  simp only [run, Sending.perform_bind, Sending.perform_lift] at hrun ⊢
  rcases hlooks : Sending.perform (looks tide fuel 0 c) d
    (Noting.perform (note .info "Queued consumer started") j).2 with ⟨_ | looked, d', j'⟩
  · rw [hlooks] at hrun
    exact nomatch hrun
  · have hserved := looks_serves (j := (Noting.perform (note .info "Queued consumer started") j).2)
      ⟨[], [], rfl, h⟩ (congrArg Prod.fst hlooks)
    simp only [hlooks, Sending.perform_bind, Sending.perform_lift, Sending.perform_pure,
      Option.some.injEq] at hrun hserved ⊢
    subst hrun
    obtain ⟨taken', htaken', hserved'⟩ := hserved
    obtain ⟨flushed, last, htaken, hserves, hlast⟩ := windUp_serves hserved' j'
    exact ⟨flushed, last, htaken.trans htaken', hserves, hlast⟩

/-- Behind a flush nothing is counted. -/
theorem openCount_ended {registry : Registry σ} {start : Instant} {flushed : List Turn} {k : Nat}
    {counted : σ → Nat} (hcounts : registry.Counts k counted)
    (hended : flushed = [] ∨ ∃ ts now, flushed = ts ++ [.closed now]) :
    Conversion.openCount counted ((Conversion.new registry start).turns flushed).windows k = 0 := by
  rcases hended with rfl | ⟨ts, now, rfl⟩
  · exact Conversion.openCount_new hcounts start
  · rw [Conversion.turns_append]
    refine Conversion.openCount_closed ?_ now
    rw [Conversion.registry_turns, Conversion.registry_new]
    exact hcounts

theorem flatMap_served {α : Type} {flushed : List Turn} {last takes : List Event}
    {give : Event → List α} (htakes : Turn.events flushed ++ last = takes)
    (hlast : ∀ e ∈ last, give e = []) : (Turn.events flushed).flatMap give = takes.flatMap give := by
  rw [← htakes, List.flatMap_append, List.flatMap_eq_nil_iff.2 hlast, List.append_nil]

/-- **What a consumer has sent when it ended.**  Of the events it took off the queue some last ones
may have come after the last flush.  These yielded no record, so every record of a mapper was sent,
once and in order; but what their windows count was not, and the summaries sent count all that was
accepted exactly if no summarizer accepted one of these. -/
theorem run_delivers {tide : Tide} {fuel : Nat} {queue : EventQueue Event} {registry : Registry σ}
    {start : Instant} {schedule : FlushSchedule} {d : Desk} {j : Journal} {c' : Consumer σ}
    (hfaithful : ∀ s ∈ registry.summarizers, s.Faithful) (hsent : d.outbox.sent = [])
    (hrun : (Sending.perform (run tide fuel ⟨queue, .new registry start schedule⟩) d j).1 =
      some c') :
    let c₀ := Conversion.new registry start
    let takes := tide.takes fuel 0 queue
    let sent := Batch.load
      (Sending.perform (run tide fuel ⟨queue, .new registry start schedule⟩) d j).2.1.outbox.sent
    ∃ flushed last,
      (flushed = [] ∨ ∃ ts now, flushed = ts ++ [.closed now]) ∧
      Turn.events flushed ++ last = takes ∧
      (∀ e ∈ last, c₀.yield e = Buffer.empty) ∧
      sent = c₀.production flushed ∧
      sent.events = takes.flatMap (fun e => (c₀.yield e).events) ∧
      (∀ mark, (∀ s ∈ registry.summarizers, s.Shuns mark) →
        sent.metrics.filter mark = takes.flatMap fun e => (c₀.yield e).metrics.filter mark) ∧
      ∀ k,
        (∀ mark, registry.Marks mark k → sent.metrics.filter mark = c₀.summariesOf flushed k) ∧
        Metric.countAll (c₀.summariesOf flushed k) = c₀.accepted flushed k ∧
        (Metric.countAll (c₀.summariesOf flushed k) =
            c₀.accepted (flushed ++ last.map .converted) k ↔
          (c₀.turns flushed).accepted (last.map .converted) k = 0) := by
  intro c₀ takes sent
  have hregistry : c₀.registry = registry := Conversion.registry_new registry start
  obtain ⟨flushed, last, htakes, hserves, hlast⟩ := run_serves (serves_new hsent queue) hrun
  have hyield : ∀ e, (c₀.turns flushed).yield e = c₀.yield e :=
    Conversion.yield_congr (c₀.registry_turns flushed)
  have hempty : ∀ e ∈ last, c₀.yield e = Buffer.empty := fun e he => hyield e ▸ hlast e he
  have hload : sent = c₀.production flushed := hserves.sent
  refine ⟨flushed, last, hserves.ended, htakes, hempty, hload, ?_, ?_, ?_⟩
  · rw [hload, Conversion.production_events]
    exact flatMap_served htakes (fun e he => by rw [hempty e he, Buffer.events_empty])
  · intro mark hshuns
    rw [hload, Conversion.production_filter (by rw [hregistry]; exact hshuns)]
    exact flatMap_served htakes
      (fun e he => by rw [hempty e he, Buffer.metrics_empty, List.filter_nil])
  · intro k
    have hcounted : Metric.countAll (c₀.summariesOf flushed k) = c₀.accepted flushed k := by
      obtain ⟨counted, hcounts⟩ := Registry.exists_counts hfaithful k
      have hcount := Conversion.countAll_summariesOf (c := c₀) (by rw [hregistry]; exact hcounts)
        flushed
      have hnew : Conversion.openCount counted c₀.windows k = 0 :=
        Conversion.openCount_new hcounts start
      have hflushed : Conversion.openCount counted (c₀.turns flushed).windows k = 0 :=
        openCount_ended hcounts hserves.ended
      omega
    refine ⟨?_, hcounted, ?_⟩
    · intro mark hmarks
      rw [hload]
      exact Conversion.production_filter_marks (by rw [hregistry]; exact hmarks) flushed
    · rw [hcounted, Conversion.accepted_append]
      omega

/-- One summarizer and nothing else. -/
def timing : Registry Aggregate := ⟨[], [], [.durations "t" "d"]⟩

/-- A desk whose transport takes everything. -/
def openDesk : Desk := ⟨⟨1000, 0⟩, Attributes.empty, ⟨fun _ _ => pure (.ok ()), .zero, []⟩⟩

/-- A queue with one event that no producer is left for. -/
def abandoned : EventQueue Event := ⟨8, [Event.new "t" ⟨1, 0⟩], 1, 0, 0, true⟩

/-- A consumer of that queue. -/
def timer : Consumer Aggregate := ⟨abandoned, .new timing ⟨1000, 0⟩ (.new (Span.ofSecs 60) 100)⟩

/-- Nothing happens around the consumer, and it is told to stop before the `n`-th look. -/
def still (n : Nat) : Tide := ⟨fun i => i == n, fun _ q => q, fun _ now => now⟩

theorem marks_timing : timing.Marks (fun _ => true) 0 where
  mappers m hm := absurd hm List.not_mem_nil
  own _ _ _ _ _ _ _ _ _ := rfl
  others i s hne hs := by
    cases i with
    | zero => exact absurd rfl hne
    | succ i => exact nomatch hs

theorem faithful_timing : ∀ s ∈ timing.summarizers, s.Faithful := by
  intro s hs
  obtain rfl := List.mem_singleton.1 hs
  exact ⟨_, Summarizer.ofValues_counts "t" "d" _⟩

/-- A consumer that ends because nobody pushes any more. -/
theorem run_delivers_timer :
    ∃ c', (Sending.perform (run (still 9) 9 timer) openDesk Journal.empty).1 = some c' ∧
      ∃ flushed last, Turn.events flushed ++ last = [Event.new "t" ⟨1, 0⟩] ∧
        Metric.countAll (Batch.load (Sending.perform (run (still 9) 9 timer) openDesk
          Journal.empty).2.1.outbox.sent).metrics =
        (Conversion.new timing ⟨1000, 0⟩).accepted flushed 0 := by
  obtain ⟨c', hrun⟩ : ∃ c',
      (Sending.perform (run (still 9) 9 timer) openDesk Journal.empty).1 = some c' := ⟨_, rfl⟩
  obtain ⟨flushed, last, -, htakes, -, -, -, -, hcounts⟩ :=
    run_delivers faithful_timing rfl hrun
  obtain ⟨hown, hcounted, -⟩ := hcounts 0
  have hsent := hown _ marks_timing
  rw [List.filter_eq_self.2 fun _ _ => rfl] at hsent
  refine ⟨c', hrun, flushed, last, htakes, ?_⟩
  rw [← hcounted, ← hsent]
  rfl

/-- **A last window that only summarizers fed is not sent**: the consumer stops, takes the event off
the queue, counts it, and has sent nothing when it ends. -/
theorem final_window_unsent :
    (∃ c', (Sending.perform (run (still 0) 1 timer) openDesk Journal.empty).1 = some c') ∧
      (still 0).takes 1 0 abandoned = [Event.new "t" ⟨1, 0⟩] ∧
      (Conversion.new timing ⟨1000, 0⟩).accepted [.converted (Event.new "t" ⟨1, 0⟩)] 0 = 1 ∧
      (Sending.perform (run (still 0) 1 timer) openDesk Journal.empty).2.1.outbox.sent = [] :=
  ⟨⟨_, rfl⟩, rfl, rfl, rfl⟩

end Consumer
end RecordingHarvest
