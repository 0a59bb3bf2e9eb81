import RecordingHarvest.Proofs.Conversion.Windows
import RecordingHarvest.Proofs.Writing

/-!
# A failing capability spoils one event at most

Which capability of an event fails first decides how much of that event is converted, and nothing
about any other event.  `Mapper.fails` and `Summarizer.fails` say what a failure is: a test or an
application that rejects the event or panics.

* `applyAll_eq`: mappers give their records up to the first that fails.
* `getElem?_acceptAll`: a window takes an event in unless an earlier summarizer fails on it.
* `process_counts`: an event on which a capability fails is counted, once.
* `processed_isolated`: what some events add to the buffer, the windows, the counter and the tally.
-/

namespace RecordingHarvest

/-! ## Failures -/

namespace Mapper

variable {α : Type}

/-- The mapper fails on an event: its test does, or it handles the event and cannot convert it. -/
def fails (m : Mapper α) (e : Event) : Bool :=
  match m.handles e with
  | .rejected _ | .panicked _ => true
  | .ok false => false
  | .ok true =>
    match m.apply e with
    | .rejected _ | .panicked _ => true
    | .ok _ => false

/-- The records of an event that the mapper handles and can convert. -/
def outputs (m : Mapper α) (e : Event) : List α :=
  match m.handles e, m.apply e with
  | .ok true, .ok records => records
  | _, _ => []

/-- The records of an event, mapper after mapper, up to the first one that fails. -/
def outputsOf (mappers : List (Mapper α)) (e : Event) : List α :=
  (mappers.takeWhile fun m => !m.fails e).flatMap fun m => m.outputs e

theorem outputsOf_cons (m : Mapper α) (rest : List (Mapper α)) (e : Event) :
    outputsOf (m :: rest) e = if m.fails e then [] else m.outputs e ++ outputsOf rest e := by
  by_cases h : m.fails e <;> simp [outputsOf, h]

end Mapper

variable {σ : Type}

namespace Summarizer

/-- The summarizer's test passes on an event, with its window as it is. -/
def wants (s : Summarizer σ) (window : σ) (e : Event) : Bool :=
  match s.handles window e with
  | .ok handled => handled
  | .rejected _ | .panicked _ => false

/-- The summarizer fails on an event, with its window as it is. -/
def fails (s : Summarizer σ) (window : σ) (e : Event) : Bool :=
  match s.handles window e with
  | .rejected _ | .panicked _ => true
  | .ok false => false
  | .ok true =>
    match (s.accept window e).1 with
    | .rejected _ | .panicked _ => true
    | .ok () => false

end Summarizer

/-- What an event is converted to by these capabilities: the records of the metric mappers, and
those of the event mappers if no metric mapper fails. -/
def Registry.outputs (r : Registry σ) (e : Event) : Buffer :=
  ⟨Mapper.outputsOf r.metrics e,
    if r.metrics.any (·.fails e) then [] else Mapper.outputsOf r.events e⟩

namespace Conversion

open Applied (result)

variable {α : Type}

/-! ## One event -/

/-- **Mappers give their records up to the first that fails**, and its fault. -/
theorem applyAll_eq (e : Event) (mappers : List (Mapper α)) :
    (applyAll e mappers).1 = Mapper.outputsOf mappers e ∧
      (applyAll e mappers).2.isSome = mappers.any (·.fails e) := by
  induction mappers with
  | nil => exact ⟨rfl, rfl⟩
  | cons m rest ih =>
      obtain ⟨hrecords, hfault⟩ := ih
      rw [Mapper.outputsOf_cons, List.any_cons, applyAll]
      cases hhandles : m.handles e with
      | rejected f | panicked text =>
          have hfails : m.fails e = true := by simp [Mapper.fails, hhandles]
          simp [result, hfails]
      | ok handled =>
          cases handled with
          | false =>
              have hfails : m.fails e = false := by simp [Mapper.fails, hhandles]
              simp [result, hfails, hrecords, hfault, Mapper.outputs, hhandles]
          | true =>
              cases happly : m.apply e with
              | rejected f | panicked text =>
                  have hfails : m.fails e = true := by simp [Mapper.fails, hhandles, happly]
                  simp [result, hfails]
              | ok records =>
                  have hfails : m.fails e = false := by simp [Mapper.fails, hhandles, happly]
                  simp [result, hfails, hrecords, hfault, Mapper.outputs, hhandles, happly]

/-- An event is converted to what its mappers give. -/
theorem yield_eq (c : Conversion σ) (e : Event) : c.yield e = c.registry.outputs e := by
  obtain ⟨hmetrics, hfault⟩ := applyAll_eq e c.metrics
  obtain ⟨hevents, -⟩ := applyAll_eq e c.events
  simp only [yield, convert, registry, Registry.outputs, ← hmetrics, ← hfault, ← hevents]
  cases (applyAll e c.metrics).2 with
  | some f => rfl
  | none => cases (applyAll e c.events).2 <;> rfl

/-- **A window takes in an event that its summarizer wants**, unless a summarizer before fails. -/
theorem getElem?_acceptAll (e : Event) (windows : List (Summarizer σ × σ)) (k : Nat) :
    (acceptAll e windows).1[k]? = windows[k]?.map fun (s, window) =>
      (s, if s.wants window e && (windows.take k).all (fun z => !z.1.fails z.2 e) then
          (s.accept window e).2
        else window) := by
  induction windows generalizing k with
  | nil => rfl
  | cons z rest ih =>
      obtain ⟨s, window⟩ := z
      rw [acceptAll]
      cases hhandles : s.handles window e with
      | rejected f | panicked text =>
          have hfails : s.fails window e = true := by simp [Summarizer.fails, hhandles]
          cases k <;> simp [result, hfails, Summarizer.wants, hhandles]
      | ok handled =>
          cases handled with
          | false =>
              have hfails : s.fails window e = false := by simp [Summarizer.fails, hhandles]
              cases k with
              | zero => simp [result, Summarizer.wants, hhandles]
              | succ k =>
                  simp only [result, List.getElem?_cons_succ, List.take_succ_cons, List.all_cons,
                    hfails, Bool.not_false, Bool.true_and]
                  exact ih k
          | true =>
              simp only [result]
              cases haccept : (s.accept window e).1 with
              | rejected f | panicked text =>
                  have hfails : s.fails window e = true := by
                    simp [Summarizer.fails, hhandles, haccept]
                  cases k <;> simp [hfails, Summarizer.wants, hhandles]
              | ok _ =>
                  have hfails : s.fails window e = false := by
                    simp [Summarizer.fails, hhandles, haccept]
                  cases k with
                  | zero => simp [Summarizer.wants, hhandles]
                  | succ k =>
                      simp only [List.getElem?_cons_succ, List.take_succ_cons,
                        List.all_cons, hfails, Bool.not_false, Bool.true_and]
                      exact ih k

/-- Taking an event in ends with a fault exactly if a summarizer fails on it. -/
theorem isSome_acceptAll (e : Event) (windows : List (Summarizer σ × σ)) :
    (acceptAll e windows).2.isSome = windows.any fun z => z.1.fails z.2 e := by
  induction windows with
  | nil => rfl
  | cons z rest ih =>
      obtain ⟨s, window⟩ := z
      rw [acceptAll, List.any_cons, Summarizer.fails]
      cases s.handles window e with
      | rejected f | panicked text => simp [result]
      | ok handled =>
          cases handled with
          | false => simpa [result] using ih
          | true =>
              simp only [result]
              cases (s.accept window e).1 with
              | rejected f | panicked text => simp
              | ok _ => simpa using ih

/-- A capability fails on an event. -/
def failsOn (c : Conversion σ) (e : Event) : Bool :=
  c.metrics.any (·.fails e) || c.events.any (·.fails e) || c.windows.any fun z => z.1.fails z.2 e

theorem isSome_convert (c : Conversion σ) (e : Event) (b : Buffer) :
    (c.convert e b).2.2.isSome = c.failsOn e := by
  have hmetrics := (applyAll_eq e c.metrics).2
  have hevents := (applyAll_eq e c.events).2
  have hwindows := isSome_acceptAll e c.windows
  simp only [convert, failsOn, ← hmetrics, ← hevents, ← hwindows]
  cases (applyAll e c.metrics).2 with
  | some f => rfl
  | none => cases (applyAll e c.events).2 <;> rfl

/-- **An event on which a capability fails is counted**, once. -/
theorem process_counts (c : Conversion σ) (e : Event) (b : Buffer) (j : Journal) :
    (Noting.perform (c.process e b) j).2.total .conversionErrors =
      j.total .conversionErrors + (c.failsOn e).toNat := by
  have hfails : ((c.counted e).convert e b).2.2.isSome = c.failsOn e := isSome_convert _ e b
  unfold process
  rcases hconvert : (c.counted e).convert e b with ⟨c', b', fault⟩
  rw [hconvert] at hfails
  cases fault with
  | none =>
      rw [← hfails]
      rfl
  | some f =>
      have hjournal : ((j.add (.count .conversionErrors 1)).add
          (.line .warn (droppedLine e f))).total .conversionErrors =
            j.total .conversionErrors + 1 := by
        simp [Journal.total_add]
      rw [← hfails]
      exact hjournal

/-- A conversion's `k`-th summarizer is given an event: with its window as it is it wants the event,
and nothing before it fails. -/
def isGiven (c : Conversion σ) (e : Event) (s : Summarizer σ) (window : σ) (k : Nat) : Bool :=
  s.wants window e && (!c.metrics.any (·.fails e) && !c.events.any (·.fails e) &&
    (c.windows.take k).all fun z => !z.1.fails z.2 e)

/-- An event changes the windows of the summarizers that are given it, and no other. -/
theorem getElem?_windows_after (c : Conversion σ) (e : Event) (k : Nat) :
    (c.after e).windows[k]? = c.windows[k]?.map fun (s, window) =>
      (s, if c.isGiven e s window k then (s.accept window e).2 else window) := by
  have hmetrics := (applyAll_eq e c.metrics).2
  have hevents := (applyAll_eq e c.events).2
  simp only [windows_after, isGiven, ← hmetrics, ← hevents]
  cases (applyAll e c.metrics).2 with
  | some f => simp
  | none =>
      cases (applyAll e c.events).2 with
      | some f => simp
      | none => exact getElem?_acceptAll e c.windows k

/-! ## The tally -/

/-- The tally has an entry for each type among some events, which counts them. -/
def Tallies (c : Conversion σ) (es : List Event) : Prop :=
  ∀ type, c.tally.get? type =
    if es.countP (·.eventType == type) = 0 then none
    else some (es.countP (·.eventType == type))

theorem tallies_of_empty {c : Conversion σ} (h : c.tally = []) : c.Tallies [] := by
  intro type
  rw [h]
  rfl

theorem tally_after (c : Conversion σ) (e : Event) : (c.after e).tally = (c.counted e).tally := by
  simp only [after, convert]
  cases (applyAll e (c.counted e).metrics).2 with
  | some f => rfl
  | none => cases (applyAll e (c.counted e).events).2 <;> rfl

/-- One more event is counted under its type. -/
theorem Tallies.after {c : Conversion σ} {es : List Event} (h : c.Tallies es) (e : Event) :
    (c.after e).Tallies (es ++ [e]) := by
  intro type
  rw [tally_after, counted, List.countP_append, List.countP_singleton]
  by_cases htype : e.eventType = type
  · subst htype
    rw [Members.get?_put_self, h]
    by_cases hnone : es.countP (·.eventType == e.eventType) = 0 <;> simp [hnone]
  · rw [Members.get?_put_of_ne _ _ (Ne.symm htype), h]
    simp [htype]

/-! ## Runs -/

/-- The events converted since the last closing, with one more turn. -/
def Turn.sinceClosing (es : List Event) : Turn → List Event
  | .converted e => es ++ [e]
  | .closed _ => []

theorem tallies_turns {c : Conversion σ} {es : List Event} (h : c.Tallies es) (ts : List Turn) :
    (c.turns ts).Tallies (ts.foldl Turn.sinceClosing es) := by
  induction ts generalizing c es with
  | nil => exact h
  | cons t rest ih =>
      cases t with
      | converted e => exact ih (h.after e)
      | closed now => exact ih (tallies_of_empty rfl)

theorem foldl_sinceClosing_converted (es more : List Event) :
    (more.map Turn.converted).foldl Turn.sinceClosing es = es ++ more := by
  induction more generalizing es with
  | nil => exact (List.append_nil es).symm
  | cons e rest ih =>
      rw [List.map_cons, List.foldl_cons, ih, Turn.sinceClosing, List.append_assoc]
      rfl

/-- Takes some turns on a buffer, one after the other. -/
def takeTurns (c : Conversion σ) (b : Buffer) : List Turn → Noting (Conversion σ × Buffer)
  | [] => return (c, b)
  | .converted e :: rest => do
    let (c, b) ← c.process e b
    c.takeTurns b rest
  | .closed now :: rest => do
    let (c, b) ← c.finishCycle now b
    c.takeTurns b rest

theorem takeTurns_value (c : Conversion σ) (b : Buffer) (ts : List Turn) (j : Journal) :
    (Noting.perform (c.takeTurns b ts) j).1 = (c.turns ts, b ++ c.production ts) := by
  induction ts generalizing c b j with
  | nil => simp [takeTurns, turns, production]
  | cons t rest ih =>
      cases t with
      | converted e =>
          have hturn := c.process_value e b j
          simp only [takeTurns, Noting.perform_bind, hturn, ih, production, ← Buffer.append_assoc]
          rfl
      | closed now =>
          have hturn := c.finishCycle_value now b j
          simp only [takeTurns, Noting.perform_bind, hturn, ih, production, ← Buffer.append_assoc]
          rfl

/-- What the code leaves behind after converting some events: conversion, buffer and journal. -/
def processed (c : Conversion σ) (b : Buffer) (j : Journal) (es : List Event) :
    (Conversion σ × Buffer) × Journal := Noting.perform (c.takeTurns b (es.map .converted)) j

/-- The events on which a capability fails, each met with the windows that the events before it
left. -/
def failing (c : Conversion σ) : List Event → List Event
  | [] => []
  | e :: rest => (if c.failsOn e then [e] else []) ++ (c.after e).failing rest

theorem total_processed (c : Conversion σ) (b : Buffer) (es : List Event) (j : Journal) :
    (c.processed b j es).2.total .conversionErrors =
      j.total .conversionErrors + (c.failing es).length := by
  induction es generalizing c b j with
  | nil => rfl
  | cons e rest ih =>
      have hturn := c.process_value e b j
      have hcount := c.process_counts e b j
      have hrest := ih (c.after e) (b ++ c.yield e) (Noting.perform (c.process e b) j).2
      simp only [processed, List.map_cons, takeTurns, Noting.perform_bind, hturn, failing,
        List.length_append] at hrest ⊢
      rw [hrest, hcount]
      cases c.failsOn e <;> simp [Nat.add_assoc]

/-- Events are converted one by one to what the capabilities give. -/
theorem production_converted {c : Conversion σ} {r : Registry σ} (h : c.registry = r)
    (es : List Event) :
    c.production (es.map .converted) =
      ⟨es.flatMap fun e => (r.outputs e).metrics, es.flatMap fun e => (r.outputs e).events⟩ := by
  induction es generalizing c with
  | nil => rfl
  | cons e rest ih =>
      have hafter : (c.after e).registry = r := (c.registry_turn (.converted e)).trans h
      rw [List.map_cons, production, turn, ih hafter, gives, yield_eq, h]
      rfl

/-- **Faults stay with their event.**  A conversion that has any history of events and closings
behind it converts some events:

* the buffer keeps what it held, followed by what the capabilities give for each event, whatever
  they make of the others;
* a summarizer, whatever states it keeps, is given an event exactly when it wants it and no
  capability before it failed on it, and else is left alone;
* the counter of conversion errors rises by the number of events on which a capability fails;
* the tally counts the events of each type since the last closing. -/
theorem processed_isolated {r : Registry σ} {opening : Instant} {earlier : List Turn}
    {b₀ b : Buffer} {j₀ j : Journal} {c : Conversion σ}
    (hc : Noting.perform ((new r opening).takeTurns b₀ earlier) j₀ = ((c, b), j))
    (es : List Event) :
    (c.processed b j es).1.2 = b ++
      ⟨es.flatMap fun e => (r.outputs e).metrics, es.flatMap fun e => (r.outputs e).events⟩ ∧
    (∀ before e after, es = before ++ e :: after →
      let met := (c.processed b j before).1.1
      let left := (c.processed b j (before ++ [e])).1.1
      met.registry = r ∧ ∀ k, left.windows[k]? = met.windows[k]?.map fun (s, window) =>
        (s, if met.isGiven e s window k then (s.accept window e).2 else window)) ∧
    (c.processed b j es).2.total .conversionErrors =
      j.total .conversionErrors + (c.failing es).length ∧
    (c.processed b j es).1.1.Tallies (earlier.foldl Turn.sinceClosing [] ++ es) := by
  have hearlier := takeTurns_value (new r opening) b₀ earlier j₀
  rw [hc, Prod.mk.injEq] at hearlier
  obtain ⟨hturns, -⟩ := hearlier
  have hregistry : ∀ ts, (c.turns ts).registry = r := by
    intro ts
    rw [hturns, registry_turns, registry_turns, registry_new]
  have hprocessed : ∀ more, (c.processed b j more).1 =
      (c.turns (more.map .converted), b ++ c.production (more.map .converted)) := fun more =>
    takeTurns_value c b (more.map .converted) j
  refine ⟨?_, ?_, total_processed c b es j, ?_⟩
  · have hproduction := production_converted (hregistry []) es
    rw [hprocessed]
    exact congrArg (b ++ ·) hproduction
  · rintro before e after -
    simp only [hprocessed, List.map_append, turns_append]
    exact ⟨hregistry _, getElem?_windows_after _ e⟩
  · have htallies : c.Tallies (earlier.foldl Turn.sinceClosing []) := by
      rw [hturns]
      exact tallies_turns (tallies_of_empty rfl) earlier
    rw [hprocessed, ← foldl_sinceClosing_converted]
    exact tallies_turns htallies _

/-- Two mappers for metrics, of which the second panics on some events, one for telemetry events,
and a summarizer. -/
def touchy : Registry Aggregate where
  metrics := [⟨fun _ => .ok true, fun e => .ok [.gauge "seen" 1.0 e.start .empty]⟩,
    ⟨fun e => if e.eventType == "bad" then .panicked none else .ok false, fun _ => .ok []⟩]
  events := [⟨fun _ => .ok true, fun e => .ok [⟨"Seen", e.start, .empty⟩]⟩]
  summarizers := [.durations "good" "time"]

/-- A good event, a bad one and a good one. -/
def goodBadGood : List Event :=
  [Event.new "good" ⟨1, 0⟩, Event.new "bad" ⟨2, 0⟩, Event.new "good" ⟨3, 0⟩]

/-- The bad event keeps the gauge from before the panic and loses its telemetry event. -/
theorem processed_isolated_touchy :
    let done := (new touchy .epoch).processed Buffer.empty Journal.empty goodBadGood
    done.1.2.metrics.map Metric.name = ["seen", "seen", "seen"] ∧
      done.1.2.events.map (·.at_) = [⟨1, 0⟩, ⟨3, 0⟩] ∧
      done.2.total .conversionErrors = 1 ∧ done.1.1.tally.get? "bad" = some 1 := by
  intro done
  have hstart : Noting.perform ((new touchy .epoch).takeTurns Buffer.empty []) Journal.empty =
      ((new touchy .epoch, Buffer.empty), Journal.empty) := rfl
  obtain ⟨hbuffer, -, htotal, htally⟩ := processed_isolated hstart goodBadGood
  refine ⟨?_, ?_, htotal, htally "bad"⟩
  · rw [hbuffer]
    rfl
  · rw [hbuffer]
    rfl

end Conversion
end RecordingHarvest
