import Mathlib.Data.List.Basic
import RecordingHarvest.Proofs.Watermark.Run
import RecordingHarvest.Proofs.Writing

/-!
# The watermark in closed form

Nothing sorts the events of a snapshot, so the watermark need not be the start of the newest event
passed on.  It is the latest of the starting value and the starts of the last events of all
snapshots that were read to their end, whatever else they held and whatever faults lay between
(`isLatest_pastAll`).

* `standing`: the filter and the journal after the first calls of a run.
* `standing_succ`: each call starts where the one before it left both.
* `filterAll_latest`: the watermark, what each call accepts and counts, and exactly which events are
  passed on twice.
-/

namespace RecordingHarvest

namespace Watermark

/-! ## The starts of last events -/

/-- The start of the last event of a snapshot that is read to its end and holds any. -/
def lastStart? (items : List (Except Fault Event)) : Option Instant :=
  match readAll items with
  | .ok events => events.getLast?.map (·.start)
  | .error _ => none

/-- The starts of the last events of the snapshots that are read to their end. -/
def lastStarts (snapshots : List (List (Except Fault Event))) : List Instant :=
  snapshots.filterMap lastStart?

/-- A call moves the watermark to the start of the last event, if there is one and it is later. -/
theorem outcome_at (w : Watermark) (items : List (Except Fault Event)) :
    (w.outcome items).2.at_ = (match lastStart? items with
      | some t => w.at_.latest t
      | none => w.at_) := by
  unfold outcome lastStart?
  cases readAll items with
  | error f => rfl
  | ok events =>
      simp only [past, scanEvents]
      cases events.getLast? <;> rfl

/-- **The watermark is the latest** of where it started and the starts of the last events. -/
theorem isLatest_pastAll (w : Watermark) (snapshots : List (List (Except Fault Event))) :
    (w.pastAll snapshots).at_.IsLatest (w.at_ :: lastStarts snapshots) := by
  induction snapshots generalizing w with
  | nil => exact Instant.isLatest_singleton w.at_
  | cons items rest ih =>
      have hrest := ih (w.outcome items).2
      rw [outcome_at] at hrest
      rw [pastAll, List.foldl_cons, ← pastAll, lastStarts, List.filterMap_cons, ← lastStarts]
      cases hlast : lastStart? items with
      | none => rw [hlast] at hrest; exact hrest
      | some t => rw [hlast] at hrest; exact hrest.of_latest

theorem pastAll_append (w : Watermark) (before after : List (List (Except Fault Event))) :
    w.pastAll (before ++ after) = (w.pastAll before).pastAll after := List.foldl_append

/-! ## One call and the journal -/

/-- A call on a snapshot that is not read to its end leaves all as it was. -/
theorem filterSnapshot_broken (w : Watermark) (before : List Event) (f : Fault)
    (after : List (Except Fault Event)) (j : Journal) :
    Noting.perform (w.filterSnapshot (before.map .ok ++ .error f :: after)) j =
      ((.error f, w), j) := by
  unfold filterSnapshot scan
  rw [readAll_broken]
  rfl

/-- A call on a snapshot that is read to its end counts what it dropped and what it accepted. -/
theorem filterSnapshot_counts (w : Watermark) (events : List Event) (j : Journal) :
    (Noting.perform (w.filterSnapshot (events.map .ok)) j).2.total .eventsDropped =
        j.total .eventsDropped + (w.scanEvents events).dropped ∧
      (Noting.perform (w.filterSnapshot (events.map .ok)) j).2.total .eventsForwarded =
        j.total .eventsForwarded + (w.scanEvents events).accepted.length := by
  obtain ⟨text, hjournal⟩ : ∃ text,
      (Noting.perform (w.filterSnapshot (events.map .ok)) j).2 =
        ((j.add (.line .debug text)).add (.count .eventsDropped (w.scanEvents events).dropped)).add
          (.count .eventsForwarded (w.scanEvents events).accepted.length) := by
    unfold filterSnapshot scan
    rw [readAll_ok]
    exact ⟨_, rfl⟩
  rw [hjournal]
  simp [Journal.total_add]

/-! ## A run, call by call -/

/-- The results of a run's calls. -/
def results (w : Watermark) (snapshots : List (List (Except Fault Event))) (j : Journal) :
    List (Except Fault Scan) := (Noting.perform (w.filterAll snapshots) j).1.1

/-- The filter and the journal after the first `n` calls of a run. -/
def standing (w : Watermark) (snapshots : List (List (Except Fault Event))) (j : Journal)
    (n : Nat) : Watermark × Journal :=
  ((Noting.perform (w.filterAll (snapshots.take n)) j).1.2,
    (Noting.perform (w.filterAll (snapshots.take n)) j).2)

theorem filterAll_append (w : Watermark) (before after : List (List (Except Fault Event)))
    (j : Journal) :
    Noting.perform (w.filterAll (before ++ after)) j =
      let first := Noting.perform (w.filterAll before) j
      let second := Noting.perform (first.1.2.filterAll after) first.2
      ((first.1.1 ++ second.1.1, second.1.2), second.2) := by
  induction before generalizing w j with
  | nil => rfl
  | cons items rest ih =>
      simp only [List.cons_append, filterAll, Noting.perform_bind, Noting.perform_pure, ih]

theorem length_results (w : Watermark) (snapshots : List (List (Except Fault Event)))
    (j : Journal) : (w.results snapshots j).length = snapshots.length := by
  induction snapshots generalizing w j with
  | nil => rfl
  | cons items rest ih => exact congrArg (· + 1) (ih _ _)

variable {w : Watermark} {snapshots : List (List (Except Fault Event))} {j : Journal}
  {n : Nat} {items : List (Except Fault Event)}

theorem standing_fst : (w.standing snapshots j n).1 = w.pastAll (snapshots.take n) :=
  (w.filterAll_value _ j).2

/-- **Each call starts where the one before it left off**: its result stands in its place among the
results, and what it leaves is what the next one finds. -/
theorem standing_succ (hn : snapshots[n]? = some items) :
    let before := w.standing snapshots j n
    let call := Noting.perform (before.1.filterSnapshot items) before.2
    (w.results snapshots j)[n]? = some call.1.1 ∧
      w.standing snapshots j (n + 1) = (call.1.2, call.2) := by
  obtain ⟨before, after, rfl, rfl⟩ : ∃ before after,
      snapshots = before ++ items :: after ∧ before.length = n := by
    obtain ⟨hlt, rfl⟩ := List.getElem?_eq_some_iff.1 hn
    refine ⟨snapshots.take n, snapshots.drop (n + 1), ?_, List.length_take_of_le (Nat.le_of_lt hlt)⟩
    rw [← List.drop_eq_getElem_cons hlt, List.take_append_drop]
  have htake : (before ++ items :: after).take before.length = before := List.take_left
  have htake' : (before ++ items :: after).take (before.length + 1) = before ++ [items] :=
    List.take_length_add_append 1
  have hlength : (Noting.perform (w.filterAll before) j).1.1.length = before.length :=
    length_results w before j
  simp only [standing, htake, htake']
  constructor
  · rw [results, filterAll_append]
    simp only
    rw [List.getElem?_append_right (Nat.le_of_eq hlength), hlength, Nat.sub_self]
    rfl
  · simp only [filterAll_append, filterAll, Noting.perform_bind, Noting.perform_pure]

/-! ## Events passed on twice -/

/-- What is later than the watermark after some more calls. -/
theorem standing_lt_iff {m : Nat} (hmn : m ≤ n) (t : Instant) :
    (w.standing snapshots j n).1.at_ < t ↔ (w.standing snapshots j m).1.at_ < t ∧
      ∀ u ∈ lastStarts ((snapshots.take n).drop m), u < t := by
  have hsplit : snapshots.take n = snapshots.take m ++ (snapshots.take n).drop m := by
    have h := List.take_append_drop m (snapshots.take n)
    rw [List.take_take, Nat.min_eq_left hmn] at h
    exact h.symm
  have hpast : w.pastAll (snapshots.take n) =
      (w.pastAll (snapshots.take m)).pastAll ((snapshots.take n).drop m) := by
    rw [← pastAll_append, ← hsplit]
  rw [standing_fst, standing_fst, hpast, (isLatest_pastAll _ _).lt_iff, List.forall_mem_cons]

/-- What a call on a snapshot that is read to its end gives. -/
theorem results_of_read {events : List Event} (hn : snapshots[n]? = some (events.map .ok)) :
    (w.results snapshots j)[n]? =
      some (.ok ((w.standing snapshots j n).1.scanEvents events)) := by
  rw [(standing_succ hn).1, filterSnapshot_value, outcome, readAll_ok]

theorem mem_accepted_iff {events : List Event} {s : Scan}
    (hn : snapshots[n]? = some (events.map .ok)) (hs : (w.results snapshots j)[n]? = some (.ok s))
    (e : Event) : e ∈ s.accepted ↔ e ∈ events ∧ (w.standing snapshots j n).1.at_ < e.start := by
  rw [results_of_read hn] at hs
  cases hs
  simp [scanEvents, List.mem_filter]

/-! ## The main result -/

/-- **The watermark in closed form.**  Over any run of a filter, on snapshots of any events in any
order, some of them with a fault in them:

* after each call the watermark is the latest of where it started and the starts of the last events
  of the snapshots read to their end so far, and no call moves it back;
* a call on a snapshot that is read to its end accepts, in their order, the events later than the
  watermark before it, drops all others, and counts both;
* a call on a snapshot with a fault gives that fault and changes neither filter nor journal;
* an event that one call accepted is accepted again from a later snapshot that holds it too exactly
  when it is later than the last event of every snapshot read from the first of the two on and
  before the second. -/
theorem filterAll_latest (w : Watermark) (snapshots : List (List (Except Fault Event)))
    (j : Journal) :
    (∀ n, (w.standing snapshots j n).1.at_.IsLatest (w.at_ :: lastStarts (snapshots.take n))) ∧
    (∀ m n, m ≤ n → (w.standing snapshots j m).1.at_ ≤ (w.standing snapshots j n).1.at_) ∧
    (∀ n (events : List Event), snapshots[n]? = some (events.map .ok) →
      ∃ s, (w.results snapshots j)[n]? = some (.ok s) ∧
        s.accepted = events.filter (fun e => (w.standing snapshots j n).1.at_ < e.start) ∧
        s.accepted.length + s.dropped = events.length ∧
        (w.standing snapshots j (n + 1)).2.total .eventsForwarded =
          (w.standing snapshots j n).2.total .eventsForwarded + s.accepted.length ∧
        (w.standing snapshots j (n + 1)).2.total .eventsDropped =
          (w.standing snapshots j n).2.total .eventsDropped + s.dropped) ∧
    (∀ n (before : List Event) f after, snapshots[n]? = some (before.map .ok ++ .error f :: after) →
      (w.results snapshots j)[n]? = some (.error f) ∧
        w.standing snapshots j (n + 1) = w.standing snapshots j n) ∧
    ∀ m n (first second : List Event) s s' e, m < n → snapshots[m]? = some (first.map .ok) →
      snapshots[n]? = some (second.map .ok) → (w.results snapshots j)[m]? = some (.ok s) →
      (w.results snapshots j)[n]? = some (.ok s') → e ∈ s.accepted → e ∈ second →
        (e ∈ s'.accepted ↔ ∀ t ∈ lastStarts ((snapshots.take n).drop m), t < e.start) := by
  refine ⟨?_, ?_, ?_, ?_, ?_⟩
  · intro n
    rw [standing_fst]
    exact w.isLatest_pastAll _
  · intro m n hmn hlt
    exact Instant.lt_irrefl _ ((standing_lt_iff hmn _).1 hlt).1
  · intro n events hn
    obtain ⟨-, hafter⟩ := standing_succ (w := w) (j := j) hn
    obtain ⟨hdropped, hforwarded⟩ := filterSnapshot_counts (w.standing snapshots j n).1 events
      (w.standing snapshots j n).2
    refine ⟨_, results_of_read hn, rfl, ?_, ?_, ?_⟩
    · simp only [scanEvents]
      exact (List.length_eq_length_filter_add _).symm
    · rw [hafter]
      exact hforwarded
    · rw [hafter]
      exact hdropped
  · intro n before f after hn
    obtain ⟨hresult, hafter⟩ := standing_succ (w := w) (j := j) hn
    rw [filterSnapshot_broken] at hresult hafter
    exact ⟨hresult, hafter⟩
  · intro m n first second s s' e hmn hm hn hs hs' he hmem
    have hbefore := ((mem_accepted_iff hm hs e).1 he).2
    rw [mem_accepted_iff hn hs', standing_lt_iff (Nat.le_of_lt hmn)]
    simp [hmem, hbefore]

/-- Two events, the newer one first. -/
def lateEarly : List Event := [Event.new "late" ⟨30, 0⟩, Event.new "early" ⟨20, 0⟩]

/-- The same two events twice, with a snapshot that breaks off in between. -/
def unsorted : List (List (Except Fault Event)) :=
  [lateEarly.map .ok, [.ok (Event.new "other" ⟨40, 0⟩), .error (.decodeFailed "line 2")],
    lateEarly.map .ok]

/-- The event that was newest is passed on twice: it is later than the last event read before. -/
theorem filterAll_latest_unsorted : ∃ s s',
    (initial.results unsorted Journal.empty)[0]? = some (.ok s) ∧
      (initial.results unsorted Journal.empty)[2]? = some (.ok s') ∧
      Event.new "late" ⟨30, 0⟩ ∈ s.accepted ∧ Event.new "late" ⟨30, 0⟩ ∈ s'.accepted := by
  obtain ⟨-, -, hread, -, htwice⟩ := filterAll_latest initial unsorted Journal.empty
  have hfirst : unsorted[0]? = some (lateEarly.map .ok) := rfl
  have hthird : unsorted[2]? = some (lateEarly.map .ok) := rfl
  obtain ⟨s, hs, haccepted, -⟩ := hread 0 lateEarly hfirst
  obtain ⟨s', hs', -⟩ := hread 2 lateEarly hthird
  have hmem : Event.new "late" ⟨30, 0⟩ ∈ s.accepted := by
    rw [haccepted]
    exact List.mem_filter.2 ⟨List.mem_cons_self, by decide⟩
  have hlasts : lastStarts ((unsorted.take 2).drop 0) = [⟨20, 0⟩] := rfl
  refine ⟨s, s', hs, hs', hmem, ?_⟩
  refine (htwice 0 2 lateEarly lateEarly s s' _ (by decide) hfirst hthird hs hs' hmem
    List.mem_cons_self).2 ?_
  rw [hlasts]
  intro t ht
  rw [List.mem_singleton.1 ht]
  decide

end Watermark
end RecordingHarvest
