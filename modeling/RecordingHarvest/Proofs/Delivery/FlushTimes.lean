import Mathlib.Data.List.Induction
import RecordingHarvest.FlushSchedule
import RecordingHarvest.Proofs.Effects
import RecordingHarvest.Proofs.Time.Elapsed

/-!
# When flushes are due

A schedule is asked whether a flush is due, and told when one has happened, in any order and at any
readings of the clock (`FlushSchedule.Call`).  Its answers follow from the calls alone: what counts
is the report before the question that came last (`Call.lastReport`).

* `overdue_iff`: time alone makes a flush due when more than the span has passed since the last one,
  counted without bound.
* `serve_value`: what a run of calls answers and where it leaves the schedule.
* `serve_decides`: the answers of a run, and what deadlines it computes on the way.
-/

namespace RecordingHarvest
namespace FlushSchedule

variable {s : FlushSchedule}

/-! ## One question -/

/-- **Time alone makes a flush due** when more than the span has passed since the last one. -/
theorem overdue_iff (hlast : s.lastFlush.Ordinary) {now : Instant} (hnow : now.Ordinary) :
    s.overdue now = true ↔
      (s.maxElapsed.nanos : Int) < now.sinceEpoch - s.lastFlush.sinceEpoch := by
  rw [overdue, deadline?]
  cases hdeadline : s.lastFlush.add? s.maxElapsed with
  | none =>
      have hpast := (Instant.add?_eq_none_iff hlast).1 hdeadline now hnow
      simp only [Bool.false_eq_true, false_iff]
      omega
  | some deadline =>
      obtain ⟨hdeadline, hsum⟩ := Instant.sinceEpoch_add? hlast hdeadline
      rw [decide_eq_true_eq, Instant.lt_iff_sinceEpoch hdeadline hnow]
      omega

theorem isDue_eq (hlast : s.lastFlush.Ordinary) {now : Instant} (hnow : now.Ordinary)
    (buffered : Nat) :
    s.isDue now buffered = decide (s.threshold < buffered ∨
      (s.maxElapsed.nanos : Int) < now.sinceEpoch - s.lastFlush.sinceEpoch) := by
  rw [isDue, overfull, Bool.decide_or]
  congr 1
  exact Bool.eq_iff_iff.2 ((overdue_iff hlast hnow).trans decide_eq_true_iff.symm)

/-! ## Runs of calls -/

/-- One call of a schedule, with what the clock shows then. -/
inductive Call where
  /-- It is asked whether a flush is due. -/
  | asked (now : Instant) (buffered : Nat)
  /-- It is told that one has happened. -/
  | reported (now : Instant)

namespace Call

/-- What the clock shows at a call. -/
def now : Call → Instant
  | asked now _ | reported now => now

/-- The flush that a call reports. -/
def report? : Call → Option Instant
  | asked .. => none
  | reported now => some now

/-- When the last flush happened that some calls report: at the epoch, if they report none. -/
def lastReport (calls : List Call) : Instant :=
  (calls.filterMap report?).getLast?.getD .epoch

theorem lastReport_snoc (calls : List Call) (c : Call) :
    lastReport (calls ++ [c]) = c.report?.getD (lastReport calls) := by
  rw [lastReport, lastReport, List.filterMap_append]
  cases hreport : c.report? with
  | none => simp [hreport]
  | some now => simp [hreport]

/-- The clock shows nothing but ordinary instants at some calls, so their last report is one. -/
theorem ordinary_lastReport {calls : List Call} (h : ∀ c ∈ calls, c.now.Ordinary) :
    (lastReport calls).Ordinary := by
  rw [lastReport]
  cases hlast : (calls.filterMap report?).getLast? with
  | none => exact Instant.ordinary_epoch
  | some now =>
      obtain ⟨c, hc, hreport⟩ := List.mem_filterMap.1 (List.mem_of_getLast? hlast)
      cases c with
      | asked => exact nomatch hreport
      | reported now' =>
          obtain rfl := Option.some.inj hreport
          exact h _ hc

end Call

/-- Carries some calls out, one after another; gives the answers to the questions among them. -/
def serve (s : FlushSchedule) : List Call → Noting (List (Option Bool) × FlushSchedule)
  | [] => return ([], s)
  | .asked now buffered :: rest => do
    let due ← s.ready now buffered
    let (answers, s) ← s.serve rest
    return (some due :: answers, s)
  | .reported now :: rest => do
    let (answers, s) ← (s.flushed now).serve rest
    return (none :: answers, s)

/-- The schedule after a call. -/
def following (s : FlushSchedule) : Call → FlushSchedule
  | .asked .. => s
  | .reported now => s.flushed now

/-- The answer to a call, if it is a question. -/
def answer? (s : FlushSchedule) : Call → Option Bool
  | .asked now buffered => some (s.isDue now buffered)
  | .reported _ => none

/-- The answers to some calls. -/
def answers (s : FlushSchedule) : List Call → List (Option Bool)
  | [] => []
  | c :: rest => s.answer? c :: (s.following c).answers rest

theorem ready_value (s : FlushSchedule) (now : Instant) (buffered : Nat) (j : Journal) :
    (Noting.perform (s.ready now buffered) j).1 = s.isDue now buffered := by
  unfold ready
  split <;> rfl

/-- What a run of calls answers, and where it leaves the schedule, has nothing to do with the
journal. -/
theorem serve_value (s : FlushSchedule) (calls : List Call) (j : Journal) :
    (Noting.perform (s.serve calls) j).1 = (s.answers calls, calls.foldl following s) := by
  induction calls generalizing s j with
  | nil => rfl
  | cons c rest ih =>
      cases c with
      | asked now buffered =>
          simp only [serve, Noting.perform_bind, Noting.perform_pure, ih, ready_value]
          rfl
      | reported now =>
          simp only [serve, Noting.perform_bind, Noting.perform_pure, ih]
          rfl

theorem length_answers (s : FlushSchedule) (calls : List Call) :
    (s.answers calls).length = calls.length := by
  induction calls generalizing s with
  | nil => rfl
  | cons c rest ih => exact congrArg (· + 1) (ih (s.following c))

theorem answers_append (s : FlushSchedule) (before after : List Call) :
    s.answers (before ++ after) = s.answers before ++ (before.foldl following s).answers after := by
  induction before generalizing s with
  | nil => rfl
  | cons c rest ih => exact congrArg (s.answer? c :: ·) (ih (s.following c))

/-- A call is answered by the schedule that the calls before it leave. -/
theorem getElem?_answers (s : FlushSchedule) (before : List Call) (c : Call) (after : List Call) :
    (s.answers (before ++ c :: after))[before.length]? =
      some ((before.foldl following s).answer? c) := by
  rw [answers_append, ← length_answers s before, List.getElem?_append_right (Nat.le_refl _),
    Nat.sub_self]
  rfl

/-- A question changes no answer but its own. -/
theorem answers_without (s : FlushSchedule) (before : List Call) (now : Instant) (buffered : Nat)
    (after : List Call) :
    s.answers (before ++ after) =
      (s.answers (before ++ .asked now buffered :: after)).eraseIdx before.length := by
  rw [answers_append, answers_append, ← length_answers s before,
    List.eraseIdx_append_of_length_le (Nat.le_refl _), Nat.sub_self]
  rfl

/-- Only reports change a schedule, and only the time of its last flush. -/
theorem foldl_following (maxElapsed : Span) (threshold : Nat) (calls : List Call) :
    calls.foldl following (new maxElapsed threshold) =
      ⟨maxElapsed.orElse centuryOfDays, threshold, Call.lastReport calls⟩ := by
  induction calls using List.reverseRecOn with
  | nil => rfl
  | append_singleton calls c ih =>
      rw [List.foldl_append, ih, List.foldl_cons, List.foldl_nil, Call.lastReport_snoc]
      cases c <;> rfl

/-- **When flushes are due.**  A schedule with a span that instants can take is asked and told about
flushes in any order, at any ordinary readings of the clock, forward or backward:

* a question is answered with yes exactly if more is buffered than the threshold, or if more time
  than the span has passed, counted without bound, since the last flush that was reported;
* without the question all other answers are the same;
* at every moment the deadline is the time of the last flush and the span, counted without bound, and
  there is none exactly if this is later than every instant that is no leap second. -/
theorem serve_decides {maxElapsed : Span} (hspan : maxElapsed ≤ .longest) (threshold : Nat)
    {calls : List Call} (hclock : ∀ c ∈ calls, c.now.Ordinary) (j : Journal) :
    let run := fun calls => (Noting.perform ((new maxElapsed threshold).serve calls) j).1
    (∀ before now buffered after, calls = before ++ .asked now buffered :: after →
      (run calls).1[before.length]? = some (some (decide (threshold < buffered ∨
        (maxElapsed.nanos : Int) < now.sinceEpoch - (Call.lastReport before).sinceEpoch))) ∧
      (run (before ++ after)).1 = (run calls).1.eraseIdx before.length) ∧
    ∀ before after, calls = before ++ after →
      let sum := (Call.lastReport before).sinceEpoch + maxElapsed.nanos
      (∀ deadline, (run before).2.deadline? = some deadline →
        deadline.Ordinary ∧ deadline.sinceEpoch = sum) ∧
      ((run before).2.deadline? = none ↔ ∀ t : Instant, t.Ordinary → t.sinceEpoch < sum) := by
  have hschedule : ∀ before : List Call, before.foldl following (new maxElapsed threshold) =
      ⟨maxElapsed, threshold, Call.lastReport before⟩ := by
    intro before
    rw [foldl_following, Span.orElse, if_pos hspan]
  have hordinary : ∀ before after, calls = before ++ after → (Call.lastReport before).Ordinary := by
    rintro before after rfl
    exact Call.ordinary_lastReport fun c hc => hclock c (List.mem_append_left _ hc)
  intro run
  simp only [run, serve_value]
  refine ⟨?_, ?_⟩
  · rintro before now buffered after hcalls
    have hlast := hordinary before _ hcalls
    have hnow : now.Ordinary := hclock (.asked now buffered) (by simp [hcalls])
    refine ⟨?_, ?_⟩
    · rw [hcalls, getElem?_answers, hschedule, answer?, isDue_eq hlast hnow]
    · rw [hcalls]
      exact answers_without _ before now buffered after
  · intro before after hcalls
    have hlast := hordinary before after hcalls
    rw [hschedule]
    exact ⟨fun deadline hdeadline => Instant.sinceEpoch_add? hlast hdeadline,
      Instant.add?_eq_none_iff hlast⟩

/-- A clock that goes from the first instant to the last and back, with a flush at either end. -/
def endToEnd : List Call :=
  [.asked ⟨Instant.firstSecs, 0⟩ 100, .reported ⟨Instant.lastSecs, 999999999⟩,
    .asked ⟨Instant.lastSecs, 999999999⟩ 101, .asked ⟨Instant.firstSecs, 0⟩ 0,
    .reported ⟨Instant.firstSecs, 0⟩, .asked ⟨Instant.firstSecs + 10, 0⟩ 0,
    .asked ⟨Instant.firstSecs + 10, 1⟩ 0]

/-- Behind the last instant nothing but the threshold makes a flush due; before the epoch ten seconds
are not yet enough, and one nanosecond more is. -/
theorem serve_decides_endToEnd :
    let run := fun calls =>
      (Noting.perform ((new (.ofSecs 10) 100).serve calls) Journal.empty).1
    (run endToEnd).1[2]? = some (some true) ∧ (run (endToEnd.take 3)).2.deadline? = none ∧
      (run endToEnd).1[5]? = some (some false) ∧ (run endToEnd).1[6]? = some (some true) := by
  intro run
  have hspan : Span.ofSecs 10 ≤ .longest := by decide
  have hclock : ∀ c ∈ endToEnd, c.now.Ordinary := by decide
  obtain ⟨hanswers, hdeadlines⟩ := serve_decides hspan 100 hclock Journal.empty
  obtain ⟨hfull, -⟩ := hanswers (endToEnd.take 2) _ _ _ rfl
  obtain ⟨hten, -⟩ := hanswers (endToEnd.take 5) _ _ _ rfl
  obtain ⟨hmore, -⟩ := hanswers (endToEnd.take 6) _ _ _ rfl
  obtain ⟨-, hnone⟩ := hdeadlines (endToEnd.take 3) _ rfl
  refine ⟨hfull, hnone.2 fun t ht => ?_, hten, hmore⟩
  have hlast := ht.last
  have hnanos := ht.nanos
  have hreport : (Call.lastReport (endToEnd.take 3)).sinceEpoch =
      Instant.lastSecs * 1000000000 + 999999999 := rfl
  rw [hreport, Instant.sinceEpoch]
  have hten : ((Span.ofSecs 10).nanos : Int) = 10000000000 := rfl
  omega

end FlushSchedule
end RecordingHarvest
