import RecordingHarvest.Proofs.Retry.Schedule
import RecordingHarvest.Proofs.Site.Traces
import RecordingHarvest.Proofs.Writing

/-!
# The course of a retry loop

A retry loop is a course of attempts (`Retry.Course`): each one but the last ends in a fault that may
be retried, for which the schedule has a wait left, and is followed by that wait; the last one decides
what the loop returns, or the world's patience runs out before it.

* `run_course`: every retry loop takes such a course, whatever its attempts do.
* `Course.unroll`: the course of attempts with given outcomes.
* `run_invokes`: how often a bounded loop invokes its operation, how it sleeps, what it returns.
-/

namespace RecordingHarvest

/-- Deeds that only tell that shutdown was asked for. -/
def OnlyStops (deeds : List Deed) : Prop := ∀ d ∈ deeds, d = .stopped

namespace Run

variable {w : World} {s : Site}

/-- A look finds at most that shutdown was asked for. -/
theorem looks_of_finds {α : Type} {x : Run α} {a : α}
    (h : x.perform w s = (.ok a, s) ∨ x.perform w s = (.ok a, s.asked)) :
    ∃ t looks, x.perform w s = (.ok a, t) ∧ t.history = s.history ++ looks ∧ OnlyStops looks ∧
      t.journal = s.journal := by
  rcases h with h | h
  · exact ⟨s, [], h, (List.append_nil _).symm, nofun, rfl⟩
  · exact ⟨s.asked, [.stopped], h, s.history_did .stopped, fun d hd => List.mem_singleton.1 hd, rfl⟩

/-- A sleep before a retry is noted, and whether shutdown was asked for in it. -/
theorem perform_pause (wait : Span) (w : World) (s : Site) :
    ∃ t looks, (pause wait).perform w s = (.ok (), t) ∧
      t.history = s.history ++ .paused wait :: looks ∧ OnlyStops looks ∧ t.journal = s.journal := by
  obtain ⟨signal, hlisten⟩ := listen_finds w { s.did (.paused wait) with now := s.now.advance wait }
  obtain ⟨t, looks, hperform, hhistory, hlooks, hjournal⟩ := looks_of_finds hlisten
  refine ⟨t, looks, ?_, ?_, hlooks, hjournal⟩
  · have hpause : (pause wait).perform w s =
        (listen >>= fun _ => pure ()).perform w
          { s.did (.paused wait) with now := s.now.advance wait } := rfl
    rw [hpause, perform_bind, hperform]
    rfl
  · rw [hhistory]
    show (s.did (.paused wait)).history ++ looks = _
    rw [Site.history_did, List.append_assoc]
    rfl

end Run

namespace BackoffPolicy

variable {p : BackoffPolicy} {m n : Nat}

theorem counted_of_retries (h : p.retries = some m) (hm : m ≤ tryLimit) : p.Counted := by
  intro n hn
  obtain rfl : m = n := Option.some.inj (h.symm.trans hn)
  exact hm

theorem grants_of_retries (h : p.retries = some m) (k : Nat) : p.grants k = decide (k < m) := by
  rw [grants, h]

/-- A bounded policy grants no more waits than its bound. -/
theorem le_of_grants (h : p.retries = some m) (hgrants : ∀ k < n, p.grants k = true) : n ≤ m := by
  refine Nat.le_of_not_lt fun hlt => ?_
  have hlate := hgrants m hlt
  rw [grants_of_retries h, decide_eq_true_eq] at hlate
  exact Nat.lt_irrefl m hlate

end BackoffPolicy

namespace Retry

open Backoff (given)
open Run (passed)

variable {α : Type} {w : World} {name : String} {p : BackoffPolicy} {chance : Span → Span}
  {A : Nat → Except Halt α → List Deed → Prop} {op : Nat → Run α}

/-- How retrying ends behind its last attempt: with that outcome, unless it may be retried. -/
def conclusion (name : String) (attempts : Nat) : Except Halt α → Except Halt α
  | .ok a => .ok a
  | .error (.fault f) =>
    .error (.fault (if f.isFatal then f else .backoffExhausted name attempts f))
  | .error .unfinished => .error .unfinished

/-- What a retry loop writes behind its last attempt. -/
def closing (name : String) (attempts : Nat) : Except Halt α → List Entry
  | .ok _ =>
    if 1 < attempts then
      [.line .info (name ++ " succeeded after " ++ Number.naturalText attempts ++ " attempts")]
    else []
  | .error (.fault f) =>
    if f.isFatal then []
    else [.line .warn (name ++ " failed after " ++ Number.naturalText attempts ++
      " attempts, giving up: " ++ f.message)]
  | .error .unfinished => []

/-- The course of a retry loop from attempt `k` on, for no more attempts than patience allows: its
deeds and its result.  `A k` tells how attempt `k` may end and which deeds it may leave. -/
inductive Course (name : String) (p : BackoffPolicy) (chance : Span → Span)
    (A : Nat → Except Halt α → List Deed → Prop) :
    Nat → Nat → List Deed → Except Halt α → Prop
  | impatient (k : Nat) : Course name p chance A k 0 [] (.error .unfinished)
  | last {k patience : Nat} {outcome : Except Halt α} {deeds : List Deed}
    (hattempt : A k outcome deeds)
    (hlast : ∀ f, outcome = .error (.fault f) → f.isFatal = false → p.grants k = false) :
    Course name p chance A k (patience + 1) deeds
      (conclusion name (min (k + 1) tryLimit) outcome)
  | again {k patience : Nat} {f : Fault} {deeds looks later : List Deed} {result : Except Halt α}
    (hattempt : A k (.error (.fault f)) deeds) (hfatal : f.isFatal = false)
    (hgranted : p.grants k = true) (hlooks : OnlyStops looks)
    (hlater : Course name p chance A (k + 1) patience later result) :
    Course name p chance A k (patience + 1)
      (deeds ++ .paused (p.shaken chance (p.wait k)) :: looks ++ later) result

variable {s t : Site} {f : Fault} {attempts : Nat} {backoff backoff' : Backoff} {wait : Span}

/-- A recoverable fault is noted and followed by the next wait of the schedule; then there are more
rounds, unless the loop is abandoned because shutdown was asked for. -/
theorem rounds_again (abandon : Bool) (name : String) (fuel : Nat) (throttle : LogThrottle)
    (hrun : (op (min (attempts + 1) tryLimit)).perform w s = (.error (.fault f), t))
    (hfatal : f.isFatal = false) (hnext : backoff.next w.chance = some (wait, backoff')) :
    ∃ u looks stopped,
      (rounds abandon name op (fuel + 1) attempts backoff throttle).perform w s =
        (if abandon && stopped then (.ok none, u)
          else (rounds abandon name op fuel (min (attempts + 1) tryLimit) backoff'
            (throttle.after t.now)).perform w u) ∧
      u.history = t.history ++ .paused wait :: looks ∧ OnlyStops looks ∧
      u.journal = t.journal.add (.line
        (failureLine (throttle.admits t.now) name (min (attempts + 1) tryLimit) f wait).1
        (failureLine (throttle.admits t.now) name (min (attempts + 1) tryLimit) f wait).2) := by
  obtain ⟨noted, hnoted⟩ : ∃ noted : Site, noted = { t with
      journal := t.journal.add (.line
        (failureLine (throttle.admits t.now) name (min (attempts + 1) tryLimit) f wait).1
        (failureLine (throttle.admits t.now) name (min (attempts + 1) tryLimit) f wait).2) } :=
    ⟨_, rfl⟩
  obtain ⟨slept, heard, hpause, hslept, hheard, hkept⟩ := Run.perform_pause wait w noted
  obtain ⟨stopped, hstopping⟩ := Run.stopping_finds w slept
  obtain ⟨u, seen, hlook, hu, hseen, hleft⟩ := Run.looks_of_finds hstopping
  refine ⟨u, heard ++ seen, stopped, ?_, ?_, ?_, ?_⟩
  · rw [rounds, Run.perform_bind, Run.perform_attempt, hrun]
    simp only [hfatal, Bool.false_eq_true, ↓reduceIte]
    rw [Run.perform_bind, Run.perform_read]
    simp only [hnext]
    rw [Run.perform_bind, Run.perform_get]
    dsimp only
    rw [Run.perform_bind, Run.perform_note, ← hnoted]
    dsimp only
    rw [Run.perform_bind, hpause]
    dsimp only
    rw [Run.perform_bind, hlook]
    dsimp only
    cases abandon && stopped <;> rfl
  · rw [hu, hslept, hnoted, List.append_assoc]
    rfl
  · exact fun d hd => (List.mem_append.1 hd).elim (hheard d) (hseen d)
  · rw [hleft, hkept, hnoted]

/-- Behind any other outcome, and when the schedule has no wait left, there are no more rounds. -/
theorem rounds_last (abandon : Bool) (name : String) (fuel : Nat) (throttle : LogThrottle)
    {outcome : Except Halt α}
    (hrun : (op (min (attempts + 1) tryLimit)).perform w s = (outcome, t))
    (hlast : ∀ f, outcome = .error (.fault f) → f.isFatal = false →
      backoff.next w.chance = none) :
    (rounds abandon name op (fuel + 1) attempts backoff throttle).perform w s =
      ((conclusion name (min (attempts + 1) tryLimit) outcome).map some,
        { t with
          journal := t.journal.addAll (closing name (min (attempts + 1) tryLimit) outcome) }) := by
  rw [rounds, Run.perform_bind, Run.perform_attempt, hrun]
  rcases outcome with (f | _) | a
  · dsimp only [conclusion, closing]
    cases hfatal : f.isFatal with
    | true =>
        simp only [↓reduceIte]
        rfl
    | false =>
        simp only [Bool.false_eq_true, ↓reduceIte]
        rw [Run.perform_bind, Run.perform_read]
        simp only [hlast f rfl hfatal]
        rfl
  · rfl
  · dsimp only [conclusion, closing]
    split <;> rfl

/-- Attempts leave deeds, whatever they come to. -/
def Leaves (w : World) (op : Nat → Run α) (A : Nat → Except Halt α → List Deed → Prop) : Prop :=
  ∀ k s, ∃ deeds, ((op (min (k + 1) tryLimit)).perform w s).2.history = s.history ++ deeds ∧
    A k ((op (min (k + 1) tryLimit)).perform w s).1 deeds

/-- **The rounds of a retry loop follow its course.** -/
theorem rounds_course (name : String) (hp : p.Counted) (hop : Leaves w op A) (fuel k : Nat)
    (throttle : LogThrottle) (s : Site) :
    ∃ later result t,
      (rounds false name op fuel (min k tryLimit) (given p k) throttle).perform w s =
        (result.map some, t) ∧
      t.history = s.history ++ later ∧ Course name p w.chance A k fuel later result := by
  induction fuel generalizing k throttle s with
  | zero => exact ⟨[], .error .unfinished, s, rfl, (List.append_nil _).symm, .impatient k⟩
  | succ fuel ih =>
      have hcount : min (min k tryLimit + 1) tryLimit = min (k + 1) tryLimit := by omega
      have hnext := Backoff.next_given hp w.chance k
      obtain ⟨deeds, hdeeds, hattempt⟩ := hop k s
      rcases hrun : (op (min (k + 1) tryLimit)).perform w s with ⟨outcome, t⟩
      rw [hrun] at hdeeds hattempt
      rw [← hcount] at hrun
      by_cases hagain : ∃ f, outcome = .error (.fault f) ∧ f.isFatal = false ∧ p.grants k = true
      · obtain ⟨f, rfl, hfatal, hgranted⟩ := hagain
        rw [hgranted, if_pos rfl] at hnext
        obtain ⟨u, looks, stopped, hrounds, hu, hlooks, -⟩ :=
          rounds_again false name fuel throttle hrun hfatal hnext
        obtain ⟨later, result, v, hperform, hlater, hcourse⟩ := ih (k + 1) (throttle.after t.now) u
        rw [Bool.false_and, if_neg Bool.false_ne_true, hcount] at hrounds
        rw [hrounds]
        refine ⟨_, result, v, hperform, ?_, .again hattempt hfatal hgranted hlooks hcourse⟩
        rw [hlater, hu, hdeeds]
        simp only [List.append_assoc]
      · have hlast : ∀ f, outcome = .error (.fault f) → f.isFatal = false → p.grants k = false := by
          intro f hf hfatal
          exact Bool.eq_false_iff.2 fun hgranted => hagain ⟨f, hf, hfatal, hgranted⟩
        have hended : ∀ f, outcome = .error (.fault f) → f.isFatal = false →
            (given p k).next w.chance = none := by
          intro f hf hfatal
          rw [hnext, hlast f hf hfatal, if_neg Bool.false_ne_true]
        rw [rounds_last false name fuel throttle hrun hended, hcount]
        exact ⟨deeds, _, _, rfl, hdeeds, .last hattempt hlast⟩

/-- The same for a retry loop as a whole. -/
theorem run_course (name : String) (hp : p.Counted) (hop : Leaves w op A) (s : Site) :
    ∃ later result t, (Retry.run name p op).perform w s = (result, t) ∧
      t.history = s.history ++ later ∧ Course name p w.chance A 0 w.patience later result := by
  obtain ⟨later, result, t, hrounds, hlater, hcourse⟩ :=
    rounds_course name hp hop w.patience 0 (.new w.logInterval) s
  have huntil : (untilStopped false name p op).perform w s = (result.map some, t) := hrounds
  refine ⟨later, result, t, ?_, hlater, hcourse⟩
  rw [Retry.run, Run.perform_bind, huntil]
  cases result <;> rfl

/-! ## What a course is made of -/

/-- The deeds of `n` attempts from attempt `k` on, with the sleep behind each of them and the looks
after shutdown in it. -/
def trail (p : BackoffPolicy) (chance : Span → Span) (calls looks : Nat → List Deed) (k n : Nat) :
    List Deed :=
  (List.range' k n).flatMap fun i => calls i ++ .paused (p.shaken chance (p.wait i)) :: looks i

/-- Only the attempts that are made matter to a trail. -/
theorem trail_congr {calls calls' looks looks' : Nat → List Deed} {k n : Nat}
    (h : ∀ i, k ≤ i → i < k + n → calls i = calls' i ∧ looks i = looks' i) :
    trail p chance calls looks k n = trail p chance calls' looks' k n := by
  refine congrArg List.flatten (List.map_congr_left fun i hi => ?_)
  obtain ⟨hle, hlt⟩ := List.mem_range'_1.1 hi
  obtain ⟨hcalls, hlooks⟩ := h i hle hlt
  rw [hcalls, hlooks]

theorem trail_succ (calls looks : Nat → List Deed) (k n : Nat) :
    trail p chance calls looks k (n + 1) =
      calls k ++ .paused (p.shaken chance (p.wait k)) :: looks k ++
        trail p chance calls looks (k + 1) n := by
  rw [trail, List.range'_succ, List.flatMap_cons, trail]

/-- Deeds that neither a sleep nor a look is are those of the attempts. -/
theorem countP_trail {q : Deed → Bool} {calls looks : Nat → List Deed} {a : Nat}
    (hpaused : ∀ span, q (.paused span) = false) (hstopped : q .stopped = false)
    (hlooks : ∀ i, OnlyStops (looks i)) (k n : Nat)
    (hcalls : ∀ i, k ≤ i → i < k + n → (calls i).countP q = a) :
    (trail p chance calls looks k n).countP q = n * a := by
  have hnone : ∀ i, (looks i).countP q = 0 := fun i => by
    refine List.countP_eq_zero.2 fun d hd => ?_
    rw [hlooks i d hd, hstopped]
    exact Bool.false_ne_true
  induction n generalizing k with
  | zero => rw [Nat.zero_mul]; rfl
  | succ n ih =>
      have hfirst := hcalls k (Nat.le_refl k) (by omega)
      have hrest := ih (k + 1) fun i hle hlt => hcalls i (by omega) (by omega)
      rw [trail_succ, List.countP_append, List.countP_append, List.countP_cons, hpaused, hnone,
        hfirst, hrest, Nat.succ_mul, Nat.add_comm]
      rfl

/-- **A course is a row of attempts**: each one but the last may be retried and is followed by its
wait, and the last one is where the course ends. -/
theorem Course.unroll {k patience : Nat} {later : List Deed} {result : Except Halt α}
    (h : Course name p chance A k patience later result) :
    ∃ (n : Nat) (calls looks : Nat → List Deed),
      (∀ i, k ≤ i → i < k + n → p.grants i = true ∧
        ∃ f, A i (.error (.fault f)) (calls i) ∧ f.isFatal = false) ∧
      (∀ i, OnlyStops (looks i)) ∧
      ((n = patience ∧ result = .error .unfinished ∧ later = trail p chance calls looks k n) ∨
        (n < patience ∧ ∃ outcome, A (k + n) outcome (calls (k + n)) ∧
          (∀ f, outcome = .error (.fault f) → f.isFatal = false → p.grants (k + n) = false) ∧
          result = conclusion name (min (k + n + 1) tryLimit) outcome ∧
          later = trail p chance calls looks k n ++ calls (k + n))) := by
  induction h with
  | impatient k =>
      exact ⟨0, fun _ => [], fun _ => [], by omega, fun _ => nofun, .inl ⟨rfl, rfl, rfl⟩⟩
  | @last k patience outcome deeds hattempt hlast =>
      exact ⟨0, fun _ => deeds, fun _ => [], by omega, fun _ => nofun,
        .inr ⟨Nat.succ_pos _, outcome, hattempt, hlast, rfl, rfl⟩⟩
  | @again k patience f deeds first later result hattempt hfatal hgranted hlooks hlater ih =>
      obtain ⟨n, calls, looks, hearlier, hstops, hends⟩ := ih
      obtain ⟨calls', hcalls'⟩ : ∃ calls' : Nat → List Deed,
          calls' = fun i => if i = k then deeds else calls i := ⟨_, rfl⟩
      obtain ⟨looks', hlooks'⟩ : ∃ looks' : Nat → List Deed,
          looks' = fun i => if i = k then first else looks i := ⟨_, rfl⟩
      have hfirst : calls' k = deeds ∧ looks' k = first := by
        rw [hcalls', hlooks']
        exact ⟨if_pos rfl, if_pos rfl⟩
      have hrest : ∀ i, k + 1 ≤ i → calls' i = calls i ∧ looks' i = looks i := fun i hi => by
        rw [hcalls', hlooks']
        exact ⟨if_neg (by omega), if_neg (by omega)⟩
      have hnext : k + 1 + n = k + (n + 1) := by omega
      refine ⟨n + 1, calls', looks', ?_, ?_, ?_⟩
      · intro i hle hlt
        rcases Nat.eq_or_lt_of_le hle with rfl | hbehind
        · rw [hfirst.1]
          exact ⟨hgranted, f, hattempt, hfatal⟩
        · rw [(hrest i hbehind).1]
          exact hearlier i hbehind (by omega)
      · intro i
        rw [hlooks']
        dsimp only
        split
        · exact hlooks
        · exact hstops i
      · rw [hnext] at hends
        have htrail : trail p chance calls' looks' k (n + 1) =
            deeds ++ .paused (p.shaken chance (p.wait k)) :: first ++
              trail p chance calls looks (k + 1) n := by
          rw [trail_succ, hfirst.1, hfirst.2, trail_congr fun i hi _ => hrest i hi]
        rw [htrail]
        refine hends.imp ?_ ?_
        · rintro ⟨rfl, hresult, rfl⟩
          exact ⟨rfl, hresult, rfl⟩
        · rintro ⟨hlt, outcome, hattempt', hlast, hresult, rfl⟩
          rw [(hrest _ (by omega)).1]
          refine ⟨Nat.succ_lt_succ hlt, outcome, hattempt', hlast, hresult, ?_⟩
          simp only [List.append_assoc]

/-! ## Operations with given outcomes -/

/-- An operation that ends with these outcomes, invocation after invocation, and leaves these deeds,
whatever else it does. -/
def Gives (w : World) (op : Nat → Run α) (outcomes : Nat → Except Fault α)
    (marks : Nat → List Deed) : Prop :=
  ∀ k s, ((op (k + 1)).perform w s).1 = passed (outcomes k) ∧
    ((op (k + 1)).perform w s).2.history = s.history ++ marks k

/-- Outcomes behind which there is nothing to retry: a success, or a fatal fault. -/
def isDecisive : Except Fault α → Bool
  | .ok _ => true
  | .error f => f.isFatal

/-- How often an operation with these outcomes is invoked if it may be retried `m` times: up to its
first decisive outcome, but no more than `m + 1` times. -/
def invocations (outcomes : Nat → Except Fault α) (m : Nat) : Nat :=
  min (m + 1) ((List.range (m + 1)).findIdx (fun k => isDecisive (outcomes k)) + 1)

/-- What becomes of the last outcome if the operation may be retried `m` times. -/
def verdict (name : String) (m : Nat) : Except Fault α → Except Fault α
  | .ok a => .ok a
  | .error f => .error (if f.isFatal then f else .backoffExhausted name (m + 1) f)

variable {outcomes : Nat → Except Fault α} {marks : Nat → List Deed} {m n : Nat}

/-- The operation is invoked more often than there are indecisive outcomes at the beginning. -/
theorem lt_invocations (hn : n ≤ m) (hearlier : ∀ k < n, isDecisive (outcomes k) = false) :
    n < invocations outcomes m := by
  have hle : n ≤ (List.range (m + 1)).findIdx fun k => isDecisive (outcomes k) := by
    refine List.le_findIdx_of_not ?_ ?_
    · rw [List.length_range]
      omega
    · intro k hk
      rw [List.getElem_range, hearlier k hk]
  rw [invocations]
  omega

theorem invocations_eq (hn : n ≤ m) (hearlier : ∀ k < n, isDecisive (outcomes k) = false)
    (hlast : isDecisive (outcomes n) = true ∨ n = m) : invocations outcomes m = n + 1 := by
  have hlt := lt_invocations hn hearlier
  rcases hlast with hdecisive | rfl
  · have hge : (List.range (m + 1)).findIdx (fun k => isDecisive (outcomes k)) ≤ n := by
      refine Nat.le_of_not_lt fun hbefore => ?_
      have hfalse := List.not_of_lt_findIdx hbefore
      rw [List.getElem_range, hdecisive] at hfalse
      exact Bool.false_ne_true hfalse.symm
    rw [invocations] at hlt ⊢
    omega
  · rw [invocations] at hlt ⊢
    omega

/-- An attempt with one of these outcomes that leaves the deeds given with it; no attempt is told that
it is beyond `tryLimit`. -/
def Given (outcomes : Nat → Except Fault α) (marks : Nat → List Deed) (k : Nat)
    (outcome : Except Halt α) (deeds : List Deed) : Prop :=
  outcome = passed (outcomes (min k (tryLimit - 1))) ∧ deeds = marks (min k (tryLimit - 1))

theorem Gives.leaves (h : Gives w op outcomes marks) :
    Leaves w op (Given outcomes marks) := by
  intro k s
  have hpos : 0 < tryLimit := by decide
  have hcount : min (k + 1) tryLimit = min k (tryLimit - 1) + 1 := by omega
  rw [hcount]
  exact ⟨_, (h _ s).2, (h _ s).1, rfl⟩

theorem conclusion_passed (hlast : ∀ f, outcomes n = .error f → f.isFatal = false → n = m) :
    conclusion name (n + 1) (passed (outcomes n)) = passed (verdict name m (outcomes n)) := by
  cases hn : outcomes n with
  | ok a => rfl
  | error f =>
      cases hfatal : f.isFatal with
      | true => simp only [passed, conclusion, verdict, hfatal, ↓reduceIte]
      | false => rw [hlast f hn hfatal]; rfl

/-- Attempts with given outcomes leave no choice, and without jitter their waits do not either. -/
theorem trail_given (hjitter : p.jitter ≤ 0.0) {calls looks : Nat → List Deed}
    (hcalls : ∀ k < n, calls k = marks k) :
    trail p chance calls looks 0 n =
      (List.range n).flatMap fun k => marks k ++ .paused (p.wait k) :: looks k := by
  have hmarks : ∀ k, 0 ≤ k → k < 0 + n → calls k = marks k ∧ looks k = looks k := fun k _ hk =>
    ⟨hcalls k (by omega), rfl⟩
  rw [trail_congr hmarks, trail, List.range_eq_range']
  simp only [BackoffPolicy.shaken, hjitter, if_true]

/-- A retry loop without bound ends with no fault but a fatal one of the operation. -/
theorem run_unbounded (hretries : p.retries = none) (hgives : Gives w op outcomes marks)
    {s t : Site} {f : Fault} (hrun : (Retry.run name p op).perform w s = (.error (.fault f), t)) :
    ∃ k, outcomes k = .error f ∧ f.isFatal = true := by
  have hcounted : p.Counted := fun n hn => by
    rw [hretries] at hn
    exact nomatch hn
  have hgranted : ∀ k, p.grants k = true := fun k => by rw [BackoffPolicy.grants, hretries]
  obtain ⟨later, result, t', hperform, -, hcourse⟩ := run_course name hcounted hgives.leaves s
  obtain rfl : result = .error (.fault f) := congrArg Prod.fst (hperform.symm.trans hrun)
  obtain ⟨n, calls, looks, -, -, ⟨-, hresult, -⟩ | ⟨-, outcome, ⟨rfl, -⟩, hlast, hresult, -⟩⟩ :=
    hcourse.unroll
  · exact nomatch hresult
  · refine ⟨min (0 + n) (tryLimit - 1), ?_⟩
    cases hn : outcomes (min (0 + n) (tryLimit - 1)) with
    | ok a =>
        rw [hn] at hresult
        exact nomatch hresult
    | error g =>
        rw [hn] at hresult hlast
        have hfatal : g.isFatal = true := by
          refine (Bool.eq_false_or_eq_true g.isFatal).resolve_right fun hrecoverable => ?_
          have hspent := hlast g rfl hrecoverable
          exact Bool.false_ne_true (hspent.symm.trans (hgranted _))
        simp only [passed, conclusion, hfatal, ↓reduceIte, Except.error.injEq, Halt.fault.injEq]
          at hresult
        subst hresult
        exact ⟨rfl, hfatal⟩

/-- A bounded retry loop without jitter, deed by deed. -/
theorem run_bounded (hjitter : p.jitter ≤ 0.0) (hretries : p.retries = some m) (hm : m < tryLimit)
    (hgives : Gives w op outcomes marks) (hpatience : invocations outcomes m ≤ w.patience)
    (s : Site) :
    ∃ (n : Nat) (looks : Nat → List Deed) (t : Site), n + 1 = invocations outcomes m ∧
      (Retry.run name p op).perform w s = (passed (verdict name m (outcomes n)), t) ∧
      t.history = s.history ++
        (List.range n).flatMap (fun k => marks k ++ .paused (p.wait k) :: looks k) ++ marks n ∧
      (∀ k, OnlyStops (looks k)) ∧
      (Backoff.start p).waits w.chance n = (List.range n).map fun k => some (p.wait k) := by
  have hcounted := BackoffPolicy.counted_of_retries hretries (Nat.le_of_lt hm)
  have htold : ∀ k ≤ m, min k (tryLimit - 1) = k := by omega
  obtain ⟨later, result, t, hperform, hlater, hcourse⟩ := run_course name hcounted hgives.leaves s
  obtain ⟨n, calls, looks, hearlier, hstops, hends⟩ := hcourse.unroll
  rw [Nat.zero_add] at hearlier hends
  have hn : n ≤ m :=
    BackoffPolicy.le_of_grants hretries fun k hk => (hearlier k (Nat.zero_le k) hk).1
  have hattempts : ∀ k < n, isDecisive (outcomes k) = false ∧ calls k = marks k := fun k hk => by
    obtain ⟨-, f, ⟨hgiven, hcalls⟩, hfatal⟩ := hearlier k (Nat.zero_le k) hk
    rw [htold k (by omega)] at hgiven hcalls
    have hk : outcomes k = .error f := Run.passed_inj.1 hgiven.symm
    exact ⟨by rw [hk]; exact hfatal, hcalls⟩
  rcases hends with ⟨hn', -⟩ | ⟨-, outcome, ⟨hgiven, hcalls⟩, hlast, hresult, hdeeds⟩
  · exact absurd (lt_invocations hn fun k hk => (hattempts k hk).1) (by omega)
  · rw [htold n hn] at hgiven hcalls
    subst hgiven
    have hended : ∀ f, outcomes n = .error f → f.isFatal = false → n = m := fun f hf hfatal => by
      have hspent := hlast f (congrArg passed hf) hfatal
      rw [BackoffPolicy.grants_of_retries hretries, decide_eq_false_iff_not] at hspent
      omega
    have hdecisive : isDecisive (outcomes n) = true ∨ n = m := by
      cases hn : outcomes n with
      | ok a => exact .inl rfl
      | error f => exact (Bool.eq_false_or_eq_true f.isFatal).imp_right (hended f hn)
    have hlimit : min (n + 1) tryLimit = n + 1 := by omega
    have hinvoked := invocations_eq hn (fun k hk => (hattempts k hk).1) hdecisive
    refine ⟨n, looks, t, hinvoked.symm, ?_, ?_, hstops, ?_⟩
    · rw [hperform, hresult, hlimit, conclusion_passed hended]
    · rw [hlater, hdeeds, hcalls, trail_given hjitter fun k hk => (hattempts k hk).2,
        List.append_assoc]
    · rw [← Backoff.given_zero, Backoff.waits_given hcounted, List.range_eq_range']
      refine List.map_congr_left fun k hk => ?_
      have hgranted := (hearlier k (Nat.zero_le k) (by have := (List.mem_range'_1.1 hk).2; omega)).1
      rw [hgranted, if_pos rfl, BackoffPolicy.shaken, if_pos hjitter]

/-- **How often a retry loop invokes its operation, how it sleeps and what it returns.**  The
operation may be retried `m` times, without jitter, and its outcomes are given.  It is invoked up to
its first decisive outcome, but no more than `m + 1` times; between two invocations the loop sleeps
for the next wait of a fresh schedule, which is no longer than the cap; and it returns the last
outcome as it is, or that the retries were all used up if this outcome is a fault that could have been
retried.

If the operation may be retried forever, no fault comes back but a fatal one of the operation. -/
theorem run_invokes (name : String) (hjitter : p.jitter ≤ 0.0)
    (hgives : Gives w op outcomes marks) (s : Site) :
    (∀ m, p.retries = some m → m < tryLimit → invocations outcomes m ≤ w.patience →
      ∃ (n : Nat) (looks : Nat → List Deed) (t : Site), n + 1 = invocations outcomes m ∧
        (Retry.run name p op).perform w s = (passed (verdict name m (outcomes n)), t) ∧
        t.history = s.history ++
          (List.range n).flatMap (fun k => marks k ++ .paused (p.wait k) :: looks k) ++ marks n ∧
        (∀ k, OnlyStops (looks k)) ∧
        (Backoff.start p).waits w.chance n = ((List.range n).map fun k => some (p.wait k)) ∧
        ∀ k, p.wait k ≤ p.cap) ∧
    (p.retries = none → ∀ f t, (Retry.run name p op).perform w s = (.error (.fault f), t) →
      ∃ k, outcomes k = .error f ∧ f.isFatal = true) := by
  refine ⟨fun m hretries hm hpatience => ?_, fun hretries f t hrun => ?_⟩
  · obtain ⟨n, looks, t, hn, hperform, hhistory, hlooks, hwaits⟩ :=
      run_bounded hjitter hretries hm hgives hpatience s
    exact ⟨n, looks, t, hn, hperform, hhistory, hlooks, hwaits, fun k => Nat.min_le_right _ _⟩
  · exact run_unbounded hretries hgives hrun

/-- An operation that begins a snapshot and ends with the next of these outcomes. -/
def scripted (outcomes : Nat → Except Fault α) (attempt : Nat) : Run α := do
  Run.record .began
  Run.ofExcept (outcomes (attempt - 1))

theorem gives_scripted (w : World) (outcomes : Nat → Except Fault α) :
    Gives w (scripted outcomes) outcomes fun _ => [.began] := by
  intro k s
  have hrun : (scripted outcomes (k + 1)).perform w s =
      (Run.ofExcept (outcomes k)).perform w (s.did .began) := rfl
  rw [hrun]
  cases outcomes k with
  | ok a => exact ⟨rfl, s.history_did .began⟩
  | error f => exact ⟨rfl, s.history_did .began⟩

/-- A world in which nothing answers and nobody asks for shutdown. -/
def still : World where
  connect _ := .error (.connectionFailed "still")
  answer _ _ _ := .ok none
  signal _ := .quiet
  chance s := s
  logInterval := .zero
  patience := 3

/-- Two failures that may be retried, then a success. -/
def third : Nat → Except Fault Nat
  | 0 => .error (.connectionFailed "down")
  | 1 => .error (.io "full")
  | _ => .ok 7

/-- A failure that may be retried, then one that may not. -/
def unusable : Nat → Except Fault Nat
  | 0 => .error (.io "full")
  | _ => .error (.configError "root")

/-- Two retries are just enough for two failures; without bound, a fatal fault is what ends it. -/
theorem run_invokes_third :
    (∃ (looks : Nat → List Deed) (t : Site),
      (Retry.run "start" (.new (.ofSecs 1) (.ofSecs 15) (some 2)) (scripted third)).perform still
        .blank = (.ok 7, t) ∧
      t.history = [.began, .paused (.ofSecs 1)] ++ looks 0 ++ [.began, .paused (.ofSecs 2)] ++
        looks 1 ++ [.began] ∧ ∀ k, OnlyStops (looks k)) ∧
    (∃ t, (Retry.run "start" .waitForever (scripted unusable)).perform still .blank =
        (.error (.fault (.configError "root")), t)) ∧
      ∃ k, unusable k = .error (.configError "root") ∧ (Fault.configError "root").isFatal = true := by
  have hinvoked : invocations third 2 = 3 := by decide
  obtain ⟨hbounded, -⟩ := run_invokes "start" (p := .new (.ofSecs 1) (.ofSecs 15) (some 2))
    (by decide) (gives_scripted still third) .blank
  obtain ⟨-, hunbounded⟩ := run_invokes "start" (p := .waitForever) (by decide)
    (gives_scripted still unusable) .blank
  obtain ⟨n, looks, t, hn, hperform, hhistory, hlooks, -, -⟩ :=
    hbounded 2 rfl (by decide) (by rw [hinvoked]; decide)
  obtain rfl : n = 2 := by omega
  have hended : (Retry.run "start" .waitForever (scripted unusable)).perform still .blank =
      (.error (.fault (.configError "root")), _) := rfl
  have hwaits : ∀ p : BackoffPolicy, p = .new (.ofSecs 1) (.ofSecs 15) (some 2) →
      p.wait 0 = .ofSecs 1 ∧ p.wait 1 = .ofSecs 2 := by
    rintro p rfl
    decide
  refine ⟨⟨looks, t, hperform, ?_, hlooks⟩, ⟨_, hended⟩, hunbounded rfl _ _ hended⟩
  rw [hhistory]
  simp [List.range_succ, Site.blank, Site.new, Site.history, hwaits]

end Retry
end RecordingHarvest
