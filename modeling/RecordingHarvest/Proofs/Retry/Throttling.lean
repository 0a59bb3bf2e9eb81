import Mathlib.Data.List.Chain
import Mathlib.Data.List.Induction
import RecordingHarvest.Proofs.Retry.Course
import RecordingHarvest.Proofs.Time.Elapsed

/-!
# Throttled lines of retry loops

A failed attempt that is followed by a wait is a *setback* (`Retry.Setback`).  A retry loop writes one
line about each of its setbacks, for information or for debugging, and one at most when it ends
(`Retry.Chronicle`).  Which of the two it is follows from the readings of the clock
(`Retry.Throttled`).

* `rounds_chronicle`: every retry loop has such a chronicle, whatever its attempts do.
* `throttled_of_tells`: the throttle tells of a setback when its interval has passed since the last one
  that it told of.
* `Throttled.pairwise`: so any two setbacks told of are an interval apart.
* `retries_throttled`: the lines of a retry loop, with the interval that counts.
-/

namespace RecordingHarvest
namespace Retry

variable {α : Type}

/-! ## Setbacks -/

/-- A failed attempt that is followed by a wait. -/
structure Setback where
  attempt : Nat
  fault : Fault
  wait : Span
  /-- What the clock shows when it is noted. -/
  seen : Instant
  /-- Whether it is noted as information. -/
  told : Bool

/-- The line about a setback. -/
def Setback.entry (name : String) (b : Setback) : Entry :=
  .line (failureLine b.told name b.attempt b.fault b.wait).1
    (failureLine b.told name b.attempt b.fault b.wait).2

/-- A setback happens from one site to another: the attempt fails, one line is written about it, and
the wait follows, in which at most shutdown is asked for. -/
def Setback.Happens (w : World) (name : String) (op : Nat → Run α) (b : Setback) (s u : Site) :
    Prop :=
  ∃ t looks, (op b.attempt).perform w s = (.error (.fault b.fault), t) ∧ b.fault.isFatal = false ∧
    b.seen = t.now ∧ u.journal = t.journal.add (b.entry name) ∧
    u.history = t.history ++ .paused b.wait :: looks ∧ OnlyStops looks

/-- What a retry loop does from attempt `k` on, for no more attempts than patience allows: setbacks one
after another, and then an end.  Patience runs out, or the loop is abandoned, or an attempt decides
what the loop returns, and is followed by no wait. -/
inductive Chronicle (abandon : Bool) (w : World) (name : String) (op : Nat → Run α) :
    Nat → Nat → Site → List Setback → Except Halt (Option α) → Site → Prop
  | impatient (k : Nat) (s : Site) : Chronicle abandon w name op k 0 s [] (.error .unfinished) s
  | last {k patience : Nat} {s t : Site} {outcome : Except Halt α}
    (hrun : (op (min (k + 1) tryLimit)).perform w s = (outcome, t)) :
    Chronicle abandon w name op k (patience + 1) s []
      ((conclusion name (min (k + 1) tryLimit) outcome).map some)
      { t with journal := t.journal.addAll (closing name (min (k + 1) tryLimit) outcome) }
  | abandoned {k patience : Nat} {s u : Site} {b : Setback} (habandon : abandon = true)
    (hattempt : b.attempt = min (k + 1) tryLimit) (hb : b.Happens w name op s u) :
    Chronicle abandon w name op k (patience + 1) s [b] (.ok none) u
  | again {k patience : Nat} {s u v : Site} {b : Setback} {bs : List Setback}
    {result : Except Halt (Option α)} (hattempt : b.attempt = min (k + 1) tryLimit)
    (hb : b.Happens w name op s u)
    (hlater : Chronicle abandon w name op (k + 1) patience u bs result v) :
    Chronicle abandon w name op k (patience + 1) s (b :: bs) result v

/-! ## What the throttle tells -/

/-- Each of some setbacks is noted as information exactly if the throttle admits a line then. -/
def Tells : LogThrottle → List Setback → Prop
  | _, [] => True
  | t, b :: rest => b.told = t.admits b.seen ∧ Tells (t.after b.seen) rest

/-- The throttle after some setbacks. -/
def throttleAfter (t : LogThrottle) (bs : List Setback) : LogThrottle :=
  bs.foldl (fun t b => t.after b.seen) t

theorem min_tryLimit_succ (k : Nat) : min (min k tryLimit + 1) tryLimit = min (k + 1) tryLimit := by
  omega

/-- A recoverable fault that the schedule has a wait for is a setback, noted as the throttle tells. -/
theorem rounds_setback {w : World} {op : Nat → Run α} (abandon : Bool) (name : String)
    (fuel : Nat) {k : Nat} {backoff next : Backoff} (throttle : LogThrottle) {s t : Site} {f : Fault}
    {wait : Span} (hrun : (op (min (k + 1) tryLimit)).perform w s = (.error (.fault f), t))
    (hfatal : f.isFatal = false) (hnext : backoff.next w.chance = some (wait, next)) :
    ∃ (b : Setback) (u : Site) (stopped : Bool), b.attempt = min (k + 1) tryLimit ∧
      b.Happens w name op s u ∧ b.told = throttle.admits b.seen ∧
      (rounds abandon name op (fuel + 1) (min k tryLimit) backoff throttle).perform w s =
        if abandon && stopped then (.ok none, u)
        else (rounds abandon name op fuel (min (k + 1) tryLimit) next
          (throttle.after b.seen)).perform w u := by
  have hcount := min_tryLimit_succ k
  have hrun' := hrun
  rw [← hcount] at hrun'
  obtain ⟨u, looks, stopped, hrounds, hhistory, hlooks, hjournal⟩ :=
    rounds_again abandon name fuel throttle hrun' hfatal hnext
  rw [hcount] at hrounds hjournal
  refine ⟨⟨min (k + 1) tryLimit, f, wait, t.now, throttle.admits t.now⟩, u, stopped, rfl, ?_, rfl,
    hrounds⟩
  exact ⟨t, looks, hrun, hfatal, rfl, hjournal, hhistory, hlooks⟩

/-- **Every retry loop has a chronicle**, and its throttle tells which setbacks are noted as
information. -/
theorem rounds_chronicle {w : World} {op : Nat → Run α} (abandon : Bool) (name : String)
    (fuel k : Nat) (backoff : Backoff) (throttle : LogThrottle) (s : Site) :
    ∃ bs result u,
      (rounds abandon name op fuel (min k tryLimit) backoff throttle).perform w s = (result, u) ∧
      Chronicle abandon w name op k fuel s bs result u ∧ Tells throttle bs := by
  induction fuel generalizing k backoff throttle s with
  | zero => exact ⟨[], .error .unfinished, s, rfl, .impatient k s, trivial⟩
  | succ fuel ih =>
      rcases hrun : (op (min (k + 1) tryLimit)).perform w s with ⟨outcome, t⟩
      by_cases hagain : ∃ f wait next, outcome = .error (.fault f) ∧ f.isFatal = false ∧
          backoff.next w.chance = some (wait, next)
      · obtain ⟨f, wait, next, rfl, hfatal, hnext⟩ := hagain
        obtain ⟨b, u, stopped, hattempt, hb, htold, hrounds⟩ :=
          rounds_setback abandon name fuel throttle hrun hfatal hnext
        rw [hrounds]
        by_cases hstop : (abandon && stopped) = true
        · have habandon := (Bool.and_eq_true_iff.1 hstop).1
          rw [if_pos hstop]
          exact ⟨[b], .ok none, u, rfl, .abandoned habandon hattempt hb, htold, trivial⟩
        · obtain ⟨bs, result, v, hperform, hlater, htells⟩ :=
            ih (k + 1) next (throttle.after b.seen) u
          rw [if_neg hstop]
          exact ⟨b :: bs, result, v, hperform, .again hattempt hb hlater, htold, htells⟩
      · have hended : ∀ f, outcome = .error (.fault f) → f.isFatal = false →
            backoff.next w.chance = none := by
          intro f hf hfatal
          apply Option.eq_none_iff_forall_ne_some.2
          rintro ⟨wait, next⟩ hnext
          exact hagain ⟨f, wait, next, hf, hfatal, hnext⟩
        have hcount := min_tryLimit_succ k
        have hrun' := hrun
        rw [← hcount] at hrun'
        rw [rounds_last abandon name fuel throttle hrun' hended, hcount]
        exact ⟨[], _, _, rfl, .last hrun, trivial⟩

/-- The setbacks that are noted as information. -/
def told (bs : List Setback) : List Setback := bs.filter (·.told)

theorem told_snoc (bs : List Setback) (b : Setback) :
    told (bs ++ [b]) = told bs ++ if b.told then [b] else [] := by
  rw [told, List.filter_append]
  by_cases h : b.told <;> simp [told, h]

theorem tells_append {t : LogThrottle} {bs cs : List Setback} :
    Tells t (bs ++ cs) ↔ Tells t bs ∧ Tells (throttleAfter t bs) cs := by
  induction bs generalizing t with
  | nil => simp [Tells, throttleAfter]
  | cons b rest ih => exact (and_congr_right fun _ => ih).trans and_assoc.symm

theorem throttleAfter_snoc (t : LogThrottle) (bs : List Setback) (b : Setback) :
    throttleAfter t (bs ++ [b]) = (throttleAfter t bs).after b.seen :=
  List.foldl_append

/-- A throttle keeps when it last let a line through. -/
theorem throttleAfter_new {interval : Span} {bs : List Setback} (h : Tells (.new interval) bs) :
    throttleAfter (.new interval) bs =
      ⟨interval.orElse .zero, (told bs).getLast?.map (·.seen)⟩ := by
  induction bs using List.reverseRecOn with
  | nil => rfl
  | append_singleton bs b ih =>
      obtain ⟨hbefore, htold, -⟩ := tells_append.1 h
      rw [throttleAfter_snoc, told_snoc, LogThrottle.after, ← htold, ih hbefore]
      by_cases hb : b.told <;> simp [hb]

/-- **Which setbacks are noted as information**: the first one, and each that comes an interval or more
after the last one noted so. -/
def Throttled (interval : Int) (bs : List Setback) : Prop :=
  ∀ before b after, bs = before ++ b :: after →
    (b.told = true ↔
      ∀ a, (told before).getLast? = some a → interval ≤ b.seen.nanosSince a.seen)

/-- **The throttle tells of a setback when its interval has passed** since the last one that it told
of. -/
theorem throttled_of_tells {interval : Span} {bs : List Setback} (h : Tells (.new interval) bs) :
    Throttled (interval.orElse .zero).nanos bs := by
  rintro before b after rfl
  obtain ⟨hbefore, htold, -⟩ := tells_append.1 h
  rw [htold, throttleAfter_new hbefore, LogThrottle.admits]
  cases (told before).getLast? with
  | none => simp
  | some a => simp

theorem Throttled.of_append {interval : Int} {bs cs : List Setback}
    (h : Throttled interval (bs ++ cs)) : Throttled interval bs := by
  rintro before b after rfl
  exact h before b (after ++ cs) (by simp)

/-- One setback comes some seconds or more after another, by a clock that does not go back. -/
structure Apart (secs : Nat) (a b : Setback) : Prop where
  valid : a.seen.Valid ∧ b.seen.Valid
  order : a.seen ≤ b.seen
  apart : (secs * 1000000000 : Int) ≤ b.seen.nanosSince a.seen

instance (secs : Nat) : IsTrans Setback (Apart secs) where
  trans _ _ _ hab hbc :=
    { valid := ⟨hab.valid.1, hbc.valid.2⟩
      order := Instant.le_trans hab.order hbc.order
      apart := Instant.le_nanosSince_trans hab.valid.1 hab.valid.2 hbc.valid.2 hab.order hbc.order
        hab.apart hbc.apart }

/-- **Any two setbacks told of are an interval apart**, if the clock does not go back. -/
theorem Throttled.pairwise {secs : Nat} {bs : List Setback}
    (h : Throttled (secs * 1000000000) bs) (hvalid : ∀ b ∈ bs, b.seen.Valid)
    (horder : bs.Pairwise fun a b => a.seen ≤ b.seen) : (told bs).Pairwise (Apart secs) := by
  refine List.isChain_iff_pairwise.1 ?_
  induction bs using List.reverseRecOn with
  | nil => exact .nil
  | append_singleton bs b ih =>
      obtain ⟨hbs, -, hlast⟩ := List.pairwise_append.1 horder
      have hearlier := ih h.of_append (fun a ha => hvalid a (List.mem_append_left _ ha)) hbs
      rw [told_snoc]
      by_cases htold : b.told = true
      · rw [if_pos htold]
        refine List.isChain_append.2 ⟨hearlier, .singleton b, ?_⟩
        intro a ha b' hb'
        obtain rfl := Option.some.inj hb'
        have hmem : a ∈ bs := (List.mem_filter.1 (List.mem_of_getLast? ha)).1
        exact ⟨⟨hvalid a (by simp [hmem]), hvalid b (by simp)⟩, hlast a hmem b (by simp),
          (h bs b [] rfl).1 htold a ha⟩
      · rw [if_neg htold, List.append_nil]
        exact hearlier

/-! ## Retry loops -/

/-- A loop that is not abandoned gives a result or ends in a fault. -/
theorem Chronicle.exists_map {w : World} {name : String} {op : Nat → Run α} {k patience : Nat}
    {s u : Site} {bs : List Setback} {result : Except Halt (Option α)}
    (h : Chronicle false w name op k patience s bs result u) :
    ∃ r : Except Halt α, result = r.map some := by
  induction h with
  | impatient => exact ⟨.error .unfinished, rfl⟩
  | last => exact ⟨_, rfl⟩
  | abandoned habandon => exact nomatch habandon
  | again _ _ _ ih => exact ih

/-- The seconds between two lines that a throttle keeps: none at all for an interval that no instant
can take. -/
def spacing (secs : Nat) : Nat := if Span.ofSecs secs ≤ .longest then secs else 0

theorem nanos_orElse_ofSecs (secs : Nat) :
    (((Span.ofSecs secs).orElse .zero).nanos : Int) = spacing secs * 1000000000 := by
  rw [Span.orElse, spacing]
  split
  · simp [Span.ofSecs, Span.ofParts]
  · simp [Span.zero]

/-- **The lines of a retry loop are throttled.**  With a log interval of some seconds, whatever its
attempts do, a retry loop is a chronicle of setbacks, each with one line, for information or for
debugging:

* the first setback is noted as information, and every later one exactly if the interval has passed
  since the last one noted so;
* the setbacks noted as information are pairwise the interval apart, if the clock does not go back.

The interval that counts is the one that was given, up to 2^63 - 1 milliseconds, and none at all
beyond. -/
theorem retries_throttled {w : World} {secs : Nat} (hinterval : w.logInterval = .ofSecs secs)
    (abandon : Bool) (name : String) (p : BackoffPolicy) (op : Nat → Run α) (s : Site) :
    ∃ bs result u, (untilStopped abandon name p op).perform w s = (result, u) ∧
      (abandon = false →
        ∃ r, result = r.map some ∧ (Retry.run name p op).perform w s = (r, u)) ∧
      Chronicle abandon w name op 0 w.patience s bs result u ∧
      Throttled (spacing secs * 1000000000) bs ∧
      ((∀ b ∈ bs, b.seen.Valid) → bs.Pairwise (fun a b => a.seen ≤ b.seen) →
        (told bs).Pairwise (Apart (spacing secs))) := by
  obtain ⟨bs, result, u, hperform, hchronicle, htells⟩ :=
    rounds_chronicle abandon name w.patience 0 (.start p) (.new w.logInterval) s
  have huntil : (untilStopped abandon name p op).perform w s = (result, u) := hperform
  rw [hinterval] at htells
  have hthrottled := throttled_of_tells htells
  rw [nanos_orElse_ofSecs] at hthrottled
  refine ⟨bs, result, u, huntil, ?_, hchronicle, hthrottled, hthrottled.pairwise⟩
  rintro rfl
  obtain ⟨r, rfl⟩ := hchronicle.exists_map
  refine ⟨r, rfl, ?_⟩
  rw [Retry.run, Run.perform_bind, huntil]
  cases r <;> rfl

/-- Three failures that may be retried, then a success. -/
def fourth : Nat → Except Fault Nat
  | 0 | 1 | 2 => .error (.connectionFailed "down")
  | _ => .ok 7

/-- With an interval of three seconds, waits of one, two and four seconds leave the second failure to
debugging. -/
theorem retries_throttled_fourth :
    let w := { still with logInterval := .ofSecs 3, patience := 4 }
    ∃ bs u, (Retry.run "op" .waitForever (scripted fourth)).perform w .blank = (.ok 7, u) ∧
      Chronicle false w "op" (scripted fourth) 0 4 .blank bs (.ok (some 7)) u ∧
      Throttled (3 * 1000000000) bs ∧
      u.journal.lines .debug =
        [(.info, "op failed (Connection failed: down), retrying in 1s"),
          (.debug, "op attempt 2 failed (Connection failed: down), retrying in 2s"),
          (.info, "op failed (Connection failed: down), retrying in 4s"),
          (.info, "op succeeded after 4 attempts")] := by
  intro w
  have hresult : ((Retry.run "op" .waitForever (scripted fourth)).perform w .blank).1 = .ok 7 := rfl
  have hlines : ((Retry.run "op" .waitForever (scripted fourth)).perform w .blank).2.journal.lines
      .debug =
        [(.info, "op failed (Connection failed: down), retrying in 1s"),
          (.debug, "op attempt 2 failed (Connection failed: down), retrying in 2s"),
          (.info, "op failed (Connection failed: down), retrying in 4s"),
          (.info, "op succeeded after 4 attempts")] := by decide +kernel
  obtain ⟨bs, result, u, -, hrun, hchronicle, hthrottled, -⟩ :=
    retries_throttled (w := w) rfl false "op" .waitForever (scripted fourth) .blank
  obtain ⟨r, rfl, hperform⟩ := hrun rfl
  rw [hperform] at hresult hlines
  obtain rfl : r = .ok 7 := hresult
  exact ⟨bs, u, hperform, hchronicle, hthrottled, hlines⟩

/-- An interval that no instant can take, some 292 million years, is taken for none: every failure is
noted as information, in a run of seven seconds. -/
theorem longInterval_unthrottled :
    let w := { still with logInterval := .ofSecs 9223372036854776, patience := 4 }
    let u := ((Retry.run "op" .waitForever (scripted fourth)).perform w .blank).2
    u.journal.lines .info =
        [(.info, "op failed (Connection failed: down), retrying in 1s"),
          (.info, "op failed (Connection failed: down), retrying in 2s"),
          (.info, "op failed (Connection failed: down), retrying in 4s"),
          (.info, "op succeeded after 4 attempts")] ∧
      u.now.nanosSince .epoch = 7 * 1000000000 ∧ Span.ofSecs 7 < w.logInterval := by
  decide +kernel

end Retry
end RecordingHarvest
