import Mathlib.Algebra.Group.Nat.Defs
import RecordingHarvest.BackoffPolicy

/-!
# The waits of a schedule

The wait after `k` others is the factor doubled `k` times and brought under the cap
(`BackoffPolicy.doubled`), as long as there are at most `doublingLimit` doublings; from there on the
schedule keeps giving the wait of that last doubling.

* `waits_given`: the waits of a schedule that has given some, whatever chance makes of them.
* `wait_eq_doubled_iff`: which waits are the factor doubled without end.
* `reaches_cap_iff`: which schedules get to their cap.
* `waits_start`: a fresh schedule without jitter, wait by wait.
-/

namespace RecordingHarvest

namespace BackoffPolicy

variable (p : BackoffPolicy)

/-- The factor doubled `k` times, under the cap. -/
def doubled (k : Nat) : Span := (p.factor.times (2 ^ k)).least p.cap

/-- Whether there is a wait after `k` others. -/
def grants (k : Nat) : Bool :=
  match p.retries with
  | some n => k < n
  | none => true

/-- The bound on the waits, if there is one, is a number that tries can be counted up to. -/
def Counted : Prop := ∀ n, p.retries = some n → n ≤ tryLimit

theorem wait_eq_doubled (k : Nat) : p.wait k = p.doubled (min k doublingLimit) := rfl

/-- More tries than can be counted make no difference to a wait. -/
theorem wait_min_tryLimit (k : Nat) : p.wait (min k tryLimit) = p.wait k := by
  have hlimits : doublingLimit ≤ tryLimit := by decide
  rw [wait_eq_doubled, wait_eq_doubled, Nat.min_assoc, Nat.min_eq_right hlimits]

/-- A wait is the factor doubled without end exactly if there are few doublings, or the last of them
is beyond the cap, or there is nothing to double. -/
theorem wait_eq_doubled_iff (k : Nat) :
    p.wait k = p.doubled k ↔
      k ≤ doublingLimit ∨ p.cap ≤ p.factor.times (2 ^ doublingLimit) ∨ p.factor = .zero := by
  rw [wait_eq_doubled]
  rcases Nat.lt_or_ge doublingLimit k with hk | hk
  · rw [Nat.min_eq_right (Nat.le_of_lt hk)]
    constructor
    · intro heq
      rcases Nat.eq_zero_or_pos p.factor.nanos with hzero | hpos
      · exact .inr (.inr (congrArg Span.mk hzero))
      · refine .inr (.inl ?_)
        have hnanos := congrArg Span.nanos heq
        have hgrows : p.factor.nanos * 2 ^ doublingLimit < p.factor.nanos * 2 ^ k :=
          Nat.mul_lt_mul_of_pos_left (Nat.pow_lt_pow_right (by decide) hk) hpos
        show p.cap.nanos ≤ p.factor.nanos * 2 ^ doublingLimit
        simp only [doubled, Span.least, Span.times] at hnanos
        omega
    · rintro (hlow | hcap | hzero)
      · exact absurd hlow (Nat.not_le.2 hk)
      · have hmore : p.factor.nanos * 2 ^ doublingLimit ≤ p.factor.nanos * 2 ^ k :=
          Nat.mul_le_mul_left _ (Nat.pow_le_pow_right (by decide) (Nat.le_of_lt hk))
        have hcap' : p.cap.nanos ≤ p.factor.nanos * 2 ^ doublingLimit := hcap
        simp only [doubled, Span.least, Span.times, Nat.min_eq_right hcap',
          Nat.min_eq_right (Nat.le_trans hcap' hmore)]
      · simp only [doubled, hzero, Span.times, Span.zero, Nat.zero_mul]
  · rw [Nat.min_eq_left hk]
    exact iff_of_true rfl (.inl hk)

/-- **A schedule gets to its cap and stays there** exactly if the cap is within the doublings. -/
theorem reaches_cap_iff :
    (∃ k₀, ∀ k, k₀ ≤ k → p.wait k = p.cap) ↔ p.cap ≤ p.factor.times (2 ^ doublingLimit) := by
  have hlast : ∀ k, doublingLimit ≤ k → p.wait k = p.doubled doublingLimit := fun k hk => by
    rw [wait_eq_doubled, Nat.min_eq_right hk]
  constructor
  · rintro ⟨k₀, hreached⟩
    have hcap := (hlast _ (Nat.le_max_right k₀ _)).symm.trans (hreached _ (Nat.le_max_left k₀ _))
    have hnanos := congrArg Span.nanos hcap
    show p.cap.nanos ≤ (p.factor.times (2 ^ doublingLimit)).nanos
    simp only [doubled, Span.least] at hnanos
    omega
  · intro hcap
    refine ⟨doublingLimit, fun k hk => ?_⟩
    rw [hlast k hk]
    exact congrArg Span.mk (Nat.min_eq_right hcap)

end BackoffPolicy

namespace Backoff

open BackoffPolicy (doublingLimit)

variable {p : BackoffPolicy}

/-- A schedule that has given `k` waits. -/
def given (p : BackoffPolicy) (k : Nat) : Backoff := ⟨p, min k tryLimit⟩

theorem given_zero (p : BackoffPolicy) : given p 0 = start p := rfl

theorem exhausted_given (h : p.Counted) (k : Nat) : (given p k).exhausted = !p.grants k := by
  unfold exhausted BackoffPolicy.grants given
  cases hretries : p.retries with
  | none => rfl
  | some n =>
      have hn := h n hretries
      simp only [Nat.le_min, hn, and_true]
      by_cases hk : k < n
      · simp [hk, Nat.not_le.2 hk]
      · simp [hk, Nat.not_lt.1 hk]

/-- One call of a schedule that has given `k` waits. -/
theorem next_given (h : p.Counted) (chance : Span → Span) (k : Nat) :
    (given p k).next chance =
      if p.grants k then some (p.shaken chance (p.wait k), given p (k + 1)) else none := by
  have hcount : min (min k tryLimit + 1) tryLimit = min (k + 1) tryLimit := by omega
  unfold next
  rw [exhausted_given h]
  cases p.grants k with
  | false => rfl
  | true => simp [given, p.wait_min_tryLimit, hcount]

/-- Once a schedule has no wait left it has none any more. -/
theorem grants_of_le {j k : Nat} (h : j ≤ k) (hj : p.grants j = false) : p.grants k = false := by
  unfold BackoffPolicy.grants at hj ⊢
  cases hretries : p.retries with
  | none => rw [hretries] at hj; exact absurd hj.symm Bool.false_ne_true
  | some n =>
      rw [hretries] at hj
      simp only [decide_eq_false_iff_not, Nat.not_lt] at hj ⊢
      exact Nat.le_trans hj h

/-- A schedule that gives nothing goes on giving nothing. -/
theorem waits_of_next {b : Backoff} {chance : Span → Span} (h : b.next chance = none) (n : Nat) :
    b.waits chance n = List.replicate n none := by
  induction n with
  | zero => rfl
  | succ n ih => rw [waits, h, List.replicate_succ]; exact congrArg _ ih

/-- **The waits of a schedule**, whatever chance makes of them: as long as the policy grants any,
and nothing from there on. -/
theorem waits_given (h : p.Counted) (chance : Span → Span) (n k : Nat) :
    (given p k).waits chance n = (List.range' k n).map fun i =>
      if p.grants i then some (p.shaken chance (p.wait i)) else none := by
  induction n generalizing k with
  | zero => rfl
  | succ n ih =>
      have hnext := next_given h chance k
      rw [List.range'_succ, List.map_cons]
      cases hgrants : p.grants k with
      | true =>
          rw [hgrants, if_pos rfl] at hnext
          rw [waits, hnext, if_pos rfl]
          exact congrArg _ (ih (k + 1))
      | false =>
          rw [hgrants, if_neg Bool.false_ne_true] at hnext
          rw [waits_of_next hnext, if_neg Bool.false_ne_true, List.replicate_succ]
          refine congrArg _ (Eq.symm (List.eq_replicate_iff.2 ⟨by simp, ?_⟩))
          intro wait hwait
          obtain ⟨i, hi, rfl⟩ := List.mem_map.1 hwait
          have hlate : k ≤ i := Nat.le_trans (Nat.le_succ k) (List.mem_range'_1.1 hi).1
          rw [grants_of_le hlate hgrants, if_neg Bool.false_ne_true]

/-- **A fresh schedule without jitter, wait by wait.**  As long as the policy grants waits, the wait
after `k` others is the factor doubled `k` times, under the cap, where `k` counts no further than
`doublingLimit`; then there are no more waits.

So the waits are the factor doubled without end exactly for the first `doublingLimit + 1` of them, or
if the last doubling is beyond the cap, or if the factor is nothing; and a schedule without bound
gets to its cap, and stays there, exactly if the last doubling does. -/
theorem waits_start (hjitter : p.jitter ≤ 0.0) (h : p.Counted) (chance : Span → Span) (n : Nat) :
    ((start p).waits chance n = (List.range n).map fun k =>
      if p.grants k then some (p.doubled (min k doublingLimit)) else none) ∧
    (∀ k, p.doubled (min k doublingLimit) = p.doubled k ↔
      k ≤ doublingLimit ∨ p.cap ≤ p.factor.times (2 ^ doublingLimit) ∨ p.factor = .zero) ∧
    ((∃ k₀, ∀ k, k₀ ≤ k → p.doubled (min k doublingLimit) = p.cap) ↔
      p.cap ≤ p.factor.times (2 ^ doublingLimit)) := by
  refine ⟨?_, p.wait_eq_doubled_iff, p.reaches_cap_iff⟩
  rw [← given_zero, waits_given h, List.range_eq_range']
  simp only [BackoffPolicy.shaken, hjitter, if_true, BackoffPolicy.wait_eq_doubled]

/-- One millisecond, doubled under a cap of thirty-five days, forty times. -/
def crawling : BackoffPolicy := .new (.ofMillis 1) (.ofSecs 3024000) (some 40)

/-- The last doubling is short of the cap: the waits stop growing at not quite twenty-five days, and
end behind the fortieth. -/
theorem waits_start_crawling :
    let waits := (start crawling).waits id 42
    waits[31]? = some (some (.ofMillis 2147483648)) ∧
      waits[32]? = some (some (.ofMillis 2147483648)) ∧ waits[40]? = some none := by
  intro waits
  have hjitter : crawling.jitter ≤ 0.0 := by decide
  have hcounted : crawling.Counted := by
    intro n hn
    obtain rfl := Option.some.inj hn
    decide
  obtain ⟨hwaits, -, -⟩ := waits_start hjitter hcounted id 42
  simp only [waits, hwaits]
  decide

/-- **Doubling stops short of the cap.**  From one millisecond on, the thirty-third wait of a schedule
without bound is not quite twenty-five days, though one more doubling would be beyond the cap of
thirty-five days; and the schedule never gets to its cap. -/
theorem doubling_stops :
    let p : BackoffPolicy := .new (.ofMillis 1) (.ofSecs 3024000) none
    ((start p).waits id 33)[32]? = some (some (.ofMillis 2147483648)) ∧
      p.doubled 32 = .ofSecs 3024000 ∧ ¬ ∃ k₀, ∀ k, k₀ ≤ k → p.wait k = p.cap := by
  intro p
  refine ⟨by decide +kernel, by decide, ?_⟩
  rw [p.reaches_cap_iff]
  decide

end Backoff
end RecordingHarvest
