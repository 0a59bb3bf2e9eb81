import RecordingHarvest.Number.Digits
import RecordingHarvest.Time.Span

/-!
# Exponential backoff

The waits of a schedule double from a factor up to a cap.  A bounded schedule ends after a number
of waits; an unbounded one keeps giving the cap.  With a jitter, chance may change each wait, but
never past the cap.
-/

namespace RecordingHarvest

/-- The shape of a retry schedule. -/
structure BackoffPolicy where
  /-- The first wait. -/
  factor : Span
  /-- The longest wait. -/
  cap : Span
  /-- How many waits there are, if not forever. -/
  retries : Option Nat
  /-- The part of each wait that chance may add or take. -/
  jitter : Float
  deriving Repr

namespace BackoffPolicy

/-- A schedule without jitter. -/
def new (factor cap : Span) (retries : Option Nat) : BackoffPolicy := ⟨factor, cap, retries, 0.0⟩

/-- The jitter brought between nothing and the whole wait. -/
def withJitter (p : BackoffPolicy) (jitter : Float) : BackoffPolicy :=
  { p with jitter := if jitter < 0.0 then 0.0 else if 1.0 < jitter then 1.0 else jitter }

/-- One second doubling up to fifteen, forever. -/
def waitForever : BackoffPolicy := new (.ofSecs 1) (.ofSecs 15) none

/-- One second doubling up to fifteen, five times. -/
def bounded : BackoffPolicy := new (.ofSecs 1) (.ofSecs 15) (some 5)

def isUnbounded (p : BackoffPolicy) : Bool := p.retries.isNone

/-- The doublings after which a wait no longer grows. -/
def doublingLimit : Nat := 31

/-- The wait after `tries` waits, before chance comes in. -/
def wait (p : BackoffPolicy) (tries : Nat) : Span :=
  (p.factor.times (Nat.pow 2 (min tries doublingLimit))).least p.cap

/-- What chance makes of a wait: nothing without jitter, and never more than the cap. -/
def shaken (p : BackoffPolicy) (chance : Span → Span) (wait : Span) : Span :=
  if p.jitter ≤ 0.0 then wait else (chance wait).least p.cap

end BackoffPolicy

/-- The largest count of tries. -/
def tryLimit : Nat := Number.width32 - 1

/-- A running schedule: its policy and how many waits it has given. -/
structure Backoff where
  policy : BackoffPolicy
  tries : Nat
  deriving Repr

namespace Backoff

/-- A schedule that has given no wait yet. -/
def start (p : BackoffPolicy) : Backoff := ⟨p, 0⟩

/-- Whether a bounded schedule has given all its waits. -/
def exhausted (b : Backoff) : Bool :=
  match b.policy.retries with
  | some n => n ≤ b.tries
  | none => false

/-- The next wait with the schedule after it, or nothing when all waits were given. -/
def next (chance : Span → Span) (b : Backoff) : Option (Span × Backoff) :=
  if b.exhausted then none
  else some (b.policy.shaken chance (b.policy.wait b.tries), { b with tries := min (b.tries + 1) tryLimit })

/-- The first `n` waits that a schedule gives; one that has none left gives nothing from there on. -/
def waits (chance : Span → Span) : Nat → Backoff → List (Option Span)
  | 0, _ => []
  | n + 1, b =>
    match b.next chance with
    | some (wait, b) => some wait :: waits chance n b
    | none => none :: waits chance n b

end Backoff
end RecordingHarvest
