import RecordingHarvest.Number.Digits

/-!
# Spans of time

A span is a count of nanoseconds.  It is written in the largest unit that leaves a whole part of
at least one (`Span.text`), and a time difference that arithmetic on instants can take is bounded
(`Span.longest`).
-/

namespace RecordingHarvest

/-- A length of time in nanoseconds. -/
structure Span where
  nanos : Nat
  deriving DecidableEq, Repr, Inhabited

namespace Span

/-- Whole seconds and nanoseconds below one second. -/
def ofParts (secs nanos : Nat) : Span := ⟨secs * 1000000000 + nanos⟩

def ofSecs (secs : Nat) : Span := ofParts secs 0

def ofMillis (millis : Nat) : Span := ⟨millis * 1000000⟩

def zero : Span := ⟨0⟩

/-- Whole seconds. -/
def secs (s : Span) : Nat := s.nanos / 1000000000

/-- Nanoseconds beyond the whole seconds. -/
def subsec (s : Span) : Nat := s.nanos % 1000000000

instance : LE Span := ⟨fun a b => a.nanos ≤ b.nanos⟩
instance : LT Span := ⟨fun a b => a.nanos < b.nanos⟩
instance (a b : Span) : Decidable (a ≤ b) := inferInstanceAs (Decidable (a.nanos ≤ b.nanos))
instance (a b : Span) : Decidable (a < b) := inferInstanceAs (Decidable (a.nanos < b.nanos))

/-- The shorter of two spans. -/
def least (a b : Span) : Span := ⟨min a.nanos b.nanos⟩

/-- A span laid end to end `n` times. -/
def times (s : Span) (n : Nat) : Span := ⟨s.nanos * n⟩

/-- The longest span that can be added to an instant: 2^63 - 1 milliseconds. -/
def longest : Span := ⟨(Number.width63 - 1) * 1000000⟩

/-- The span itself if an instant can take it, otherwise the given stand-in. -/
def orElse (s standIn : Span) : Span := if s ≤ longest then s else standIn

/-- A fraction in `width` places with its trailing zeros dropped, point included. -/
def fractionText (width n : Nat) : List Char :=
  let ds := ((Number.padded width n).reverse.dropWhile (· == '0')).reverse
  if ds.isEmpty then [] else '.' :: ds

/-- The largest of `s`, `ms`, `µs`, `ns` with a whole part of at least one, decimals without
trailing zeros: `1s`, `1.5s`, `500ms`, `1.5µs`, `0ns`. -/
def text (s : Span) : String :=
  let n := s.nanos
  let inUnit (unit places : Nat) (name : String) : String :=
    String.ofList (Number.digits (n / unit) ++ fractionText places (n % unit)) ++ name
  if 1000000000 ≤ n then inUnit 1000000000 9 "s"
  else if 1000000 ≤ n then inUnit 1000000 6 "ms"
  else if 1000 ≤ n then inUnit 1000 3 "µs"
  else inUnit 1 0 "ns"

end Span
end RecordingHarvest
