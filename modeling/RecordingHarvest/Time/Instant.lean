import RecordingHarvest.Time.Calendar
import RecordingHarvest.Time.Span

/-!
# Instants

A moment in universal time, in seconds from 1970-01-01T00:00:00 with nanoseconds counted upward.
From one thousand million on the nanoseconds count a leap second, which shows as second 60.
Instants are ordered by seconds and then nanoseconds, and span the years -262143 to 262142.
-/

namespace RecordingHarvest

/-- A moment in universal time. -/
structure Instant where
  secs : Int
  nanos : Nat
  deriving DecidableEq, Repr, Inhabited

namespace Instant

/-- 1970-01-01T00:00:00. -/
def epoch : Instant := ⟨0, 0⟩

/-- The first second of the year -262143. -/
def firstSecs : Int := -8334601228800

/-- The last second of the year 262142. -/
def lastSecs : Int := 8210266876799

/-- An instant that can be represented: in range, and a leap second only at the end of a
minute. -/
def Valid (t : Instant) : Prop :=
  firstSecs ≤ t.secs ∧ t.secs ≤ lastSecs ∧
    (t.nanos < 1000000000 ∨ (t.nanos < 2000000000 ∧ t.secs % 60 = 59))

instance (t : Instant) : Decidable t.Valid := by unfold Valid; infer_instance

instance : LT Instant := ⟨fun a b => a.secs < b.secs ∨ (a.secs = b.secs ∧ a.nanos < b.nanos)⟩
instance : LE Instant := ⟨fun a b => ¬ b < a⟩
instance (a b : Instant) : Decidable (a < b) :=
  inferInstanceAs (Decidable (a.secs < b.secs ∨ (a.secs = b.secs ∧ a.nanos < b.nanos)))
instance (a b : Instant) : Decidable (a ≤ b) := inferInstanceAs (Decidable (¬ b < a))

/-- The later of two instants. -/
def latest (a b : Instant) : Instant := if a < b then b else a

/-- In a leap second. -/
def isLeap (t : Instant) : Bool := 1000000000 ≤ t.nanos

/-- Seconds since midnight. -/
def timeOfDay (t : Instant) : Int := t.secs % 86400

/-- The instant a span later, or nothing past the last representable second.  A span that ends
within the same leap second stays in it; one that leaves it counts the leap second as an ordinary
one. -/
def add? (t : Instant) (s : Span) : Option Instant :=
  let later : Instant :=
    if t.isLeap && s.secs == 0 && t.nanos + s.subsec < 2000000000 then
      ⟨t.secs, t.nanos + s.subsec⟩
    else
      let total := (if t.isLeap then t.nanos - 1000000000 else t.nanos) + s.subsec
      ⟨t.secs + (s.secs + total / 1000000000 : Nat), total % 1000000000⟩
  if later.secs ≤ lastSecs then some later else none

/-- The instant a span later; a span that no instant can take, or that leads out of range, leaves
the instant as it is. -/
def advance (t : Instant) (s : Span) : Instant :=
  if s ≤ Span.longest then (t.add? s).getD t else t

/-- Nanoseconds from `b` to `a`, a leap second between them counted. -/
def nanosSince (a b : Instant) : Int :=
  let adjust : Int :=
    if b.timeOfDay < a.timeOfDay then (if b.isLeap then 1 else 0)
    else if a.timeOfDay < b.timeOfDay then (if a.isLeap then -1 else 0)
    else 0
  (a.secs - b.secs + adjust) * 1000000000 + ((a.nanos : Int) - (b.nanos : Int))

/-- Milliseconds since the epoch, rounded toward the past. -/
def millis (t : Instant) : Int := t.secs * 1000 + (t.nanos / 1000000 : Nat)

/-- The decimals of a second: none, or three, six or nine. -/
def fractionText (nanos : Nat) : List Char :=
  if nanos = 0 then []
  else if nanos % 1000000 = 0 then '.' :: Number.padded 3 (nanos / 1000000)
  else if nanos % 1000 = 0 then '.' :: Number.padded 6 (nanos / 1000)
  else '.' :: Number.padded 9 nanos

/-- Hours, minutes and seconds with colons between them. -/
def clockText (t : Instant) : List Char :=
  let inDay := t.timeOfDay.toNat
  Number.padded 2 (inDay / 3600) ++ ':' :: Number.padded 2 (inDay / 60 % 60) ++
    ':' :: Number.padded 2 (inDay % 60 + t.nanos / 1000000000) ++
    fractionText (t.nanos % 1000000000)

/-- The date that holds the instant. -/
def date (t : Instant) : Date := Date.ofDayNumber (t.secs / 86400)

/-- The characters of `2024-02-29T12:00:00.500Z`. -/
def chars (t : Instant) : List Char := t.date.text ++ 'T' :: t.clockText ++ ['Z']

/-- The written form, as in `2024-02-29T12:00:00.500Z`. -/
def text (t : Instant) : String := String.ofList t.chars

/-- The form with blanks, as in `2024-02-29 12:00:00.500 UTC`. -/
def spacedText (t : Instant) : String :=
  String.ofList (t.date.text ++ ' ' :: t.clockText) ++ " UTC"

/-- An instant that may be missing: `Some(...)` or `None`. -/
def optionText : Option Instant → String
  | some t => "Some(" ++ t.text ++ ")"
  | none => "None"

end Instant
end RecordingHarvest
