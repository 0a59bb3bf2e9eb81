import RecordingHarvest.Journal
import RecordingHarvest.Time.Instant

/-!
# When to flush

A flush is due when more than a threshold of records is buffered, or when more than a span has
passed since the last flush.  The last flush starts at the epoch, so the first look usually finds
one due.  Looking changes nothing; a flush is recorded once it has happened.
-/

namespace RecordingHarvest

/-- The limits of a flush schedule and the time of the last flush. -/
structure FlushSchedule where
  maxElapsed : Span
  threshold : Nat
  lastFlush : Instant
  deriving DecidableEq, Repr, Inhabited

namespace FlushSchedule

/-- One hundred years of 365 days, for a span that no instant can take. -/
def centuryOfDays : Span := Span.ofSecs (36500 * 86400)

/-- A schedule that has not flushed yet. -/
def new (maxElapsed : Span) (threshold : Nat) : FlushSchedule :=
  ⟨maxElapsed.orElse centuryOfDays, threshold, Instant.epoch⟩

/-- When time alone makes a flush due; nothing if that lies beyond every instant. -/
def deadline? (s : FlushSchedule) : Option Instant := s.lastFlush.add? s.maxElapsed

/-- Whether the deadline has passed. -/
def overdue (s : FlushSchedule) (now : Instant) : Bool :=
  match s.deadline? with
  | some deadline => deadline < now
  | none => false

/-- Whether more is buffered than the threshold allows. -/
def overfull (s : FlushSchedule) (buffered : Nat) : Bool := s.threshold < buffered

/-- Whether a flush is due. -/
def isDue (s : FlushSchedule) (now : Instant) (buffered : Nat) : Bool :=
  s.overfull buffered || s.overdue now

/-- Whether a flush is due, with a line about it when the records alone make it so. -/
def ready (s : FlushSchedule) (now : Instant) (buffered : Nat) : Noting Bool := do
  if s.overfull buffered then
    note .debug ("Flush ready: " ++ Number.naturalText buffered ++ " records buffered")
  return s.isDue now buffered

/-- The schedule after a flush that happened now. -/
def flushed (s : FlushSchedule) (now : Instant) : FlushSchedule := { s with lastFlush := now }

end FlushSchedule
end RecordingHarvest
