/-!
# The journal of a run

Log lines and counter increments in the order they happened, newest first in memory.  Totals and
the lines of a level are views of that one list.
-/

namespace RecordingHarvest

/-- How severe a log line is. -/
inductive Level where
  | error
  | warn
  | info
  | debug
  deriving DecidableEq, Repr, Inhabited

namespace Level

/-- Zero for the most severe level. -/
def rank : Level → Nat
  | error => 0
  | warn => 1
  | info => 2
  | debug => 3

/-- The name in front of a line. -/
def name : Level → String
  | error => "ERROR"
  | warn => "WARN"
  | info => "INFO"
  | debug => "DEBUG"

/-- The levels, the most severe first. -/
def all : List Level := [error, warn, info, debug]

/-- The level of a name in lower case. -/
def ofName? (s : String) : Option Level := all.find? fun l => l.name.toLower == s

end Level

/-- The metric counters. -/
inductive Counter where
  /-- Snapshots produced by a session. -/
  | snapshots
  /-- Events accepted by the watermark filter. -/
  | eventsForwarded
  /-- Events dropped as seen before. -/
  | eventsDropped
  /-- Events or summary windows lost to a capability. -/
  | conversionErrors
  /-- Batches that the backend accepted. -/
  | batchesSent
  /-- Sessions replaced after a snapshot fault. -/
  | reconnects
  deriving DecidableEq, Repr, Inhabited

namespace Counter

/-- The name a counter is published under. -/
def name : Counter → String
  | snapshots => "harvest_snapshots_total"
  | eventsForwarded => "harvest_events_forwarded_total"
  | eventsDropped => "harvest_events_dropped_total"
  | conversionErrors => "harvest_conversion_errors_total"
  | batchesSent => "harvest_batches_sent_total"
  | reconnects => "harvest_reconnects_total"

/-- Every counter. -/
def all : List Counter :=
  [snapshots, eventsForwarded, eventsDropped, conversionErrors, batchesSent, reconnects]

end Counter

/-- One thing written to the journal. -/
inductive Entry where
  | line (level : Level) (text : String)
  | count (counter : Counter) (n : Nat)
  deriving DecidableEq, Repr

/-- The entries of a run, the newest first. -/
structure Journal where
  newestFirst : List Entry
  deriving DecidableEq, Repr, Inhabited

namespace Journal

def empty : Journal := ⟨[]⟩

/-- Adds an entry. -/
def add (j : Journal) (e : Entry) : Journal := ⟨e :: j.newestFirst⟩

/-- The entries in the order they happened. -/
def entries (j : Journal) : List Entry := j.newestFirst.reverse

@[simp] theorem entries_add (j : Journal) (e : Entry) : (j.add e).entries = j.entries ++ [e] := by
  simp [entries, add]

/-- The increments of a counter. -/
def increments (j : Journal) (c : Counter) : List Nat :=
  j.entries.filterMap fun
    | .count d n => if d = c then some n else none
    | .line .. => none

/-- The total of a counter. -/
def total (j : Journal) (c : Counter) : Nat := (j.increments c).foldr (· + ·) 0

/-- The counters that were incremented, be it by nothing, with their totals. -/
def totals (j : Journal) : List (Counter × Nat) :=
  (Counter.all.filter fun c => !(j.increments c).isEmpty).map fun c => (c, j.total c)

/-- The lines of a level and the more severe ones. -/
def lines (j : Journal) (level : Level) : List (Level × String) :=
  j.entries.filterMap fun
    | .line l text => if l.rank ≤ level.rank then some (l, text) else none
    | .count .. => none

end Journal

/-- A computation that writes to the journal. -/
abbrev Noting := StateM Journal

/-- Writes a log line. -/
def note (level : Level) (text : String) : Noting Unit := modify (·.add (.line level text))

/-- Increments a counter. -/
def count (counter : Counter) (n : Nat) : Noting Unit := modify (·.add (.count counter n))

end RecordingHarvest
