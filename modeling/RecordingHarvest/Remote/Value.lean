import RecordingHarvest.Fault
import RecordingHarvest.Json.Value

/-!
# Management values

What the target's management operations take and give: whole numbers of 64 bits, truth values,
texts, bytes, and tables of texts by name.
-/

namespace RecordingHarvest
namespace Remote

/-- An argument or result of a management operation. -/
inductive Value where
  | long (n : Int)
  | bool (b : Bool)
  | text (s : String)
  | bytes (bs : List UInt8)
  /-- Texts by name, sorted, each name once. -/
  | table (entries : Members String)
  deriving DecidableEq, Repr, Inhabited

namespace Value

/-- The word for a value's kind. -/
def kindName : Value → String
  | long _ => "long"
  | bool _ => "bool"
  | text _ => "text"
  | bytes _ => "bytes"
  | table _ => "table"

/-- A table with the entries, the last of two equal names kept. -/
def tableOf (entries : List (String × String)) : Value := .table (Members.ofEntries entries)

/-- The word for the kind of a result that may be missing. -/
def describe : Option Value → String
  | some v => v.kindName
  | none => "null"

end Value

/-- One call of an operation on a management object. -/
structure Invocation where
  target : String
  operation : String
  arguments : List Value
  deriving DecidableEq, Repr

/-- What a call gives: a result that may be missing, or a fault. -/
abbrev Answer := Except Fault (Option Value)

end Remote
end RecordingHarvest
