import RecordingHarvest.EventDocument
import RecordingHarvest.Text.Utf8

/-!
# Snapshot content

A snapshot holds one event document per line.  Blank lines are skipped; a line that is not UTF-8 or
not an event yields a fault with its number, and reading goes on after it (`readEvents`).  Carriage
returns need no care: both the blank test and the document reader pass over them.
-/

namespace RecordingHarvest
namespace SnapshotLines

/-- The lines of a content without their line feeds.  A last line without a line feed counts if it
holds anything. -/
def split : List UInt8 → List (List UInt8)
  | [] => []
  | b :: rest =>
    if b = 10 then [] :: split rest
    else
      match split rest with
      | [] => [[b]]
      | line :: lines => (b :: line) :: lines

/-- The fault of a snapshot that cannot be opened. -/
def openFault (path : String) : Fault := .decodeFailed ("Cannot open " ++ path)

/-- What one line yields: nothing if it is blank, otherwise its event or a fault that names it. -/
def readLine (number : Nat) (line : List UInt8) : Option (Except Fault Event) :=
  let fault := Fault.decodeFailed ("line " ++ Number.naturalText number)
  match Text.decode? line with
  | none => some (.error fault)
  | some cs =>
    if Text.allBlank cs then none
    else
      match Event.ofChars? cs with
      | some e => some (.ok e)
      | none => some (.error fault)

/-- What lines numbered from `first` yield. -/
def readLines (first : Nat) : List (List UInt8) → List (Except Fault Event)
  | [] => []
  | line :: lines => (readLine first line).toList ++ readLines (first + 1) lines

/-- What a content yields, line by line. -/
def readEvents (content : List UInt8) : List (Except Fault Event) := readLines 1 (split content)

end SnapshotLines
end RecordingHarvest
