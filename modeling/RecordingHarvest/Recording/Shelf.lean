import RecordingHarvest.Fault
import RecordingHarvest.Journal

/-!
# The shelf of snapshots

Every snapshot lives in a directory of its own under one root, so that removing it can take the
directory along.  Directories are numbered in the order they are made and never share a name.
-/

namespace RecordingHarvest

/-- One snapshot directory and what is left of it. -/
structure Slot where
  content : List UInt8
  /-- Whether the snapshot file is there. -/
  file : Bool
  /-- Whether the directory is there. -/
  dir : Bool
  /-- Whether something else lies in the directory. -/
  extra : Bool
  deriving DecidableEq, Repr, Inhabited

/-- A snapshot, known by the number of its directory. -/
structure Snapshot where
  number : Nat
  deriving DecidableEq, Repr, Inhabited

/-- A step of deleting a snapshot. -/
inductive RemovalStep where
  | file
  | directory
  deriving DecidableEq, Repr

/-- The snapshot directories under a root. -/
structure Shelf where
  root : String
  /-- The name of a directory by its number. -/
  dirName : Nat → String
  /-- The name of the file in a directory by its number. -/
  fileName : Nat → String
  /-- The directories made so far. -/
  slots : List Slot
  /-- Whether something that is no directory stands in the root's place. -/
  blocked : Bool

namespace Shelf

/-- A shelf that holds nothing. -/
def new (root : String) (dirName fileName : Nat → String) : Shelf := ⟨root, dirName, fileName, [], false⟩

def dirPath (s : Shelf) (x : Snapshot) : String := s.root ++ "/" ++ s.dirName x.number

def filePath (s : Shelf) (x : Snapshot) : String := s.dirPath x ++ "/" ++ s.fileName x.number

/-- What is left of a snapshot; of one never made, nothing. -/
def slot (s : Shelf) (x : Snapshot) : Slot := (s.slots[x.number]?).getD ⟨[], false, false, false⟩

/-- Replaces what is left of a snapshot. -/
def set (s : Shelf) (x : Snapshot) (slot : Slot) : Shelf :=
  { s with slots := s.slots.set x.number slot }

/-- How many directories stand under the root. -/
def entries (s : Shelf) : Nat := (s.slots.filter (·.dir)).length

/-- Makes an empty directory. -/
def makeDirectory (s : Shelf) : Except Fault Snapshot × Shelf :=
  if s.blocked then (.error (.io "cannot make a directory"), s)
  else (.ok ⟨s.slots.length⟩, { s with slots := s.slots ++ [⟨[], false, true, false⟩] })

/-- Makes an empty file in a snapshot's directory, which must be there. -/
def makeFile (s : Shelf) (x : Snapshot) : Except Fault Unit × Shelf :=
  let slot := s.slot x
  if slot.dir then (.ok (), s.set x { slot with content := [], file := true })
  else (.error (.io "no such directory"), s)

/-- Makes a directory with an empty file in it. -/
def create (s : Shelf) : Except Fault Snapshot × Shelf :=
  match s.makeDirectory with
  | (.ok x, s) => ((s.makeFile x).1.map fun _ => x, (s.makeFile x).2)
  | (.error f, s) => (.error f, s)

/-- Adds bytes at the end of a snapshot's file. -/
def append (s : Shelf) (x : Snapshot) (bytes : List UInt8) : Except Fault Unit × Shelf :=
  let slot := s.slot x
  if slot.file then (.ok (), s.set x { slot with content := slot.content ++ bytes })
  else (.error (.io "no such file"), s)

/-- Replaces the bytes of a snapshot's file, if it is there. -/
def receive (s : Shelf) (x : Snapshot) (bytes : List UInt8) : Shelf :=
  let slot := s.slot x
  if slot.file then s.set x { slot with content := bytes } else s

/-- The bytes of a snapshot's file, if it is there. -/
def read? (s : Shelf) (x : Snapshot) : Option (List UInt8) :=
  let slot := s.slot x
  if slot.file then some slot.content else none

/-- Deletes the file, then the directory, which must be empty by then.  The disk may refuse a step
for reasons of its own. -/
def remove (s : Shelf) (x : Snapshot) (refused : Option RemovalStep := none) :
    Except Fault Unit × Shelf :=
  let slot := s.slot x
  if !slot.file || refused == some .file then (.error (.cleanupFailed (s.filePath x)), s)
  else
    let s := s.set x { slot with file := false }
    if slot.extra || !slot.dir || refused == some .directory then
      (.error (.cleanupFailed (s.dirPath x)), s)
    else (.ok (), s.set x { slot with file := false, dir := false })

/-- Takes a directory away with everything in it. -/
def clear (s : Shelf) (x : Snapshot) : Shelf :=
  s.set x { s.slot x with file := false, dir := false, extra := false }

/-- Deletes a directory with everything in it; a failure is only noted. -/
def discard (s : Shelf) (x : Snapshot) : Noting Shelf := do
  if (s.slot x).dir then return s.clear x
  else
    note .warn ("Unable to remove " ++ s.dirPath x)
    return s

end Shelf
end RecordingHarvest
