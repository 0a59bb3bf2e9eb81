import RecordingHarvest.Recording.Recorder

/-!
# Taking a snapshot

A snapshot is a clone of the running recording brought into a file of its own.  Its bytes are
streamed block by block, or the target copies them to a directory that both sides see.  The clone
is closed either way, and a snapshot that fails leaves nothing on the shelf.
-/

namespace RecordingHarvest

/-- How the bytes of a snapshot are brought over. -/
inductive CaptureMethod where
  /-- Reads the clone in blocks of the given size. -/
  | stream (blockSize : Nat)
  /-- Has the target write to the snapshot's path. -/
  | copy
  deriving DecidableEq, Repr

namespace Capture

open Number (naturalText integerText)

/-- Makes a directory of its own for a snapshot, with an empty file in it.  A directory that gets no
file does not stay. -/
def create : Run Snapshot := do
  let x ← Run.onShelf .directory Shelf.makeDirectory
  match ← Run.attempt (Run.onShelf .file (·.makeFile x)) with
  | .ok () => return x
  | .error f =>
    Run.clear x
    Run.fail f

/-- Reads blocks into a file until a missing or a short one; gives how many bytes there were. -/
def readBlocks (connection : Nat) (stream : Int) (blockSize : Nat) (x : Snapshot) :
    Nat → Nat → Run Nat
  | 0, _ => Run.giveUp
  | fuel + 1, total => do
    match ← Recorder.readStream connection stream with
    | none => return total
    | some block =>
      Run.onShelf (.writing block) (·.append x block)
      if block.length < blockSize then return total + block.length
      else readBlocks connection stream blockSize x fuel (total + block.length)

/-- Opens the file for writing, which must be there, and reads the stream's blocks into it. -/
def copyBlocks (connection : Nat) (stream : Int) (blockSize : Nat) (x : Snapshot) : Run Nat := do
  Run.onShelf .opening (·.append x [])
  let total ← readBlocks connection stream blockSize x (← read).patience 0
  Run.onShelf .flushing fun shelf => (.ok (), shelf)
  return total

/-- Streams a clone into a file.  The stream is closed whether or not that worked; of two faults
the first counts. -/
def streamClone (connection : Nat) (clone : Int) (blockSize : Nat) (x : Snapshot) : Run Unit := do
  let stream ← Recorder.openStream connection clone blockSize
  Run.note .debug ("Streaming recording " ++ integerText clone ++ " (stream " ++
    integerText stream ++ ")")
  let copied ← Run.attempt (copyBlocks connection stream blockSize x)
  let closed ← Run.attempt (Recorder.closeStream connection stream)
  let total ← Run.ofExcept copied
  Run.ofExcept closed
  Run.note .debug ("Streamed " ++ naturalText total ++ " bytes to " ++ (← get).shelf.filePath x)

/-- Has the target copy a clone to the file's path.  Whatever it answers, it may have written to the
file by then. -/
def copyClone (connection : Nat) (clone : Int) (x : Snapshot) : Run Unit := do
  let path := (← get).shelf.filePath x
  Run.note .debug ("Copying recording " ++ integerText clone ++ " to " ++ path)
  Run.receive x
  Recorder.copyTo connection clone path

/-- Brings a clone's bytes into a file. -/
def fetch (method : CaptureMethod) (connection : Nat) (clone : Int) (x : Snapshot) : Run Unit :=
  match method with
  | .stream blockSize => streamClone connection clone blockSize x
  | .copy => copyClone connection clone x

/-- Clones a recording, fetches the clone and closes it; of two faults the first counts. -/
def fetchCloned (method : CaptureMethod) (connection : Nat) (recording : Int) (x : Snapshot) :
    Run Unit := do
  let clone ← Recorder.cloneRecording connection recording
  let fetched ← Run.attempt (fetch method connection clone x)
  let closed ← Run.attempt (Recorder.closeRecording connection clone)
  Run.ofExcept fetched
  Run.ofExcept closed

/-- Takes a snapshot of a recording; after a fault nothing is left of it. -/
def take (method : CaptureMethod) (connection : Nat) (recording : Int) : Run Snapshot := do
  let x ← create
  match ← Run.attempt (fetchCloned method connection recording x) with
  | .ok () => return x
  | .error f =>
    Run.discard x
    Run.fail f

end Capture
end RecordingHarvest
