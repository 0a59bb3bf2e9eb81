import RecordingHarvest.Site

/-!
# The target's management objects

Two objects of the target are used over a connection: the flight recorder, which controls
recordings, and the linking metadata of an agent inside the target.  Each operation checks that
its result is of the expected kind.
-/

namespace RecordingHarvest

open Remote (Invocation Value)

/-- How a remote recording is kept. -/
structure RecordingOptions where
  name : String
  toDisk : Bool
  maxAge : Span
  deriving DecidableEq, Repr

/-- The options of a recording that the target keeps on disk. -/
def RecordingOptions.onDisk (name : String) (maxAge : Span) : RecordingOptions :=
  ⟨name, true, maxAge⟩

/-- The options as a table of texts; the age is in whole seconds. -/
def RecordingOptions.toValue (o : RecordingOptions) : Value :=
  .tableOf [("name", o.name), ("disk", if o.toDisk then "true" else "false"),
    ("maxAge", Number.naturalText o.maxAge.secs ++ "s")]

/-- The fault of a result of another kind than expected. -/
def shapeFault (operation expected : String) (actual : Option Value) : Fault :=
  .protocolShape operation expected (Value.describe actual)

namespace Recorder

/-- The object that controls recordings. -/
def object : String := "jdk.management.jfr:type=FlightRecorder"

/-- Calls an operation of the flight recorder. -/
def call (connection : Nat) (operation : String) (arguments : List Value) : Run (Option Value) := do
  Run.note .debug ("Invoking " ++ operation ++ " with " ++
    Number.naturalText arguments.length ++ " argument(s)")
  Run.invoke connection ⟨object, operation, arguments⟩

/-- The whole number that an operation must give. -/
def expectLong (operation : String) : Option Value → Except Fault Int
  | some (.long id) => .ok id
  | other => .error (shapeFault operation "long" other)

/-- The bytes that an operation must give, or nothing. -/
def expectBytes (operation : String) : Option Value → Except Fault (Option (List UInt8))
  | none => .ok none
  | some (.bytes bs) => .ok (some bs)
  | other => .error (shapeFault operation "bytes" other)

/-- Calls an operation that gives an id. -/
def callLong (connection : Nat) (operation : String) (arguments : List Value) : Run Int := do
  Run.ofExcept (expectLong operation (← call connection operation arguments))

/-- Calls an operation whose result does not matter. -/
def callUnit (connection : Nat) (operation : String) (arguments : List Value) : Run Unit := do
  let _ ← call connection operation arguments

/-- Creates a recording; gives its id. -/
def newRecording (connection : Nat) : Run Int := callLong connection "newRecording" []

/-- Applies one of the target's predefined configurations. -/
def setPredefinedConfiguration (connection : Nat) (id : Int) (configuration : String) : Run Unit :=
  callUnit connection "setPredefinedConfiguration" [.long id, .text configuration]

def setRecordingOptions (connection : Nat) (id : Int) (options : RecordingOptions) : Run Unit :=
  callUnit connection "setRecordingOptions" [.long id, options.toValue]

def startRecording (connection : Nat) (id : Int) : Run Unit :=
  callUnit connection "startRecording" [.long id]

/-- Clones a running recording, which goes on; gives the clone's id. -/
def cloneRecording (connection : Nat) (id : Int) : Run Int :=
  callLong connection "cloneRecording" [.long id, .bool true]

/-- Opens a stream of blocks over a recording; gives the stream's id. -/
def openStream (connection : Nat) (id : Int) (blockSize : Nat) : Run Int :=
  callLong connection "openStream"
    [.long id, .tableOf [("blockSize", Number.naturalText blockSize)]]

/-- The next block of a stream; nothing marks its end. -/
def readStream (connection : Nat) (stream : Int) : Run (Option (List UInt8)) := do
  Run.ofExcept (expectBytes "readStream" (← call connection "readStream" [.long stream]))

def closeStream (connection : Nat) (stream : Int) : Run Unit :=
  callUnit connection "closeStream" [.long stream]

/-- Has the target write a recording to a path on its own file system. -/
def copyTo (connection : Nat) (id : Int) (path : String) : Run Unit :=
  callUnit connection "copyTo" [.long id, .text path]

def closeRecording (connection : Nat) (id : Int) : Run Unit :=
  callUnit connection "closeRecording" [.long id]

end Recorder

namespace LinkingMetadata

/-- The object that an agent inside the target publishes. -/
def object : String := "com.newrelic.jfr:type=LinkingMetadata"

/-- The operation that gives the metadata. -/
def operation : String := "readLinkingMetadata"

/-- The key of the entity guid in the metadata. -/
def guidKey : String := "entity.guid"

/-- The table that an operation must give. -/
def expectTable (operation : String) : Option Value → Except Fault (Members String)
  | some (.table entries) => .ok entries
  | other => .error (shapeFault operation "table" other)

/-- Reads the metadata. -/
def read (connection : Nat) : Run (Members String) := do
  Run.ofExcept (expectTable operation (← Run.invoke connection ⟨object, operation, []⟩))

/-- Reads the entity guid, if the agent has one yet. -/
def entityGuid (connection : Nat) : Run (Option String) := do
  return (← read connection).get? guidKey

end LinkingMetadata
end RecordingHarvest
