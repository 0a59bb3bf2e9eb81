import RecordingHarvest.Number.Digits
import RecordingHarvest.Remote.Field
import RecordingHarvest.Remote.Value
import RecordingHarvest.Text.Utf8

/-!
# Messages

The requests and responses of the management channel, and the values in them.  A plain text is
left out when it is empty, while the one member of a value is always written, so that zero, false, the
empty text, the empty block and the empty table stay apart from each other and from no value at all.

Readers skip unknown fields.  Of several members of a value the last wins, save that a table
goes on with the table it follows; of two entries of one key the last wins.
-/

namespace RecordingHarvest
namespace Remote

/-- A request as it goes over the wire; an argument may be no value. -/
structure Request where
  target : String
  operation : String
  arguments : List (Option Value)
  deriving DecidableEq, Repr

/-- A response: no result at all, a result that is no value, or a value. -/
structure Response where
  result : Option (Option Value)
  deriving DecidableEq, Repr

/-- The request for a call. -/
def Request.ofInvocation (call : Invocation) : Request :=
  ⟨call.target, call.operation, call.arguments.map some⟩

/-- The value that a response gives, if any. -/
def Response.value? (r : Response) : Option Value := r.result.join

namespace Message

/-! ## Writing -/

/-- A plain text field. -/
def writePlain (number : Nat) (s : String) : List UInt8 :=
  if s.isEmpty then [] else Field.writeBlock number (Text.bytesOf s)

/-- One entry of a table. -/
def writeEntry (entry : String × String) : List UInt8 :=
  Field.writeBlock 1 (writePlain 1 entry.1 ++ writePlain 2 entry.2)

/-- The entries of a table, in the order given. -/
def writeTable (entries : List (String × String)) : List UInt8 := entries.flatMap writeEntry

/-- The one member of a value. -/
def writeValue : Value → List UInt8
  | .long n => Field.writeNumber 1 (n % (Number.width64 : Int)).toNat
  | .bool b => Field.writeNumber 2 b.toNat
  | .text s => Field.writeBlock 3 (Text.bytesOf s)
  | .bytes bs => Field.writeBlock 4 bs
  | .table entries => Field.writeBlock 5 (writeTable entries)

/-- A value that may be missing. -/
def writeValue? (v : Option Value) : List UInt8 := (v.map writeValue).getD []

/-- A request. -/
def writeRequest (r : Request) : List UInt8 :=
  writePlain 1 r.target ++ writePlain 2 r.operation ++
    r.arguments.flatMap fun v => Field.writeBlock 3 (writeValue? v)

/-- A response. -/
def writeResponse (r : Response) : List UInt8 :=
  (r.result.map fun v => Field.writeBlock 1 (writeValue? v)).getD []

/-! ## Reading -/

/-- The text of a content. -/
def text? : Content → Option String
  | .block bytes => (Text.decode? bytes).map String.ofList
  | _ => none

/-- The block of a content. -/
def block? : Content → Option (List UInt8)
  | .block bytes => some bytes
  | _ => none

/-- The number of a content. -/
def number? : Content → Option Nat
  | .number n => some n
  | _ => none

/-- A number of 64 bits read with its sign. -/
def signed (n : Nat) : Int := if n < Number.width63 then n else (n : Int) - Number.width64

/-- An entry of a table; a part that is missing is empty. -/
def readPair? (bytes : List UInt8) : Option (String × String) := do
  (← fields? (fun _ => false) (nestingLimit - 3) bytes).foldlM (fun (key, value) f =>
    match f.number with
    | 1 => (text? f.content).map ((·, value))
    | 2 => (text? f.content).map ((key, ·))
    | _ => some (key, value)) ("", "")

/-- A table, read on from the entries so far. -/
def readTable? (soFar : Members String) (bytes : List UInt8) : Option (Members String) := do
  (← fields? (· == 1) (nestingLimit - 2) bytes).foldlM (fun entries f =>
    match f.number with
    | 1 => do
      let (key, value) ← readPair? (← block? f.content)
      return entries.put key value
    | _ => some entries) soFar

/-- The entries of a value that is a table, none otherwise. -/
def entriesOf : Option Value → Members String
  | some (.table entries) => entries
  | _ => []

/-- A value, read on from the member so far. -/
def readValue? (soFar : Option Value) (bytes : List UInt8) : Option (Option Value) := do
  (← fields? (fun _ => false) (nestingLimit - 1) bytes).foldlM (fun value f =>
    match f.number with
    | 1 => (number? f.content).map fun n => some (.long (signed n))
    | 2 => (number? f.content).map fun n => some (.bool (n != 0))
    | 3 => (text? f.content).map fun s => some (.text s)
    | 4 => (block? f.content).map fun bs => some (.bytes bs)
    | 5 => do return some (.table (← readTable? (entriesOf value) (← block? f.content)))
    | _ => some value) soFar

/-- The request, with one more field of it read. -/
def readField? (r : Request) (f : Field) : Option Request :=
  match f.number with
  | 1 => (text? f.content).map fun s => { r with target := s }
  | 2 => (text? f.content).map fun s => { r with operation := s }
  | 3 => do
    let v ← readValue? none (← block? f.content)
    return { r with arguments := r.arguments ++ [v] }
  | _ => some r

/-- A request. -/
def readRequest? (bytes : List UInt8) : Option Request := do
  (← fields? (fun _ => false) nestingLimit bytes).foldlM readField? ⟨"", "", []⟩

/-- A response. -/
def readResponse? (bytes : List UInt8) : Option Response := do
  (← fields? (fun _ => false) nestingLimit bytes).foldlM (fun r f =>
    match f.number with
    | 1 => do return ⟨some (← readValue? r.result.join (← block? f.content))⟩
    | _ => some r) ⟨none⟩

end Message
end Remote
end RecordingHarvest
