import RecordingHarvest.Number.Digits
import RecordingHarvest.Remote.Varint

/-!
# Fields on the wire

A message is a sequence of fields.  Each opens with a key, which says the field's number and the kind
of its content: a number, eight or four bytes, a block whose length is written in front, or a group of
fields up to the matching end.  `fields?` reads a message into its fields, which a message's own reader
then picks from; groups are only ever skipped.
-/

namespace RecordingHarvest
namespace Remote

/-- What a field holds. -/
inductive Content where
  | number (n : Nat)
  | block (bytes : List UInt8)
  /-- Content of a kind that no message here has: fixed-width numbers and groups. -/
  | foreign
  deriving DecidableEq, Repr

/-- One field of a message. -/
structure Field where
  number : Nat
  content : Content
  deriving DecidableEq, Repr

/-- How deep groups and blocks may nest. -/
def nestingLimit : Nat := 100

namespace Field

/-! ## Writing -/

/-- A field that holds a number. -/
def writeNumber (number n : Nat) : List UInt8 := writeVarint (number * 8) ++ writeVarint n

/-- A field that holds a block. -/
def writeBlock (number : Nat) (bytes : List UInt8) : List UInt8 :=
  writeVarint (number * 8 + 2) ++ writeVarint bytes.length ++ bytes

/-! ## Reading -/

/-- A key: the field's number, at least one, and the kind of its content, one of six. -/
def readKey? (bytes : List UInt8) : Option (Nat × Nat × List UInt8) := do
  let (key, rest) ← readVarint? bytes
  if 8 ≤ key ∧ key < Number.width32 ∧ key % 8 < 6 then some (key / 8, key % 8, rest) else none

/-- A block behind its length. -/
def readBlock? (bytes : List UInt8) : Option (List UInt8 × List UInt8) := do
  let (n, rest) ← readVarint? bytes
  if n ≤ rest.length then some (rest.take n, rest.drop n) else none

/-- So many bytes, whatever they are. -/
def skip? (n : Nat) (bytes : List UInt8) : Option (Content × List UInt8) :=
  if n ≤ bytes.length then some (.foreign, bytes.drop n) else none

/-- Content of one of the kinds that do not nest. -/
def flatContent? (kind : Nat) (bytes : List UInt8) : Option (Content × List UInt8) :=
  match kind with
  | 0 => (readVarint? bytes).map fun (n, rest) => (.number n, rest)
  | 1 => skip? 8 bytes
  | 2 => (readBlock? bytes).map fun (b, rest) => (.block b, rest)
  | 5 => skip? 4 bytes
  | _ => none

/-- The bytes behind the end of group `number`, which may hold fields and, within `depth` levels,
groups.  Each field takes a byte at least, so their count `fuel` is enough. -/
def skipGroup? : (fuel depth number : Nat) → List UInt8 → Option (List UInt8)
  | 0, _, _, _ => none
  | fuel + 1, depth, number, bytes => do
    let (inner, kind, rest) ← readKey? bytes
    if kind = 4 then
      if inner = number then some rest else none
    else if depth ≤ 1 then none
    else if kind = 3 then
      skipGroup? fuel depth number (← skipGroup? fuel (depth - 1) inner rest)
    else
      skipGroup? fuel depth number (← flatContent? kind rest).2

/-- The content behind a key. -/
def content? (depth number kind : Nat) (bytes : List UInt8) : Option (Content × List UInt8) :=
  if kind = 3 then (skipGroup? (bytes.length + 1) depth number bytes).map ((Content.foreign, ·))
  else flatContent? kind bytes

end Field

/-- The fields of a message, each at least a byte long; those that `always` names hold a block, whatever
kind their key says. -/
def fieldsWithin? (always : Nat → Bool) (depth : Nat) : (fuel : Nat) → List UInt8 → Option (List Field)
  | _, [] => some []
  | 0, _ => none
  | fuel + 1, bytes => do
    let (number, kind, rest) ← Field.readKey? bytes
    let (content, rest) ← Field.content? depth number (if always number then 2 else kind) rest
    return ⟨number, content⟩ :: (← fieldsWithin? always depth fuel rest)

/-- The fields of a message. -/
def fields? (always : Nat → Bool) (depth : Nat) (bytes : List UInt8) : Option (List Field) :=
  fieldsWithin? always depth bytes.length bytes

end Remote
end RecordingHarvest
