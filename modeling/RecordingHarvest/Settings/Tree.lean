import RecordingHarvest.Json.Value
import RecordingHarvest.Number.Digits
import RecordingHarvest.Number.Reading

/-!
# Settings trees

What a layer of the configuration says: scalars, lists, and tables by name.  Names are kept in lower
case.  Laying one layer over another merges tables and replaces everything else, so a setting keeps
what an earlier layer says unless a later one says otherwise.  Scalars convert freely between kinds.
-/

namespace RecordingHarvest

/-- A value of the configuration. -/
inductive Setting where
  | null
  | bool (b : Bool)
  | int (n : Int)
  | float (x : Float)
  | text (s : String)
  | list (items : List Setting)
  | table (entries : List (String × Setting))
  deriving Repr, BEq, Inhabited

namespace Setting

/-- The entries of a table; nothing else has any. -/
def entries : Setting → Members Setting
  | table es => es
  | _ => []

mutual

/-- Sets a name to a value: a table is merged into what is there, anything else replaces it.  The
place it is set in becomes a table if it is none. -/
def put (place : Setting) (name : String) : Setting → Setting
  | .table incoming =>
    let key := Text.lower name
    let old := (place.entries.get? key).getD (.table [])
    .table (place.entries.put key (putAll old incoming))
  | value => .table (place.entries.put (Text.lower name) value)

/-- Sets one entry after another. -/
def putAll (place : Setting) : List (String × Setting) → Setting
  | [] => place
  | (name, value) :: rest => putAll (put place name value) rest

end

/-! ## Paths -/

/-- One step of a path below its first name. -/
inductive Step where
  | name (s : String)
  /-- A place of a list; a negative one counts from the end. -/
  | index (n : Int)
  deriving DecidableEq, Repr

/-- A name, and the steps below it. -/
structure Path where
  first : String
  steps : List Step
  deriving DecidableEq, Repr

/-- Letters, digits, blanks, underscores and hyphens make up the names of a path. -/
def isNameChar (c : Char) : Bool := c.isAlphanum || c == ' ' || c == '_' || c == '-'

/-- Drops the spaces and tabs in front. -/
def skipBlanks (cs : List Char) : List Char := cs.dropWhile fun c => c == ' ' || c == '\t'

/-- The number between the brackets of an index, a minus in front of it or not, and blanks around. -/
def indexOf? (inside : List Char) : Option Int :=
  match (skipBlanks (skipBlanks inside).reverse).reverse with
  | '+' :: _ => none
  | cs => Number.int64? cs

/-- The steps that a text spells; `fuel` bounds their number. -/
def Path.stepsOf? : Nat → List Char → Option (List Step)
  | _, [] => some []
  | 0, _ => none
  | fuel + 1, '.' :: rest =>
    let name := rest.takeWhile isNameChar
    if name.isEmpty then none
    else
      (stepsOf? fuel (rest.dropWhile isNameChar)).map (.name (Text.lower (String.ofList name)) :: ·)
  | fuel + 1, '[' :: rest => do
    let (inside, rest) ← Text.splitAtFirst ']' rest
    let n ← indexOf? inside
    let steps ← stepsOf? fuel rest
    return .index n :: steps
  | _ + 1, _ => none

/-- The path that a text spells, names with dots between them and indexes in brackets. -/
def Path.ofChars? (cs : List Char) : Option Path :=
  let name := cs.takeWhile isNameChar
  if name.isEmpty then none
  else (Path.stepsOf? cs.length (cs.dropWhile isNameChar)).map fun steps =>
    ⟨Text.lower (String.ofList name), steps⟩

/-- The items of a list; nothing else has any. -/
def items : Setting → List Setting
  | list items => items
  | _ => []

/-- Changes the item at an index of a list, which is made long enough at the end that the index counts
from. -/
def changeItem (f : Setting → Setting) (n : Int) (items : List Setting) : List Setting :=
  if 0 ≤ n then
    let i := n.toNat
    let items := items ++ List.replicate (i + 1 - items.length) .null
    items.modify i f
  else
    let items := List.replicate (n.natAbs - items.length) .null ++ items
    items.modify (items.length - n.natAbs) f

/-- Changes the value at a name of a table and below it, making tables and lists on the way. -/
def change (f : Setting → Setting) : List Step → Setting → Setting
  | [], place => f place
  | .name s :: steps, place =>
    .table (place.entries.put s (change f steps ((place.entries.get? s).getD .null)))
  | .index n :: steps, place => .list (changeItem (change f steps) n place.items)

/-- Sets the value at a path. -/
def putAt (root : Setting) (p : Path) (value : Setting) : Setting :=
  match p.steps.getLast? with
  | none => root.put p.first value
  | some last =>
    let f (place : Setting) : Setting :=
      match last with
      | .name s => place.put s value
      | .index n => .list (changeItem (fun _ => value) n place.items)
    change f (.name p.first :: p.steps.dropLast) root

/-- Lays a layer over a tree.  A name that spells a path is followed as one. -/
def overlay (root : Setting) : List (String × Setting) → Setting
  | [] => root
  | (name, value) :: rest =>
    let root := match Path.ofChars? name.toList with
      | some p => root.putAt p value
      | none => root.put name value
    root.overlay rest

/-! ## Conversion of scalars -/

/-- The truth value that a word stands for. -/
def truthOf? (s : String) : Option Bool :=
  match Text.lower s with
  | "true" | "on" | "yes" => some true
  | "false" | "off" | "no" => some false
  | _ => none

/-- A whole number of 64 unsigned bits. -/
def toNat? : Setting → Option Nat
  | bool b => some b.toNat
  | int n => if 0 ≤ n then some n.toNat else none
  | float x => some (Number.roundToNat64 x)
  | text s => ((truthOf? s).map Bool.toNat).or (Number.nat64? s.toList)
  | _ => none

def toBool? : Setting → Option Bool
  | bool b => some b
  | int n => some (n ≠ 0)
  | float x => some (x != 0.0)
  | text s => if s = "1" then some true else if s = "0" then some false else truthOf? s
  | _ => none

def toDouble? : Setting → Option Float
  | bool b => some (if b then 1.0 else 0.0)
  | int n => some (Json.doubleOfInt n)
  | float x => some x
  | text s => ((truthOf? s).map fun b => if b then 1.0 else 0.0).or (Number.double? s.toList)
  | _ => none

def toText? : Setting → Option String
  | bool b => some (if b then "true" else "false")
  | int n => some (Number.integerText n)
  | float x => some (Number.plainText x)
  | text s => some s
  | _ => none

/-- A whole number below a limit. -/
def toNatBelow? (limit : Nat) (s : Setting) : Option Nat := s.toNat?.filter (· < limit)

/-- A value that may be null. -/
def toOption? {α : Type} (as? : Setting → Option α) : Setting → Option (Option α)
  | null => some none
  | s => (as? s).map some

/-- One of several words in any case, or a table with that word as its only name. -/
def toChoice? {α : Type} (choices : List (String × α)) : Setting → Option α
  | text s => (choices.find? fun (name, _) => name = Text.lower s).map Prod.snd
  | table [(s, _)] => (choices.find? fun (name, _) => name = Text.lower s).map Prod.snd
  | _ => none

/-- The entries of a section: a table, or a list in the order of the section's names. -/
def toSection? (names : List String) : Setting → Option (Members Setting)
  | table es => some es
  | list items => some (names.zip items)
  | _ => none

/-- The converted entry under a name, or the default if there is none. -/
def field? {α : Type} (es : Members Setting) (name : String) (as? : Setting → Option α)
    (default : α) : Option α :=
  match es.get? name with
  | some s => as? s
  | none => some default

/-! ## Layers -/

/-- The value that a variable's text stands for: a truth value, a whole number of 64 bits, a double,
or the text itself. -/
def ofVariable (s : String) : Setting :=
  match Text.lower s with
  | "true" => .bool true
  | "false" => .bool false
  | _ =>
    match Number.int64? s.toList with
    | some n => .int n
    | none =>
      match Number.double? s.toList with
      | some x => .float x
      | none => .text s

mutual

/-- The setting of a JSON value; whole numbers past 63 bits become doubles. -/
def ofJson : Json → Setting
  | .null => .null
  | .bool b => .bool b
  | .int n => if n < Number.width63 then .int n else .float (Json.doubleOfInt n)
  | .float x => .float x
  | .str s => .text s
  | .arr xs => .list (ofItems xs)
  | .obj ms => .table (ofMembers ms)

def ofItems : List Json → List Setting
  | [] => []
  | x :: rest => ofJson x :: ofItems rest

def ofMembers : List (String × Json) → List (String × Setting)
  | [] => []
  | (k, x) :: rest => (k, ofJson x) :: ofMembers rest

end

end Setting
end RecordingHarvest
