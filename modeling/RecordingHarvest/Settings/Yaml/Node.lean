import RecordingHarvest.Number.Reading
import RecordingHarvest.Settings.Yaml.Token

/-!
# YAML nodes

The values that a row of tokens spells: scalars, sequences and mappings.  A plain scalar is null, a truth
value, a number or a text by its form, or what its tag says.  An alias stands for the node that its anchor
was put on, once that is complete.
-/

namespace RecordingHarvest
namespace Yaml

/-- A value of a document. -/
inductive Node where
  | null
  | bool (b : Bool)
  | int (n : Int)
  /-- A number that is no whole one, as it is written. -/
  | real (text : String)
  | text (s : String)
  | list (items : List Node)
  | map (entries : List (Node × Node))
  /-- A scalar that its tag does not allow, or an alias of a node that is not complete. -/
  | bad
  deriving Repr, BEq, Inhabited

/-! ## Scalars -/

/-- A whole number of 64 bits in a base, with an optional sign. -/
def based? (base : Nat) (cs : List Char) : Option Int := do
  let (negative, ds) := Number.signOf cs
  if ds.isEmpty then none
  else
    let n ← ds.foldlM (fun v d => do
      let d ← Text.hexValue d
      if d < base then some (base * v + d) else none) 0
    let n : Int := if negative then -(n : Int) else n
    if -(Number.width63 : Int) ≤ n ∧ n < Number.width63 then some n else none

/-- The spellings of what is infinite or no number. -/
def specialNumbers : List String :=
  [".inf", ".Inf", ".INF", "+.inf", "+.Inf", "+.INF", "-.inf", "-.Inf", "-.INF", ".nan", ".NaN", ".NAN"]

/-- Whether a text spells a number: one of the special spellings, or a double with a digit in it. -/
def isReal (s : String) : Bool :=
  specialNumbers.contains s || (s.toList.any Number.isDigit && (Number.double? s.toList).isSome)

/-- The value of a plain scalar. -/
def plainNode (s : String) : Node :=
  let marked := match s.toList with
    | '0' :: 'x' :: ds => based? 16 ds
    | '0' :: 'o' :: ds => based? 8 ds
    | '+' :: ds => Number.int64? ds
    | _ => none
  match marked.or (Number.int64? s.toList), s with
  | some n, _ => .int n
  | none, "~" | none, "null" => .null
  | none, "true" => .bool true
  | none, "false" => .bool false
  | none, s => if isReal s then .real s else .text s

/-- What the tags of the language's own types begin with. -/
def coreTags : String := "tag:yaml.org,2002:"

/-- The value of a plain scalar with a tag. -/
def taggedNode (handle suffix s : String) : Node :=
  if handle ≠ coreTags then .text s
  else
    match suffix with
    | "bool" => if s = "true" then .bool true else if s = "false" then .bool false else .bad
    | "int" => ((Number.int64? s.toList).map Node.int).getD .bad
    | "float" => if isReal s then .real s else .bad
    | "null" => if s = "~" ∨ s = "null" then .null else .bad
    | _ => .text s

/-- The value of a scalar. -/
def scalarNode (plain : Bool) (tag : Option (String × String)) (s : String) : Node :=
  if !plain then .text s
  else
    match tag with
    | some (handle, suffix) => taggedNode handle suffix s
    | none => plainNode s

/-! ## Mappings -/

/-- The entries of a mapping whose keys and values come in turn.  A bad node is passed over where a key is
due, and a key must not come twice. -/
def entries? : Option Node → List (Node × Node) → List Node → Option (List (Node × Node))
  | _, es, [] => some es.reverse
  | none, es, .bad :: rest => entries? none es rest
  | none, es, k :: rest => entries? (some k) es rest
  | some k, es, v :: rest =>
    if es.any fun (k', _) => k' == k then none else entries? none ((k, v) :: es) rest

/-- The mapping whose keys and values come in turn. -/
def mapOf? (nodes : List Node) : Option Node := (entries? none [] nodes).map .map

/-! ## Reading tokens -/

/-- Tokens being read, and the anchors met. -/
structure Reader where
  tokens : List Token
  /-- The number of the node that a name stands for, the latest first. -/
  anchors : List (String × Nat) := []
  /-- The complete nodes by number. -/
  nodes : List (Nat × Node) := []
  /-- The number of the next anchor. -/
  next : Nat := 1
  /-- What handles of tags stand for. -/
  tags : List (String × String) := []

/-- A step of reading, which may fail. -/
abbrev Reading := StateT Reader Option

namespace Reading

/-- The next token. -/
def peek : Reading Token := return (← get).tokens.headD .textEnd

/-- Moves over the next token. -/
def skip : Reading Unit := modify fun r => { r with tokens := r.tokens.tail }

/-- Gives a node a number that a name stands for from now on. -/
def register (name : String) : Reading Nat := do
  let r ← get
  set { r with anchors := (name, r.next) :: r.anchors, next := r.next + 1 }
  return r.next

/-- The node of an alias. -/
def nodeNamed (name : String) : Reading Node := do
  let r ← get
  match r.anchors.lookup name with
  | none => failure
  | some n => return (r.nodes.lookup n).getD .bad

/-- A node of its number, if it has one. -/
def complete (anchor : Option Nat) (x : Node) : Reading Node := do
  if let some n := anchor then modify fun r => { r with nodes := (n, x) :: r.nodes }
  return x

/-- What a tag's handle stands for, with the rest of the tag. -/
def resolve (handle suffix : String) : Reading (String × String) := do
  let tags := (← get).tags
  match tags.lookup handle with
  | some full => return (full, suffix)
  | none =>
    if handle = "!!" then return (coreTags, suffix)
    else if 2 ≤ handle.length ∧ handle.startsWith "!" ∧ handle.endsWith "!" then failure
    else return (handle, suffix)

/-- The anchor in front of a node. -/
def anchor : Reading (Option Nat) := do
  match ← peek with
  | .anchor name => skip; return some (← register name)
  | _ => return none

/-- The tag in front of a node. -/
def tag : Reading (Option (String × String)) := do
  match ← peek with
  | .tag handle suffix => skip; return some (← resolve handle suffix)
  | _ => return none

/-- The anchor and the tag in front of a node, in either order. -/
def properties : Reading (Option Nat × Option (String × String)) := do
  match ← anchor with
  | some n => return (some n, ← tag)
  | none =>
    let t ← tag
    return (← if t.isSome then anchor else pure none, t)

mutual

/-- A node; `block` if it may be a collection without brackets, `flush` if it may be a sequence at the column
of the mapping around it.  `fuel` bounds the steps. -/
def node (fuel : Nat) (block flush : Bool) : Reading Node :=
  match fuel with
  | 0 => failure
  | fuel + 1 => do
    match ← peek with
    | .alias name => skip; nodeNamed name
    | _ =>
      let (n, t) ← properties
      match ← peek, block, flush with
      | .item, _, true => complete n (.list (← flushItems fuel))
      | .scalar plain s, _, _ => skip; complete n (scalarNode plain t s)
      | .opening, _, _ => skip; complete n (.list (← bracketItems fuel true))
      | .openingBrace, _, _ => skip; complete n (← mapOf? (← bracedEntries fuel true))
      | .sequenceStart, true, _ => skip; complete n (.list (← blockItems fuel))
      | .mappingStart, true, _ => skip; complete n (← mapOf? (← blockEntries fuel))
      | _, _, _ => if n.isSome || t.isSome then complete n (scalarNode true t "") else failure

/-- A node, or null where one of some tokens stands. -/
def nodeUnless (fuel : Nat) (ends : List Token) (block flush : Bool) : Reading Node :=
  match fuel with
  | 0 => failure
  | fuel + 1 => do
    if ends.contains (← peek) then return .null else node fuel block flush

/-- The items of a sequence at the column of the mapping around it. -/
def flushItems (fuel : Nat) : Reading (List Node) :=
  match fuel with
  | 0 => failure
  | fuel + 1 => do
    match ← peek with
    | .item =>
      skip
      let x ← nodeUnless fuel [.item, .key, .value, .blockEnd] true false
      return x :: (← flushItems fuel)
    | _ => return []

/-- The items of a sequence by indentation. -/
def blockItems (fuel : Nat) : Reading (List Node) :=
  match fuel with
  | 0 => failure
  | fuel + 1 => do
    match ← peek with
    | .blockEnd => skip; return []
    | .item =>
      skip
      let x ← nodeUnless fuel [.item, .blockEnd] true false
      return x :: (← blockItems fuel)
    | _ => failure

/-- The keys and values in turn of a mapping by indentation. -/
def blockEntries (fuel : Nat) : Reading (List Node) :=
  match fuel with
  | 0 => failure
  | fuel + 1 => do
    let ends := [.key, .value, .blockEnd]
    let value : Reading Node := do
      match ← peek with
      | .value => skip; nodeUnless fuel ends true true
      | _ => return .null
    match ← peek with
    | .blockEnd => skip; return []
    | .key =>
      skip
      let k ← nodeUnless fuel ends true true
      let v ← value
      return k :: v :: (← blockEntries fuel)
    | .value =>
      let v ← value
      return .null :: v :: (← blockEntries fuel)
    | _ => failure

/-- The keys and values in turn of a mapping in braces; a comma must stand before all but the first. -/
def bracedEntries (fuel : Nat) (first : Bool) : Reading (List Node) :=
  match fuel with
  | 0 => failure
  | fuel + 1 => do
    let value : Reading Node := do
      match ← peek with
      | .value => skip; nodeUnless fuel [.comma, .closingBrace] false false
      | _ => return .null
    if (← peek) = .closingBrace then skip; return []
    else
      if !first then
        if (← peek) = .comma then skip else failure
      match ← peek with
      | .closingBrace => skip; return []
      | .key =>
        skip
        let k ← nodeUnless fuel [.value, .comma, .closingBrace] false false
        let v ← value
        return k :: v :: (← bracedEntries fuel false)
      | .value =>
        let v ← value
        return .null :: v :: (← bracedEntries fuel false)
      | _ =>
        let k ← node fuel false false
        return k :: .null :: (← bracedEntries fuel false)

/-- The items of a sequence in brackets; a comma must stand before all but the first.  A key makes an item a
mapping with one entry. -/
def bracketItems (fuel : Nat) (first : Bool) : Reading (List Node) :=
  match fuel with
  | 0 => failure
  | fuel + 1 => do
    if (← peek) = .closing then skip; return []
    else
      if !first then
        if (← peek) = .comma then skip else failure
      match ← peek with
      | .closing => skip; return []
      | .key =>
        skip
        let missing := [Token.value, .comma, .closing].contains (← peek)
        let k ← if missing then (do skip; return .null) else node fuel false false
        let v ← match ← peek with
          | .value => skip; nodeUnless fuel [.comma, .closing] false false
          | _ => pure .null
        let x ← mapOf? [k, v]
        return x :: (← bracketItems fuel false)
      | _ =>
        let x ← node fuel false false
        return x :: (← bracketItems fuel false)

end

/-- Takes directives in; only the last one's tag is kept, and one version at most may be given. -/
def directives : Nat → Bool → Reading Unit
  | 0, _ => failure
  | fuel + 1, versioned => do
    match ← peek with
    | .directive none => if versioned then failure else modify ({ · with tags := [] }); skip; directives fuel true
    | .directive (some t) => modify ({ · with tags := [t] }); skip; directives fuel versioned
    | _ => return

/-- The marks between documents that stand here are skipped. -/
def skipMarks : Nat → Reading Unit
  | 0 => return
  | fuel + 1 => do if (← peek) = .documentEnd then skip; skipMarks fuel

/-- The documents from here on; `free` if the next one need not be announced. -/
def documents : Nat → Bool → Reading (List Node)
  | 0, _ => failure
  | fuel + 1, free => do
    let size := (← get).tokens.length
    modify ({ · with anchors := [] })
    skipMarks size
    let t ← peek
    if t = .textEnd then return []
    else
      let announced := match t with
        | .directive _ | .documentStart => true
        | _ => !free
      directives (size + 1) false
      let x ←
        if !announced then node (4 * size + 4) true false
        else if (← peek) = .documentStart then do
          skip
          match ← peek with
          | .directive _ | .documentStart | .documentEnd | .textEnd => pure .null
          | _ => node (4 * size + 4) true false
        else failure
      modify ({ · with tags := [] })
      match ← peek with
      | .documentEnd => skip; return x :: (← documents fuel true)
      | .directive _ => failure
      | _ => return x :: (← documents fuel false)

end Reading

/-- The documents of a text. -/
def documents? (cs : List Char) : Option (List Node) := do
  let tokens ← tokens? cs
  (Reading.documents (tokens.length + 1) true).run' { tokens := tokens }

end Yaml
end RecordingHarvest
