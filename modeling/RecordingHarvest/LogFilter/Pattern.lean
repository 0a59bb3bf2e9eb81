import RecordingHarvest.Text.Blank
import RecordingHarvest.Text.Classes
import RecordingHarvest.Text.Hex

/-!
# Patterns of field values

The value of a span's field in a filter may be a regular expression.  `isPattern` tells whether a text is
one that a matcher can be built for.  The matcher works on bytes and knows no tables of characters: classes
such as `\d`, word boundaries and matching in any case are only to be had for ASCII, that is with the flag
`u` off, and then nothing may match a part of a character.  A closing brace never gets into a pattern, so
there are no counted repetitions.
-/

namespace RecordingHarvest
namespace LogFilter

/-- What the flags in force say. -/
structure PatternMode where
  /-- Whole characters are matched, not bytes. -/
  unicode : Bool := true
  caseless : Bool := false
  /-- Blanks and comments are skipped. -/
  spaced : Bool := false
  deriving DecidableEq, Repr

/-- What stands for one place of a match. -/
inductive Atom where
  /-- A character; `byte` if it is spelled as two hexadecimal digits. -/
  | literal (c : Char) (byte : Bool)
  /-- Digits, blanks or word characters, or all others. -/
  | group (negated : Bool)
  /-- The place before, behind or between characters. -/
  | edge (ofWord : Bool)
  | any
  deriving DecidableEq, Repr

namespace PatternMode

/-- Skips blanks and comments; `fuel` bounds their number. -/
def skipBlanks : Nat → List Char → List Char
  | 0, cs => cs
  | fuel + 1, cs =>
    match cs.dropWhile Text.isBlank with
    | '#' :: rest => skipBlanks fuel ((rest.dropWhile (· != '\n')).drop 1)
    | rest => rest

/-- Skips what the mode has skipped. -/
def skip (m : PatternMode) (cs : List Char) : List Char :=
  if m.spaced then skipBlanks cs.length cs else cs

/-- Whether a matcher can be built for an atom. -/
def admits (m : PatternMode) : Atom → Bool
  | .literal c byte =>
    if m.unicode then !m.caseless else !byte || c.toNat < 0x80
  | .group negated => !m.unicode && !negated
  | .edge ofWord => !ofWord || !m.unicode
  | .any => m.unicode

/-- Whether an atom can be a member of a class. -/
def admitsMember (m : PatternMode) : Atom → Bool
  | .literal c _ => if m.unicode then !m.caseless else c.toNat < 0x80
  | .group negated => !m.unicode && !negated
  | _ => false

end PatternMode

/-! ## Escapes -/

/-- Hexadecimal digits in number, and what follows. -/
def hexDigits? (m : PatternMode) : Nat → List Char → Option (List Char × List Char)
  | 0, cs => some ([], cs)
  | n + 1, cs =>
    match m.skip cs with
    | c :: rest =>
      if (Text.hexValue c).isSome then
        (hexDigits? m n rest).map fun (ds, rest) => (c :: ds, rest)
      else none
    | [] => none

/-- The character of a code point in so many hexadecimal digits. -/
def codePoint? (m : PatternMode) (width : Nat) (cs : List Char) : Option (Atom × List Char) := do
  let (ds, rest) ← hexDigits? m width cs
  let n := ds.foldl (fun v d => 16 * v + (Text.hexValue d).getD 0) 0
  if n < 0xD800 ∨ (0xDFFF < n ∧ n < 0x110000) then
    some (.literal (Char.ofNat n) (width == 2), m.skip rest)
  else none

/-- The atom behind a backslash. -/
def escape? (m : PatternMode) : List Char → Option (Atom × List Char)
  | [] => none
  | 'x' :: rest => codePoint? m 2 rest
  | 'u' :: rest => codePoint? m 4 rest
  | 'U' :: rest => codePoint? m 8 rest
  | 'b' :: rest => if (m.skip rest).head? = some '\x7b' then none else some (.edge true, rest)
  | c :: rest =>
    if ['d', 's', 'w'].contains c then some (.group false, rest)
    else if ['D', 'S', 'W'].contains c then some (.group true, rest)
    else if ['B', '<', '>'].contains c then some (.edge true, rest)
    else if ['A', 'z'].contains c then some (.edge false, rest)
    else if ['a', 'f', 't', 'n', 'r', 'v'].contains c then some (.literal c false, rest)
    else if c.toNat < 0x80 ∧ !c.isAlphanum then some (.literal c false, rest)
    else none

/-! ## Classes -/

/-- The names of classes of ASCII characters. -/
def className : List String :=
  ["alnum", "alpha", "ascii", "blank", "cntrl", "digit", "graph", "lower", "print", "punct", "space",
    "upper", "word", "xdigit"]

/-- A named class behind its bracket: whether it is negated, and what follows. -/
def namedClass? : List Char → Option (Bool × List Char)
  | ':' :: rest =>
    let (negated, rest) := match rest with
      | '^' :: rest => (true, rest)
      | rest => (false, rest)
    let name := rest.takeWhile (· != ':')
    match rest.drop name.length with
    | ':' :: ']' :: rest => if className.contains (String.ofList name) then some (negated, rest) else none
    | _ => none
  | _ => none

/-- One end of a range, or a member alone. -/
def member? (m : PatternMode) : List Char → Option (Atom × List Char)
  | '\\' :: rest => escape? m rest
  | c :: rest => some (.literal c false, rest)
  | [] => none

/-- What follows a member or a range of members. -/
def range? (m : PatternMode) (cs : List Char) : Option (List Char) := do
  let (a, rest) ← member? m cs
  if !m.admitsMember a then none
  else
    match m.skip rest with
    | '-' :: more =>
      match m.skip more with
      | [] => none
      | ']' :: _ | '-' :: _ => some ('-' :: more)
      | more =>
        let (b, rest) ← member? m more
        match a, b with
        | .literal c _, .literal d _ => if c ≤ d ∧ m.admitsMember b then some rest else none
        | _, _ => none
    | rest => some rest

/-- Skips the hyphens that stand in front as members; the bracket that closes must follow later. -/
def leadingHyphens (m : PatternMode) : Nat → List Char → List Char
  | fuel + 1, '-' :: rest => leadingHyphens m fuel (m.skip rest)
  | _, cs => cs

/-- What stands behind the opening of a class: a caret, hyphens, and a bracket that comes first are
taken. -/
def classStart? (m : PatternMode) (cs : List Char) : Option (List Char) :=
  let cs := m.skip cs
  let (negated, cs) := match cs with
    | '^' :: rest => (true, m.skip rest)
    | cs => (false, cs)
  let behind := leadingHyphens m cs.length cs
  if negated && !m.unicode then none
  else if behind.length < cs.length then some behind
  else
    match cs with
    | ']' :: rest => some rest
    | _ => some cs

/-- Members of a class up to its bracket: how deep classes are nested in it, and what follows; `fuel`
bounds the steps. -/
def classMembers? (m : PatternMode) : Nat → Nat → List Char → Option (Nat × List Char)
  | 0, _, _ => none
  | fuel + 1, depth, cs =>
    match m.skip cs with
    | [] => none
    | ']' :: rest => some (depth + 1, rest)
    | '&' :: '&' :: rest | '-' :: '-' :: rest | '~' :: '~' :: rest => classMembers? m fuel depth rest
    | '[' :: rest =>
      match namedClass? rest with
      | some (negated, rest) =>
        if negated && !m.unicode then none else classMembers? m fuel depth rest
      | none => do
        let (inner, rest) ← classMembers? m fuel 0 (← classStart? m rest)
        classMembers? m fuel (max depth inner) rest
    | cs => (range? m cs).bind (classMembers? m fuel depth)

/-- A class behind its opening bracket. -/
def class? (m : PatternMode) (cs : List Char) : Option (Nat × List Char) :=
  if m.unicode && m.caseless then none
  else (classStart? m cs).bind fun start => classMembers? m (cs.length + 1) 0 start

/-! ## Groups -/

/-- The mode that flags up to a colon or a bracket make; `seen` are the flags read, and `on` tells
whether they are switched on.  Gives the closing character and what follows. -/
def flags? (m : PatternMode) (seen : List Char) (on : Bool) :
    List Char → Option (PatternMode × Char × List Char)
  | [] => none
  | c :: rest =>
    if c = ':' ∨ c = ')' then if seen.head? = some '-' then none else some (m, c, rest)
    else if seen.contains c then none
    else
      match c with
      | '-' => flags? m ('-' :: seen) false rest
      | 'u' => flags? { m with unicode := on } ('u' :: seen) on rest
      | 'i' => flags? { m with caseless := on } ('i' :: seen) on rest
      | 'x' => flags? { m with spaced := on } ('x' :: seen) on rest
      | c => if ['m', 's', 'U', 'R'].contains c then flags? m (c :: seen) on rest else none

/-- The name of a group up to its bracket. -/
def groupName? (cs : List Char) : Option (List Char × List Char) :=
  let opens (c : Char) : Bool := c == '_' || Text.isLetter c
  let follows (c : Char) : Bool :=
    opens c || Text.isNumber c || c == '.' || c == '[' || c == ']'
  let name := cs.takeWhile (· != '>')
  match cs.drop name.length, name with
  | '>' :: rest, c :: more => if opens c && more.all follows then some (name, rest) else none
  | _, _ => none

/-- What a bracket opens. -/
inductive Opening where
  /-- A group; its name if it has one. -/
  | group (mode : PatternMode) (name : Option (List Char))
  /-- Flags for the rest of the group they stand in. -/
  | flags (mode : PatternMode)

/-- What a round bracket opens, and what follows. -/
def opening? (m : PatternMode) (cs : List Char) : Option (Opening × List Char) :=
  match m.skip cs with
  | '?' :: 'P' :: '<' :: rest => (groupName? rest).map fun (name, rest) => (.group m (some name), rest)
  | '?' :: '<' :: '=' :: _ | '?' :: '<' :: '!' :: _ => none
  | '?' :: '<' :: rest => (groupName? rest).map fun (name, rest) => (.group m (some name), rest)
  | '?' :: ')' :: _ => none
  | '?' :: rest =>
    (flags? m [] true rest).map fun (mode, c, rest) =>
      (if c = ':' then .group mode none else .flags mode, rest)
  | rest => some (.group m none, rest)

/-! ## Patterns -/

/-- How deep the parts of a pattern may be nested. -/
def nestingLimit : Nat := 250

/-- The items read in a row. -/
structure Row where
  count : Nat := 0
  /-- The depth of the deepest item. -/
  depth : Nat := 0
  /-- The depth of the item that a repetition would apply to. -/
  last : Option Nat := none

namespace Row

/-- One more item, of a depth. -/
def add (r : Row) (depth : Nat) : Row := ⟨r.count + 1, max r.depth depth, some depth⟩

/-- The depth of the row as a whole. -/
def whole (r : Row) : Nat := if r.count < 2 then r.depth else r.depth + 1

end Row

/-- A group that is being read. -/
structure Group where
  mode : PatternMode
  row : Row := {}
  /-- The depth of the deepest branch before the row, if there is one. -/
  branches : Option Nat := none

/-- The depth of a group's contents. -/
def Group.whole (g : Group) : Nat :=
  match g.branches with
  | none => g.row.whole
  | some depth => max depth g.row.whole + 1

/-- Reads a pattern on in a group, with the groups around it and the names given; `fuel` bounds the
steps. -/
def readsOn : Nat → Group → List Group → List (List Char) → List Char → Bool
  | 0, _, _, _, _ => false
  | fuel + 1, g, around, names, cs =>
    let item (depth : Nat) (rest : List Char) : Bool :=
      readsOn fuel { g with row := g.row.add depth } around names rest
    let atom (a : Atom) (rest : List Char) : Bool := g.mode.admits a && item 0 rest
    match g.mode.skip cs with
    | [] => around.isEmpty && g.whole ≤ nestingLimit
    | '(' :: rest =>
      match opening? g.mode rest with
      | some (.group mode none, rest) => readsOn fuel { mode := mode } (g :: around) names rest
      | some (.group mode (some name), rest) =>
        !names.contains name && readsOn fuel { mode := mode } (g :: around) (name :: names) rest
      | some (.flags mode, rest) =>
        let row := { g.row with count := g.row.count + 1, last := none }
        readsOn fuel { g with mode := mode, row := row } around names rest
      | none => false
    | ')' :: rest =>
      match around with
      | [] => false
      | outer :: around =>
        readsOn fuel { outer with row := outer.row.add (g.whole + 1) } around names rest
    | '|' :: rest =>
      let deepest := max (g.branches.getD 0) g.row.whole
      readsOn fuel { g with row := {}, branches := some deepest } around names rest
    | '[' :: rest =>
      match class? g.mode rest with
      | some (depth, rest) => item depth rest
      | none => false
    | '?' :: rest | '*' :: rest | '+' :: rest =>
      match g.row.last with
      | some depth =>
        let row := { g.row with depth := max g.row.depth (depth + 1), last := some (depth + 1) }
        let rest := match rest with
          | '?' :: rest => rest
          | rest => rest
        readsOn fuel { g with row := row } around names rest
      | none => false
    | '\x7b' :: _ => false
    | '\\' :: rest =>
      match escape? g.mode rest with
      | some (a, rest) => atom a rest
      | none => false
    | '.' :: rest => atom .any rest
    | '^' :: rest | '$' :: rest => atom (.edge false) rest
    | c :: rest => atom (.literal c false) rest

/-- A text that a matcher can be built for. -/
def isPattern (cs : List Char) : Bool := readsOn (cs.length + 1) { mode := {} } [] [] cs

end LogFilter
end RecordingHarvest
