import RecordingHarvest.Settings.Tree
import RecordingHarvest.Text.Hex

/-!
# RON documents

Values in a notation for typed data: maps in braces, lists in brackets, records and tuples in round brackets
with or without a name in front, options, characters, strings, raw strings and numbers.  A record is a table,
a tuple a list, and a name alone stands for nothing.
-/

namespace RecordingHarvest
namespace Ron

/-! ## Blanks and comments -/

def isSpace (c : Char) : Bool := c == ' ' || c == '\t' || c == '\n' || c == '\r'

/-- What follows a block comment, in which others may be nested. -/
def afterBlock? : Nat → Nat → List Char → Option (List Char)
  | _, 0, cs => some cs
  | 0, _, _ => none
  | fuel + 1, level + 1, cs =>
    match cs with
    | '/' :: '*' :: rest => afterBlock? fuel (level + 2) rest
    | '*' :: '/' :: rest => afterBlock? fuel level rest
    | _ :: rest => afterBlock? fuel (level + 1) rest
    | [] => none

/-- Skips blanks and comments; `fuel` bounds their number. -/
def skip? : Nat → List Char → Option (List Char)
  | 0, cs => some cs
  | fuel + 1, cs =>
    match cs.dropWhile isSpace with
    | '/' :: '/' :: rest => skip? fuel (rest.dropWhile (· != '\n'))
    | '/' :: '*' :: rest => (afterBlock? (rest.length + 1) 1 rest).bind (skip? fuel)
    | '/' :: _ => none
    | rest => some rest

/-- Skips all blanks and comments that stand here. -/
def skipAll? (cs : List Char) : Option (List Char) := skip? cs.length cs

/-- What follows a comma, if one stands here, and whether one does. -/
def comma? (cs : List Char) : Option (Bool × List Char) := do
  match ← skipAll? cs with
  | ',' :: rest => return (true, ← skipAll? rest)
  | rest => return (false, rest)

/-! ## Names -/

def isNameStart (c : Char) : Bool := c.isAlpha || c == '_'

def isNameChar (c : Char) : Bool := c.isAlphanum || c == '_'

/-- The characters of a name behind the mark `r#`. -/
def isRawNameChar (c : Char) : Bool := isNameChar c || c == '.' || c == '+' || c == '-'

/-- A name, and what follows; what would go on as a raw name is refused. -/
def name? (cs : List Char) : Option (String × List Char) :=
  let plain : Option (String × List Char) :=
    let name := cs.takeWhile isNameChar
    if (cs.takeWhile isRawNameChar).length ≠ name.length then none
    else some (String.ofList name, cs.drop name.length)
  match cs with
  | 'r' :: '"' :: _ => none
  | 'r' :: '#' :: rest =>
    let name := rest.takeWhile isRawNameChar
    if name.isEmpty then none else some (String.ofList name, rest.drop name.length)
  | ['r'] => none
  | c :: _ => if isNameStart c then plain else none
  | [] => none

/-- What follows a word, if it stands here and ends. -/
def word? (w : String) (cs : List Char) : Option (List Char) :=
  let n := w.length
  if cs.take n = w.toList ∧ ((cs.drop n).head?.map isNameChar).getD false = false then some (cs.drop n)
  else none

/-! ## Strings -/

/-- The number of hexadecimal digits. -/
def hexValue? (ds : List Char) : Option Nat :=
  ds.foldlM (fun v d => (Text.hexValue d).map (16 * v + ·)) 0

/-- The character behind a backslash, and what follows. -/
def escape? : List Char → Option (Char × List Char)
  | '\'' :: rest => some ('\'', rest)
  | '"' :: rest => some ('"', rest)
  | '\\' :: rest => some ('\\', rest)
  | 'n' :: rest => some ('\n', rest)
  | 'r' :: rest => some ('\r', rest)
  | 't' :: rest => some ('\t', rest)
  | '0' :: rest => some ('\x00', rest)
  | 'x' :: a :: b :: rest => (hexValue? [a, b]).map fun n => (Char.ofNat n, rest)
  | 'u' :: '\x7b' :: rest =>
    let ds := rest.takeWhile (· != '\x7d')
    if ds.isEmpty ∨ 6 < ds.length then none
    else do
      let n ← hexValue? ds
      let rest ← (rest.drop ds.length).tail?
      if n < 0xD800 ∨ (0xDFFF < n ∧ n < 0x110000) then return (Char.ofNat n, rest) else none
  | _ => none

/-- The body of a string up to its quote; `fuel` bounds its length. -/
def string? : Nat → List Char → Option (List Char × List Char)
  | 0, _ => none
  | _, [] => none
  | _, '"' :: rest => some ([], rest)
  | fuel + 1, '\\' :: rest => do
    let (c, rest) ← escape? rest
    let (body, rest) ← string? fuel rest
    return (c :: body, rest)
  | fuel + 1, c :: rest => (string? fuel rest).map fun (body, rest) => (c :: body, rest)

/-- The body of a raw string up to a quote with so many hash signs behind it. -/
def rawBody? (hashes : Nat) : List Char → Option (List Char × List Char)
  | [] => none
  | c :: rest =>
    if c = '"' ∧ rest.take hashes = List.replicate hashes '#' then some ([], rest.drop hashes)
    else (rawBody? hashes rest).map fun (body, rest) => (c :: body, rest)

/-- A raw string behind its letter. -/
def rawString? (cs : List Char) : Option (List Char × List Char) :=
  let hashes := (cs.takeWhile (· == '#')).length
  match cs.drop hashes with
  | '"' :: rest => rawBody? hashes rest
  | _ => none

/-- A character behind its quote. -/
def character? : List Char → Option (Char × List Char)
  | '\\' :: rest => do
    match ← escape? rest with
    | (c, '\'' :: rest) => return (c, rest)
    | _ => none
  | c :: '\'' :: rest => if c = '\'' then none else some (c, rest)
  | _ => none

/-! ## Numbers -/

/-- A double; underscores are refused. -/
def double? (cs : List Char) : Option (Setting × List Char) :=
  let special : Option (Setting × List Char) :=
    [("inf", 1.0 / 0.0), ("+inf", 1.0 / 0.0), ("-inf", -1.0 / 0.0), ("NaN", 0.0 / 0.0),
      ("+NaN", 0.0 / 0.0), ("-NaN", -(0.0 / 0.0))].findSome? fun (w, x) =>
        (word? w cs).map fun rest => (.float x, rest)
  special.or <|
    let text := cs.takeWhile fun c =>
      Number.isDigit c || c == 'e' || c == 'E' || c == '.' || c == '+' || c == '-' || c == '_'
    (Number.double? text).map fun x => (.float x, cs.drop text.length)

/-- The characters of whole numbers. -/
def isWholeChar (c : Char) : Bool := (Text.hexValue c).isSome || c == '_'

/-- A whole number without its sign, in base ten, two, eight or sixteen. -/
def whole? (cs : List Char) : Option (Nat × List Char) :=
  let (base, cs) := match cs with
    | '0' :: 'x' :: rest => (16, rest)
    | '0' :: 'o' :: rest => (8, rest)
    | '0' :: 'b' :: rest => (2, rest)
    | cs => (10, cs)
  let ds := cs.takeWhile isWholeChar
  if ds.isEmpty || ds.head? == some '_' then none
  else do
    let n ← (ds.filter (· != '_')).foldlM (fun v d => do
      let d ← Text.hexValue d
      if d < base then some (base * v + d) else none) 0
    return (n, cs.drop ds.length)

/-- A number: whole with 64 bits, and a double if it has a point or does not fit. -/
def number? (cs : List Char) : Option (Setting × List Char) :=
  let (negative, rest) := Number.signOf cs
  let isDoubleChar (c : Char) : Bool :=
    Number.isDigit c || c == 'e' || c == 'E' || c == '.' || c == '+' || c == '-' || c == '_'
  let signed : Bool := rest.length < cs.length
  if (rest.takeWhile isWholeChar).length < (rest.takeWhile isDoubleChar).length then double? cs
  else
    let found := (whole? rest).bind fun (n, rest) =>
      let v : Int := if negative then -(n : Int) else n
      if -(Number.width63 : Int) ≤ v ∧ v < Number.width63 then some (Setting.int v, rest)
      else if !signed && n < Number.width64 then some (.float (Json.doubleOfInt v), rest)
      else none
    found.or (double? cs)

/-! ## Values -/

/-- How deep values may be nested. -/
def depthLimit : Nat := 128

/-- The members of a table with texts as names; of two with one name the last counts. -/
def tableOf? (entries : List (Setting × Setting)) : Option Setting := do
  let named ← entries.mapM fun (k, v) =>
    match k with
    | .text s => some (s, v)
    | _ => none
  return .table (Members.ofEntries named)

/-- Whether a round bracket opens a record: a name and a colon stand behind it. -/
def opensRecord (cs : List Char) : Bool :=
  match (name? cs).bind fun (_, rest) => skipAll? rest with
  | some (':' :: _) => true
  | _ => false

mutual

/-- A value and what follows, with `room` more levels below it; `fuel` bounds the steps. -/
def value? (fuel room : Nat) (cs : List Char) : Option (Setting × List Char) :=
  match fuel with
  | 0 => none
  | fuel + 1 =>
    let words : Option (Setting × List Char) :=
      [("true", Setting.bool true), ("false", .bool false), ("None", .null), ("inf", .float (1.0 / 0.0)),
        ("-inf", .float (-1.0 / 0.0)), ("NaN", .float (0.0 / 0.0))].findSome? fun (w, v) =>
          (word? w cs).map (v, ·)
    match words, word? "Some" cs with
    | some found, _ => some found
    | none, some rest => do
      match ← skipAll? rest with
      | '(' :: rest =>
        let (x, rest) ← below? fuel room (← skipAll? rest)
        match ← comma? rest with
        | (_, ')' :: rest) => return (x, rest)
        | _ => none
      | _ => none
    | none, none =>
      match name? cs with
      | some (_, rest) => do
        match ← skipAll? rest with
        | '(' :: rest => group? fuel room rest
        | rest => return (.null, rest)
      | none =>
        match cs with
        | '(' :: ')' :: rest => some (.null, rest)
        | '(' :: rest => group? fuel room rest
        | '[' :: rest => (items? fuel room ']' true rest).map fun (xs, rest) => (.list xs, rest)
        | '\x7b' :: rest => do
          let (es, rest) ← entries? fuel room '\x7d' true rest
          return (← tableOf? es, rest)
        | '"' :: rest => (string? cs.length rest).map fun (s, rest) => (.text (String.ofList s), rest)
        | 'r' :: rest => (rawString? rest).map fun (s, rest) => (.text (String.ofList s), rest)
        | '\'' :: rest => (character? rest).map fun (c, rest) => (.text (String.ofList [c]), rest)
        | '.' :: _ => double? cs
        | c :: _ => if Number.isDigit c ∨ c = '+' ∨ c = '-' then number? cs else none
        | [] => none

/-- A value one level further down. -/
def below? (fuel room : Nat) (cs : List Char) : Option (Setting × List Char) :=
  match fuel, room with
  | fuel + 1, room + 1 => value? fuel room cs
  | _, _ => none

/-- A record or a tuple behind its round bracket. -/
def group? (fuel room : Nat) (cs : List Char) : Option (Setting × List Char) :=
  match fuel with
  | 0 => none
  | fuel + 1 => do
    let cs ← skipAll? cs
    if opensRecord cs then
      let (es, rest) ← entries? fuel room ')' true cs
      return (← tableOf? es, rest)
    else
      let (xs, rest) ← items? fuel room ')' true cs
      return (.list xs, rest)

/-- The items up to a closing mark; `comma` tells whether another may follow. -/
def items? (fuel room : Nat) (close : Char) (comma : Bool) (cs : List Char) :
    Option (List Setting × List Char) :=
  match fuel with
  | 0 => none
  | fuel + 1 => do
    match ← skipAll? cs with
    | [] => none
    | c :: rest =>
      if c = close then return ([], rest)
      else if !comma then none
      else
        let (x, rest) ← below? fuel room (c :: rest)
        let (comma, rest) ← comma? rest
        let (xs, rest) ← items? fuel room close comma rest
        return (x :: xs, rest)

/-- The names and values up to a closing mark; in round brackets the names stand without quotes. -/
def entries? (fuel room : Nat) (close : Char) (comma : Bool) (cs : List Char) :
    Option (List (Setting × Setting) × List Char) :=
  match fuel with
  | 0 => none
  | fuel + 1 => do
    match ← skipAll? cs with
    | [] => none
    | c :: rest =>
      if c = close then return ([], rest)
      else if !comma then none
      else
        let (k, rest) ←
          if close = ')' then (name? (c :: rest)).map fun (k, rest) => (.text k, rest)
          else below? fuel room (c :: rest)
        match ← skipAll? rest with
        | ':' :: rest =>
          let (x, rest) ← below? fuel room (← skipAll? rest)
          let (comma, rest) ← comma? rest
          let (es, rest) ← entries? fuel room close comma rest
          return ((k, x) :: es, rest)
        | _ => none

end

/-! ## Documents -/

/-- The features that a document may ask for; none of them changes what its values are. -/
def features : List String := ["unwrap_newtypes", "implicit_some", "unwrap_variant_newtypes"]

/-- The parts of a text in turn, blanks between them. -/
def parts? (ps : List String) (cs : List Char) : Option (List Char) :=
  ps.foldlM (fun cs p => do
    let cs ← skipAll? cs
    if cs.take p.length = p.toList then some (cs.drop p.length) else none) cs

/-- The features asked for up to the closing bracket. -/
def features? : Nat → List Char → Option (List Char)
  | 0, _ => none
  | fuel + 1, cs => do
    let (name, rest) ← name? cs
    if !features.contains name then none
    else
      let (comma, rest) ← comma? rest
      let more := (rest.head?.map isNameChar).getD false
      if more && !comma then none
      else if more then features? fuel rest
      else parts? [")", "]"] rest

/-- The lines in front of a document that ask for features. -/
def preamble? : Nat → List Char → Option (List Char)
  | 0, _ => none
  | fuel + 1, cs => do
    match ← skipAll? cs with
    | '#' :: rest => do
      let rest ← parts? ["!", "[", "enable", "("] rest
      preamble? fuel (← features? rest.length (← skipAll? rest))
    | rest => return rest

/-- The entries of a document whose root is a table. -/
def ofChars? (cs : List Char) : Option (List (String × Setting)) := do
  let (v, rest) ← value? (4 * cs.length + 4) depthLimit (← preamble? (cs.length + 1) cs)
  match v, ← skipAll? rest with
  | .table entries, [] => return entries
  | _, _ => none

end Ron
end RecordingHarvest
