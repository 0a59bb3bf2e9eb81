import RecordingHarvest.Settings.Tree
import RecordingHarvest.Text.Hex

/-!
# INI documents

Sections in square brackets with entries `key = value` or `key: value` below them; entries in front of all
sections stand at the root.  A comment takes a whole line and begins at its first column.  All values are
texts: lines with blanks trimmed off, in which parts may be quoted and a backslash escapes what follows.
-/

namespace RecordingHarvest
namespace Ini

/-- A place in a text: what follows, and how many characters stand before it on its line. -/
structure Cursor where
  rest : List Char
  column : Nat := 0
  deriving DecidableEq, Repr

/-- Moves over one character. -/
def Cursor.skip (c : Cursor) : Cursor :=
  match c.rest with
  | '\n' :: rest => ⟨rest, 0⟩
  | _ :: rest => ⟨rest, c.column + 1⟩
  | [] => c

/-- Moves over the characters of a class that stand here; `fuel` bounds their number. -/
def Cursor.skipWhile (isMember : Char → Bool) : Nat → Cursor → Cursor
  | 0, c => c
  | fuel + 1, c =>
    match c.rest with
    | ch :: _ => if isMember ch then skipWhile isMember fuel c.skip else c
    | [] => c

/-- The character of an escape that stands for another one. -/
def escaped : Char → Char
  | '0' => '\x00'
  | 'a' => '\x07'
  | 'b' => '\x08'
  | 't' => '\t'
  | 'r' => '\r'
  | 'n' => '\n'
  | c => c

/-- The character of four hexadecimal digits. -/
def codePoint? (ds : List Char) : Option Char := do
  let n ← ds.foldlM (fun v d => (Text.hexValue d).map (16 * v + ·)) 0
  if ds.length < 4 ∨ (0xD800 ≤ n ∧ n < 0xE000) then none else some (Char.ofNat n)

/-- The text up to the first character of a class that is not escaped; that the whole text ends first is
allowed only if `last`.  An escaped line break drops itself and the character behind it. -/
def upTo? (isEnd : Char → Bool) (last : Bool) : Nat → Cursor → Option (List Char × Cursor)
  | 0, _ => none
  | fuel + 1, c =>
    match c.rest with
    | [] => if last then some ([], c) else none
    | '\\' :: [] => none
    | '\\' :: '\n' :: _ => upTo? isEnd last fuel c.skip.skip.skip
    | '\\' :: 'x' :: rest => do
      let ch ← codePoint? (rest.take 4)
      let (text, c) ← upTo? isEnd last fuel ⟨rest.drop 4, c.column + 6⟩
      return (ch :: text, c)
    | '\\' :: ch :: _ => (upTo? isEnd last fuel c.skip.skip).map fun (text, c) => (escaped ch :: text, c)
    | ch :: _ =>
      if isEnd ch then some ([], c)
      else (upTo? isEnd last fuel c.skip).map fun (text, c) => (ch :: text, c)

/-- A value: quoted parts as they stand, and behind them the rest of the line without the blanks at its end;
`first` tells whether nothing has been read yet. -/
def value? : Nat → Bool → Cursor → Option (List Char × Cursor)
  | 0, _, _ => none
  | fuel + 1, first, c =>
    let size := c.rest.length + 1
    match c.rest with
    | [] => some ([], c)
    | q :: _ =>
      if q = '"' ∨ q = '\'' then do
        let (part, c) ← upTo? (· == q) false size c.skip
        let (more, c) ← value? fuel false c.skip
        return (part ++ more, c)
      else
        (upTo? (fun ch => ch == '\n' || ch == '\r') true size c).map fun (part, c) =>
          let trimmed := (Text.trimStart part.reverse).reverse
          (if first then Text.trimStart trimmed else trimmed, c)

/-- A piece of a document. -/
inductive Piece where
  | comment
  | section (name : String)
  | key (name : String)
  | value (text : String)
  deriving DecidableEq, Repr

/-- A text without the blanks around it. -/
def trimmed (cs : List Char) : String := String.ofList (Text.trim cs)

/-- The piece that stands here. -/
def piece? (c : Cursor) : Option (Piece × Cursor) :=
  let size := c.rest.length + 1
  match c.rest with
  | [] => none
  | ch :: _ =>
    if ch = ';' ∨ ch = '#' then
      if 0 < c.column then none else some (.comment, (c.skipWhile (· != '\n') size).skip)
    else if ch = '[' then
      (upTo? (· == ']') false size c.skip).map fun (name, c) => (.section (trimmed name), c.skip)
    else if ch = '=' ∨ ch = ':' then
      let c := c.skip.skipWhile (fun ch => ch != '\n' && ch != '\r' && Text.isBlank ch) size
      (value? size true c).map fun (text, c) => (.value (trimmed text), c)
    else
      (upTo? (fun ch => ch == '=' || ch == ':') false size c).map fun (name, c) => (.key (trimmed name), c)

/-- The pieces from here on; `fuel` bounds their number. -/
def pieces? : Nat → Cursor → Option (List Piece)
  | 0, _ => none
  | fuel + 1, c =>
    let c := c.skipWhile Text.isBlank c.rest.length
    if c.rest.isEmpty then some []
    else do
      let (p, c) ← piece? c
      let ps ← pieces? fuel c
      return p :: ps

/-- The entries of the pieces: `root` are those so far, `section` is the section being read with its
entries, and `key` the key that waits for its value, empty if none does. -/
def entries? (root : Members Setting) (current : Option (String × Members Setting)) (key : String) :
    List Piece → Option (Members Setting)
  | [] => some (closed root current)
  | .comment :: rest => entries? root current key rest
  | .section name :: rest => entries? (closed root current) (some (name, [])) key rest
  | .key name :: rest => entries? root current name rest
  | .value text :: rest =>
    if key.isEmpty then none
    else
      match current with
      | none => entries? (root.put key (.text text)) none "" rest
      | some (name, es) => entries? root (some (name, es.put key (.text text))) "" rest
where
  /-- The entries with the section that was being read. -/
  closed (root : Members Setting) (current : Option (String × Members Setting)) : Members Setting :=
    match current with
    | none => root
    | some (name, es) => root.put name (.table es)

/-- The entries of a document; of two sections with one name the last counts. -/
def ofChars? (cs : List Char) : Option (List (String × Setting)) :=
  (pieces? (cs.length + 1) ⟨cs, 0⟩).bind (entries? [] none "")

end Ini
end RecordingHarvest
