import RecordingHarvest.Settings.Yaml.Cursor
import RecordingHarvest.Text.Hex

/-!
# YAML scalars

The texts of scalars in their five styles: plain, in single or double quotes, and blocks of lines that are
kept or folded.  A line break inside a plain or quoted scalar stands for a space, and empty lines for breaks.
-/

namespace RecordingHarvest
namespace Yaml

/-! ## Folding -/

/-- A text being read, the newest characters first, and what stands between it and the next word. -/
structure Fold where
  text : List Char := []
  /-- The blanks since the last word, the newest first. -/
  blanks : List Char := []
  /-- A line break that may turn into a space. -/
  broken : Bool := false
  /-- The breaks behind it. -/
  breaks : Nat := 0
  deriving DecidableEq, Repr

namespace Fold

/-- The text with breaks of lines put at its end: a single one as a space. -/
def joinLines (f : Fold) : Fold :=
  if f.broken && f.breaks == 0 then { text := ' ' :: f.text }
  else { text := List.replicate f.breaks '\n' ++ f.text }

/-- The text with blanks put at its end. -/
def joinBlanks (f : Fold) : Fold := { f with text := f.blanks ++ f.text, blanks := [] }

/-- One more character. -/
def push (f : Fold) (c : Char) : Fold := { f with text := c :: f.text }

/-- One more line break; `again` if only blanks stand between it and the one before. -/
def addBreak (f : Fold) (again : Bool) : Fold :=
  if again then { f with breaks := f.breaks + 1 } else { f with blanks := [], broken := true }

/-- The text read. -/
def string (f : Fold) : String := String.ofList f.text.reverse

end Fold

/-! ## Plain scalars -/

/-- Whether a plain scalar goes on at a place, in brackets or not. -/
def isPlainAt (c : Cursor) (bracketed : Bool) : Bool :=
  !endsWord c.head &&
    !(c.head == ':' && (endsWord (c.peek 1) || (bracketed && isBracketMark (c.peek 1)))) &&
    !(bracketed && isBracketMark c.head)

/-- Reads a word of a plain scalar; `fuel` bounds its length. -/
def plainWord (bracketed : Bool) : Nat → Cursor → Fold → Cursor × Fold
  | 0, c, f => (c, f)
  | fuel + 1, c, f =>
    if isPlainAt c bracketed then plainWord bracketed fuel (c.skip 1) (f.push c.head) else (c, f)

/-- Reads the blanks and line breaks behind a word of a plain scalar.  On a line of its own a tab must not
stand before the indentation, unless the line holds nothing else. -/
def plainGap? (indent : Int) : Nat → Cursor → Fold → Option (Cursor × Fold)
  | 0, _, _ => none
  | fuel + 1, c, f =>
    if isBlank c.head then
      if !c.fresh then plainGap? indent fuel c.skipBlank { f with blanks := c.head :: f.blanks }
      else if (c.column : Int) < indent ∧ c.head = '\t' then do
        let c ← c.skipRest?
        if endsLine c.head then plainGap? indent fuel c f else none
      else plainGap? indent fuel c.skipBlank f
    else if isBreak c.head then plainGap? indent fuel c.skipBreak (f.addBreak c.fresh)
    else some (c, f)

/-- Reads a plain scalar on from a place; its lines stand at a column of `indent` at least. -/
def plainFrom? (indent : Int) (bracketed : Bool) : Nat → Cursor → Fold → Option (Cursor × Fold)
  | 0, _, _ => none
  | fuel + 1, c, f =>
    if c.atDocumentMark || c.head == '#' then some (c, f)
    else if bracketed && c.head == '-' && isBracketMark (c.peek 1) then none
    else do
      let (c, f) :=
        if isPlainAt c bracketed then
          plainWord bracketed c.rest.length c (if c.fresh then f.joinLines else f.joinBlanks)
        else (c, f)
      if !(isBlank c.head || isBreak c.head) then some (c, f)
      else
        let (c, f) ← plainGap? indent (c.rest.length + 1) c f
        if !bracketed && (c.column : Int) < indent then some (c, f)
        else plainFrom? indent bracketed fuel c f

/-- A plain scalar. -/
def plain? (indent : Int) (bracketed : Bool) (c : Cursor) : Option (String × Cursor) :=
  if bracketed ∧ (c.column : Int) < indent then none
  else (plainFrom? indent bracketed (c.rest.length + 1) c {}).map fun (c, f) => (f.string, c)

/-! ## Quoted scalars -/

/-- The character of a short escape. -/
def escaped? : Char → Option Char
  | '0' => some '\x00'
  | 'a' => some '\x07'
  | 'b' => some '\x08'
  | 't' => some '\t'
  | '\t' => some '\t'
  | 'n' => some '\n'
  | 'v' => some '\x0b'
  | 'f' => some '\x0c'
  | 'r' => some '\r'
  | 'e' => some '\x1b'
  | ' ' => some ' '
  | '"' => some '"'
  | '/' => some '/'
  | '\\' => some '\\'
  | 'N' => some '\u0085'
  | '_' => some '\u00A0'
  | 'L' => some '\u2028'
  | 'P' => some '\u2029'
  | _ => none

/-- The character of a code point in hexadecimal digits. -/
def codePoint? (ds : List Char) : Option Char := do
  let n ← ds.foldlM (fun v d => (Text.hexValue d).map (16 * v + ·)) 0
  if n < 0xD800 ∨ (0xDFFF < n ∧ n < 0x110000) then some (Char.ofNat n) else none

/-- The number of digits behind the letter of an escape. -/
def escapeWidth : Char → Nat
  | 'x' => 2
  | 'u' => 4
  | 'U' => 8
  | _ => 0

/-- The character that an escape stands for, and its length. -/
def escape? (c : Cursor) : Option (Char × Nat) :=
  let width := escapeWidth (c.peek 1)
  if width = 0 then (escaped? (c.peek 1)).map (·, 2)
  else if (c.rest.drop 2).length < width then none
  else (codePoint? ((c.rest.drop 2).take width)).map (·, width + 2)

/-- Reads a word of a quoted scalar, and tells whether an escaped line break ends it; `fuel` bounds its
length. -/
def quotedWord? (quote : Char) : Nat → Cursor → Fold → Option (Bool × Cursor × Fold)
  | 0, c, f => some (false, c, f)
  | fuel + 1, c, f =>
    if endsWord c.head then some (false, c, f)
    else if c.head = quote then
      if quote = '\'' ∧ c.peek 1 = quote then quotedWord? quote fuel (c.skip 2) (f.push quote)
      else some (false, c, f)
    else if c.head = '\\' ∧ quote = '"' then
      if isBreak (c.peek 1) then some (true, (c.skip 1).skipBreak, f)
      else do
        let (e, n) ← escape? c
        quotedWord? quote fuel (c.skip n) (f.push e)
    else quotedWord? quote fuel (c.skip 1) (f.push c.head)

/-- Reads the blanks and line breaks behind a word of a quoted scalar; `broken` tells whether a break has
been read. -/
def quotedGap? (indent : Int) : Nat → Bool → Cursor → Fold → Option (Bool × Cursor × Fold)
  | 0, _, _, _ => none
  | fuel + 1, broken, c, f =>
    if isBlank c.head then
      if !broken then quotedGap? indent fuel broken c.skipBlank { f with blanks := c.head :: f.blanks }
      else if c.head = '\t' ∧ (c.column : Int) < indent then none
      else quotedGap? indent fuel broken c.skipBlank f
    else if isBreak c.head then quotedGap? indent fuel true c.skipBreak (f.addBreak broken)
    else some (broken, c, f)

/-- Reads a quoted scalar on up to its quote; its lines stand at a column of `indent` at least. -/
def quotedFrom? (quote : Char) (indent : Int) : Nat → Cursor → Fold → Option (Cursor × Fold)
  | 0, _, _ => none
  | fuel + 1, c, f =>
    if c.atDocumentMark || c.head == endMark || (c.column : Int) < indent then none
    else do
      let (escaped, c, f) ← quotedWord? quote c.rest.length c f
      if c.head = quote then some (c, f)
      else
        let (broken, c, f) ← quotedGap? indent (c.rest.length + 1) escaped c f
        quotedFrom? quote indent fuel c (if broken then f.joinLines else f.joinBlanks)

/-- A quoted scalar with the blanks behind it, at a place where its quote stands. -/
def quoted? (indent : Int) (bracketed : Bool) (c : Cursor) : Option (String × Cursor) := do
  let start := c.line
  let (c, f) ← quotedFrom? c.head indent (c.rest.length + 1) (c.skip 1) {}
  let c ← (c.skip 1).skipRest?
  let closed := endsLine c.head || (c.head == ':' && (bracketed || c.line == start)) ||
    (bracketed && (c.head == ',' || c.head == '\x7d' || c.head == ']'))
  if closed then some (f.string, c) else none

/-! ## Blocks of lines -/

/-- What becomes of the line breaks at the end of a block. -/
inductive Chomping where
  | strip
  | clip
  | keep
  deriving DecidableEq, Repr

/-- The marks behind the mark of a block: how it ends, and how far it is indented if that is said. -/
def blockMarks? (c : Cursor) : Option (Chomping × Nat × Cursor) :=
  let chomping (c : Cursor) : Option Chomping :=
    if c.head = '+' then some .keep else if c.head = '-' then some .strip else none
  let isDigit (c : Cursor) : Bool := '0' ≤ c.head && c.head ≤ '9'
  let digit (c : Cursor) : Nat := c.head.toNat - '0'.toNat
  match chomping c with
  | some mode =>
    let c := c.skip 1
    if !isDigit c then some (mode, 0, c)
    else if digit c = 0 then none
    else some (mode, digit c, c.skip 1)
  | none =>
    if !isDigit c then some (.clip, 0, c)
    else if digit c = 0 then none
    else
      let n := digit c
      let c := c.skip 1
      match chomping c with
      | some mode => some (mode, n, c.skip 1)
      | none => some (.clip, n, c)

/-- Moves over empty lines and the indentation of the next one, and counts them. -/
def blockGap (indent : Nat) : Nat → Cursor → Nat → Cursor × Nat
  | 0, c, breaks => (c, breaks)
  | fuel + 1, c, breaks =>
    let c := c.skipSpacesTo indent
    if isBreak c.head then blockGap indent fuel c.skipBreak (breaks + 1) else (c, breaks)

/-- Moves over the empty lines in front of a block and the indentation of its first line, and gives the
widest indentation and their number. -/
def blockStart : Nat → Cursor → Nat → Nat → Cursor × Nat × Nat
  | 0, c, widest, breaks => (c, widest, breaks)
  | fuel + 1, c, widest, breaks =>
    let c := c.skipSpacesTo (c.column + c.rest.length)
    let widest := max widest c.column
    if isBreak c.head then blockStart fuel c.skipBreak widest (breaks + 1) else (c, widest, breaks)

/-- A block being read, the newest characters first. -/
structure Block where
  text : List Char := []
  /-- A line break stands behind the last line. -/
  broken : Bool := false
  /-- Empty lines behind it. -/
  breaks : Nat := 0
  /-- The last line begins with a blank. -/
  indented : Bool := false
  deriving DecidableEq, Repr

/-- Reads the lines of a block, folding them if `folded`. -/
def blockLines (folded : Bool) (indent : Nat) : Nat → Cursor → Block → Cursor × Block
  | 0, c, b => (c, b)
  | fuel + 1, c, b =>
    if c.column != indent || c.head == endMark || c.atMarks '.' then (c, b)
    else
      let indented := isBlank c.head
      let gap :=
        if folded && b.broken && !b.indented && !indented then
          if b.breaks = 0 then [' '] else List.replicate b.breaks '\n'
        else List.replicate (b.breaks + b.broken.toNat) '\n'
      let line := c.rest.takeWhile (!endsLine ·)
      let text := line.reverse ++ gap ++ b.text
      let c := c.skip line.length
      if c.head = endMark then (c, ⟨text, false, 0, indented⟩)
      else
        let (c, breaks) := blockGap indent (c.rest.length + 1) c.skipBreak 0
        blockLines folded indent fuel c ⟨text, true, breaks, indented⟩

/-- A block of lines at a place where its mark stands, in a collection at column `parent`. -/
def block? (parent : Int) (c : Cursor) : Option (String × Cursor) := do
  let folded := c.head == '>'
  let startLine := c.line
  let (chomping, said, c) ← blockMarks? (c.skip 1)
  let c ← c.skipRest?
  if !endsLine c.head then none
  else
    let ended := isBreak c.head
    let c := c.skipBreak
    if c.head = '\t' then none
    else
      let (c, indent, breaks) :=
        if said = 0 then
          let (c, widest, breaks) := blockStart (c.rest.length + 1) c 0 0
          (c, max (max widest (parent + 1).toNat) (if 0 < parent then 1 else 0), breaks)
        else
          let indent := if 0 ≤ parent then parent.toNat + said else said
          let (c, breaks) := blockGap indent (c.rest.length + 1) c 0
          (c, indent, breaks)
      if c.head = endMark then
        let text :=
          if chomping = .strip ∨ c.line = startLine then 0
          else if chomping = .clip ∨ breaks = 0 then ended.toNat
          else breaks
        return (String.ofList (List.replicate text '\n'), c)
      else if c.column < indent ∧ parent < c.column then none
      else
        let (c, b) := blockLines folded indent (c.rest.length + 1) c { breaks := breaks }
        let closing := if chomping = .strip then 0 else b.broken.toNat
        let unfinished := if chomping ≠ .strip ∧ c.head = endMark ∧ max indent 1 ≤ c.column then 1 else 0
        let kept := if chomping = .keep then b.breaks else 0
        return (String.ofList (b.text.reverse ++ List.replicate (closing + unfinished + kept) '\n'), c)

end Yaml
end RecordingHarvest
