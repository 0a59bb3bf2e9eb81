/-!
# Reading places of YAML texts

A cursor is a place in a text: what follows, the offset, the line and the column.  Only carriage returns and
line feeds end a line.  A text ends at its first null character, which here also stands for the end.
-/

namespace RecordingHarvest
namespace Yaml

/-! ## Characters -/

/-- The mark for the end of the text. -/
def endMark : Char := '\x00'

def isBlank (c : Char) : Bool := c == ' ' || c == '\t'

def isBreak (c : Char) : Bool := c == '\n' || c == '\r'

/-- What ends a line: a break, or the end of the text. -/
def endsLine (c : Char) : Bool := isBreak c || c == endMark

/-- What ends a word. -/
def endsWord (c : Char) : Bool := isBlank c || endsLine c

/-- The marks of collections in brackets. -/
def isBracketMark (c : Char) : Bool := c == ',' || c == '[' || c == ']' || c == '\x7b' || c == '\x7d'

/-- Letters, digits, hyphens and underscores of ASCII. -/
def isWordChar (c : Char) : Bool := c.isAlphanum || c == '-' || c == '_'

/-! ## Cursors -/

/-- A place in a text. -/
structure Cursor where
  rest : List Char
  /-- Characters before it. -/
  index : Nat := 0
  line : Nat := 0
  column : Nat := 0
  /-- Only blanks stand before it on its line. -/
  fresh : Bool := true
  deriving DecidableEq, Repr

namespace Cursor

/-- The start of a text. -/
def ofChars (cs : List Char) : Cursor := { rest := cs.takeWhile (· != endMark) }

/-- The character `n` places further. -/
def peek (c : Cursor) (n : Nat) : Char := c.rest.getD n endMark

/-- The next character. -/
def head (c : Cursor) : Char := c.peek 0

/-- Moves over a blank. -/
def skipBlank (c : Cursor) : Cursor :=
  { c with rest := c.rest.drop 1, index := c.index + 1, column := c.column + 1 }

/-- Moves over characters that are no blanks. -/
def skip (c : Cursor) (n : Nat) : Cursor :=
  { c with rest := c.rest.drop n, index := c.index + n, column := c.column + n, fresh := false }

/-- Moves over a line break, if one stands here. -/
def skipBreak (c : Cursor) : Cursor :=
  if c.head = '\r' ∧ c.peek 1 = '\n' then ⟨c.rest.drop 2, c.index + 2, c.line + 1, 0, true⟩
  else if isBreak c.head then ⟨c.rest.drop 1, c.index + 1, c.line + 1, 0, true⟩
  else c

/-- Moves to the end of the line. -/
def skipLine (c : Cursor) : Cursor := c.skip (c.rest.takeWhile (!endsLine ·)).length

/-- Moves over the blanks that stand here. -/
def skipBlanks (c : Cursor) : Cursor :=
  let n := (c.rest.takeWhile isBlank).length
  { c with rest := c.rest.drop n, index := c.index + n, column := c.column + n }

/-- Moves over the spaces that stand here, not beyond a column. -/
def skipSpacesTo (c : Cursor) (column : Nat) : Cursor :=
  let n := min (c.rest.takeWhile (· == ' ')).length (column - c.column)
  { c with rest := c.rest.drop n, index := c.index + n, column := c.column + n }

/-- Whether three equal marks that part documents stand here. -/
def atMarks (c : Cursor) (mark : Char) : Bool :=
  c.column == 0 && c.head == mark && c.peek 1 == mark && c.peek 2 == mark && endsWord (c.peek 3)

/-- Whether a mark that parts documents stands here. -/
def atDocumentMark (c : Cursor) : Bool := c.atMarks '-' || c.atMarks '.'

/-- What was met on the way to the end of a line. -/
structure Trail where
  tab : Bool
  space : Bool
  deriving DecidableEq, Repr

/-- Moves over blanks, tabs among them if `tabs`, and a comment, which must not follow a word at once. -/
def skipTrail? (c : Cursor) (tabs : Bool) : Option (Trail × Cursor) :=
  let blanks := c.rest.takeWhile fun ch => ch == ' ' || (tabs && ch == '\t')
  let n := blanks.length
  let c := { c with rest := c.rest.drop n, index := c.index + n, column := c.column + n }
  let trail : Trail := ⟨blanks.contains '\t', blanks.contains ' '⟩
  if c.head = '#' then if n = 0 then none else some (trail, c.skipLine) else some (trail, c)

/-- Moves over blanks and a comment. -/
def skipRest? (c : Cursor) : Option Cursor := (c.skipTrail? true).map Prod.snd

end Cursor
end Yaml
end RecordingHarvest
