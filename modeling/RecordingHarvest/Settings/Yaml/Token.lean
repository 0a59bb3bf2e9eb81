import RecordingHarvest.Settings.Yaml.Scalar

/-!
# YAML tokens

The marks and scalars of a YAML text in a row, with the starts and ends of collections that only show in
the indentation.  A scalar turns out to be a key when its colon is met, so the tokens for a key are put in
front of it afterwards.
-/

namespace RecordingHarvest
namespace Yaml

/-- A token. -/
inductive Token where
  /-- A line for the whole document; what a handle of tags stands for, if it says that. -/
  | directive (tag : Option (String × String))
  | documentStart
  | documentEnd
  | sequenceStart
  | mappingStart
  | blockEnd
  /-- Brackets around a sequence. -/
  | opening
  | closing
  /-- Braces around a mapping. -/
  | openingBrace
  | closingBrace
  /-- The hyphen of an item. -/
  | item
  /-- The comma between brackets. -/
  | comma
  | key
  | value
  | alias (name : String)
  | anchor (name : String)
  | tag (handle suffix : String)
  | scalar (plain : Bool) (text : String)
  | textEnd
  deriving DecidableEq, Repr, Inhabited

/-- Where a key may have begun. -/
structure KeyPlace where
  possible : Bool := false
  /-- Without it the indentation would make no sense. -/
  required : Bool := false
  /-- How many tokens stand before it. -/
  token : Nat := 0
  at_ : Cursor := { rest := [] }
  deriving Repr

/-- A column that collections stood at before. -/
structure Indent where
  column : Int
  /-- A collection of its own was opened after it. -/
  block : Bool
  deriving DecidableEq, Repr

/-- A text being read. -/
structure Scan where
  at_ : Cursor
  /-- The tokens so far. -/
  tokens : Array Token := #[]
  /-- The column of the last token, if that is an anchor or a tag. -/
  property : Option Nat := none
  /-- The last key place outside of brackets and between each pair, the innermost first. -/
  keys : List KeyPlace := [{}]
  keyAllowed : Bool := true
  /-- The column of the innermost collection. -/
  indent : Int := -1
  /-- The columns that the indentation goes back to, the last first. -/
  indents : List Indent := []
  /-- How many brackets are open. -/
  depth : Nat := 0
  /-- The offset at which a colon may stand right before its value. -/
  adjacent : Nat := 0
  /-- A brace or a question mark between brackets has been met. -/
  braced : Bool := false
  /-- For each open square bracket, whether an item of it is a mapping without braces. -/
  bare : List Bool := []
  deriving Repr

namespace Scan

/-- How far behind its start a key may have its colon. -/
def keyLimit : Nat := 1024

/-- The most brackets that may be open. -/
def depthLimit : Nat := 255

/-- One more token. -/
def push (s : Scan) (t : Token) : Scan := { s with tokens := s.tokens.push t, property := none }

/-- A token put in front of the one that has `n` before it. -/
def insert (s : Scan) (n : Nat) (t : Token) : Scan := { s with tokens := s.tokens.insertIdxIfInBounds n t }

/-! ## Keys -/

/-- Notes that a key may begin here. -/
def saveKey (s : Scan) : Scan :=
  if s.keyAllowed then
    let required := s.depth == 0 && s.indent == (s.at_.column : Int) && ((s.indents.head?.map (·.block)).getD false)
    { s with keys := ⟨true, required, s.tokens.size, s.at_⟩ :: s.keys.tail }
  else s

/-- Gives the last key place up. -/
def dropKey? (s : Scan) : Option Scan :=
  match s.keys with
  | k :: keys =>
    if k.possible && k.required then none else some { s with keys := { k with possible := false } :: keys }
  | [] => some s

/-- Gives the key places up that lie too far back or on another line. -/
def dropStaleKeys? (s : Scan) : Option Scan := do
  if s.depth ≠ 0 then return s
  let keys ← s.keys.mapM fun k =>
    if k.possible && (k.at_.line < s.at_.line || k.at_.index + keyLimit < s.at_.index) then
      if k.required then none else some { k with possible := false }
    else some k
  return { s with keys := keys }

/-! ## Indentation -/

/-- Opens a collection at a column, if that is further right; its token stands before the one that has `n`
before it. -/
def openBlock (s : Scan) (column n : Nat) (t : Token) : Scan :=
  if s.depth ≠ 0 then s
  else
    let s := match s.indents with
      | i :: rest =>
        if s.indent ≤ (column : Int) ∧ !i.block then { s with indent := i.column, indents := rest } else s
      | [] => s
    if s.indent < (column : Int) then
      let s := { s with indents := ⟨s.indent, true⟩ :: s.indents, indent := column }
      if n = s.tokens.size then s.push t else s.insert n t
    else s

/-- The columns further right than one, as collections to close, and what remains. -/
def closing (column : Int) : Int → List Indent → Nat × Int × List Indent
  | indent, [] => (0, indent, [])
  | indent, i :: rest =>
    if column < indent then
      let (n, indent, rest) := closing column i.column rest
      (n + i.block.toNat, indent, rest)
    else (0, indent, i :: rest)

/-- Closes the collections further right than a column. -/
def closeBlocks (s : Scan) (column : Int) : Scan :=
  if s.depth ≠ 0 then s
  else
    let (n, indent, indents) := closing column s.indent s.indents
    let s := { s with indent := indent, indents := indents }
    (List.replicate n Token.blockEnd).foldl push s

/-- Asks for one more column from the lines that follow. -/
def indentOne (s : Scan) : Scan :=
  match s.indents with
  | i :: _ =>
    if s.depth = 0 ∧ i.block then
      { s with indents := ⟨s.indent, false⟩ :: s.indents, indent := s.indent + 1 }
    else s
  | [] => s

/-- Drops the columns that no collection stands at. -/
def dropExtra (s : Scan) : Scan :=
  match s.indents.dropWhile (!·.block), (s.indents.takeWhile (!·.block)).getLast? with
  | indents, some i => { s with indent := i.column, indents := indents }
  | _, none => s

/-! ## Blanks -/

/-- Moves over blanks, comments and line breaks; `fuel` bounds their number.  A tab must not indent a line of
a collection, unless the line holds nothing else. -/
def skipGap? : Nat → Scan → Option Scan
  | 0, s => some s
  | fuel + 1, s =>
    let c := s.at_
    if c.head = '\t' ∧ !s.indents.isEmpty ∧ c.fresh ∧ (c.column : Int) < s.indent then do
      let c ← c.skipRest?
      if endsLine c.head then skipGap? fuel { s with at_ := c } else none
    else if isBlank c.head then skipGap? fuel { s with at_ := c.skipBlank }
    else if isBreak c.head then
      skipGap? fuel { s with at_ := c.skipBreak, keyAllowed := s.keyAllowed || s.depth == 0 }
    else if c.head = '#' then skipGap? fuel { s with at_ := c.skipLine }
    else some s

/-- Moves over spaces, comments and line breaks, of which at least one must stand here. -/
def skipSpace? : Nat → Bool → Scan → Option Scan
  | 0, _, s => some s
  | fuel + 1, met, s =>
    let c := s.at_
    if c.head = ' ' then skipSpace? fuel true { s with at_ := c.skipBlank }
    else if isBreak c.head then
      skipSpace? fuel true { s with at_ := c.skipBreak, keyAllowed := s.keyAllowed || s.depth == 0 }
    else if c.head = '#' then skipSpace? fuel met { s with at_ := c.skipLine }
    else if met then some s
    else none

/-- The token of one mark, and blanks and a comment behind it. -/
def mark? (s : Scan) (t : Token) : Option Scan := do
  let c ← (s.at_.skip 1).skipRest?
  return { s with at_ := c }.push t

/-! ## Directives, anchors and tags -/

/-- The characters of a tag or of what a tag stands for. -/
def isUriChar (c : Char) : Bool := isWordChar c || "#;/?:@&=+$,.!~*'()[]%".toList.contains c

/-- The characters of a tag. -/
def isTagChar (c : Char) : Bool := isUriChar c && !isBracketMark c && c != '!'

/-- A character given by its bytes behind percent signs.  The bytes of a character follow each other as one
number, which must be a code point. -/
def percent? (c : Cursor) : Option (Char × Cursor) := do
  let byte? (c : Cursor) : Option Nat :=
    if c.head = '%' then do return 16 * (← Text.hexValue (c.peek 1)) + (← Text.hexValue (c.peek 2)) else none
  let first ← byte? c
  let c := c.skip 3
  if first < 0x80 then return (Char.ofNat first, c)
  else if 0xC0 ≤ first ∧ first < 0xE0 then
    let second ← byte? c
    let n := 256 * first + second
    if second < 0x80 ∨ 0xC0 ≤ second ∨ (0xD800 ≤ n ∧ n < 0xE000) then none
    else return (Char.ofNat n, c.skip 3)
  else none

/-- The characters of a class, escapes by percent signs resolved; `fuel` bounds their number. -/
def uri? (isMember : Char → Bool) : Nat → Cursor → Option (List Char × Cursor)
  | 0, c => some ([], c)
  | fuel + 1, c =>
    if !isMember c.head then some ([], c)
    else do
      let (ch, c) ← if c.head = '%' then percent? c else some (c.head, c.skip 1)
      let (text, c) ← uri? isMember fuel c
      return (ch :: text, c)

/-- The handle of a tag: an exclamation mark, a word, and maybe a second mark. -/
def handle? (c : Cursor) : Option (List Char × Cursor) :=
  if c.head ≠ '!' then none
  else
    let c := c.skip 1
    let word := c.rest.takeWhile isWordChar
    let c := if word.isEmpty then c else c.skip word.length
    if c.head = '!' then some ('!' :: word ++ ['!'], c.skip 1) else some ('!' :: word, c)

/-- Digits of a version, nine at most. -/
def versionPart? (c : Cursor) : Option Cursor :=
  let n := (c.rest.takeWhile fun ch => '0' ≤ ch && ch ≤ '9').length
  if n = 0 ∨ 9 < n then none else some (c.skip n)

/-- A directive behind its percent sign and its name. -/
def directiveBody? (name : String) (c : Cursor) : Option (Option (String × String) × Cursor) :=
  if name = "YAML" then do
    let c ← versionPart? c.skipBlanks
    let c ← if c.head = '.' then versionPart? (c.skip 1) else none
    return (none, c)
  else if name = "TAG" then do
    let (handle, c) ← handle? c.skipBlanks
    let c := c.skipBlanks
    if handle.getLast? ≠ some '!' then none
    else
      let (start, c) ←
        if c.head = '!' then some (['!'], c.skip 1)
        else if !isTagChar c.head then none
        else if c.head = '%' then (percent? c).map fun (ch, c) => ([ch], c)
        else some ([c.head], c.skip 1)
      let (more, c) ← uri? isUriChar c.rest.length c
      if endsWord c.head then some (some (String.ofList handle, String.ofList (start ++ more)), c) else none
  else some (some ("", ""), if endsLine c.head then c else c.skipLine)

/-- A directive, which takes its whole line. -/
def directive? (s : Scan) : Option Scan := do
  let s ← (s.closeBlocks (-1)).dropKey?
  let c := s.at_.skip 1
  let name := c.rest.takeWhile isWordChar
  let c := c.skip name.length
  if name.isEmpty || !endsWord c.head then none
  else
    let (tag, c) ← directiveBody? (String.ofList name) c
    let c ← c.skipRest?
    if endsLine c.head then some ({ s with at_ := c.skipBreak, keyAllowed := false }.push (.directive tag))
    else none

/-- The mark between documents. -/
def documentMark? (s : Scan) (t : Token) : Option Scan := do
  let s ← (s.closeBlocks (-1)).dropKey?
  return { s with at_ := s.at_.skip 3, keyAllowed := false }.push t

/-- The mark of an anchor or an alias with its name. -/
def reference? (s : Scan) (token : String → Token) (isAnchor : Bool) : Option Scan :=
  let s := s.saveKey
  let column := s.at_.column
  let c := s.at_.skip 1
  let name := c.rest.takeWhile fun ch => !endsWord ch && !isBracketMark ch && ch != '\uFEFF'
  if name.isEmpty then none
  else
    let s := { s with at_ := c.skip name.length, keyAllowed := false }.push (token (String.ofList name))
    some { s with property := if isAnchor then some column else none }

/-- The handle and the rest of a tag. -/
def tagParts? (c : Cursor) : Option (String × String × Cursor) :=
  if c.peek 1 = '<' then do
    let (text, c) ← uri? isUriChar c.rest.length (c.skip 2)
    if c.head = '>' then return ("", String.ofList text, c.skip 1) else none
  else do
    let (handle, c) ← handle? c
    let (text, c) ← uri? isTagChar c.rest.length c
    if 2 ≤ handle.length ∧ handle.getLast? = some '!' then
      if text.isEmpty then none else return (String.ofList handle, String.ofList text, c)
    else
      let suffix := handle.drop 1 ++ text
      if suffix.isEmpty then return ("", "!", c) else return ("!", String.ofList suffix, c)

/-- A tag. -/
def tag? (s : Scan) : Option Scan := do
  let s := s.saveKey
  let column := s.at_.column
  let (handle, suffix, c) ← tagParts? s.at_
  if endsWord c.head || (s.depth ≠ 0 && isBracketMark c.head) then
    let s := { s with at_ := c, keyAllowed := false }.push (.tag handle suffix)
    return { s with property := some column }
  else none

/-! ## Collections -/

/-- Ends a mapping without braces in the innermost square brackets. -/
def endBare (s : Scan) : Scan :=
  match s.bare with
  | true :: rest => { s with bare := false :: rest, braced := false }.push .closingBrace
  | _ => s

/-- An opening bracket or brace. -/
def open? (s : Scan) (t : Token) : Option Scan :=
  let s := s.saveKey.indentOne
  if s.depth = depthLimit then none
  else
    let s := { s with keys := {} :: s.keys, depth := s.depth + 1, keyAllowed := true }
    let s := if t = .openingBrace then { s with braced := true } else { s with bare := false :: s.bare }
    s.mark? t

/-- A closing bracket or brace. -/
def close? (s : Scan) (t : Token) : Option Scan := do
  let s ← s.dropKey?
  let s := if s.depth = 0 then s else { s with depth := s.depth - 1, keys := s.keys.tail }
  let s := { s with keyAllowed := false }
  let s := if t = .closing then { s.endBare with bare := s.bare.tail } else s
  let s ← s.mark? t
  return if s.depth = 0 then s else { s with adjacent := s.at_.index }

/-- A comma between brackets. -/
def comma? (s : Scan) : Option Scan := do
  let s ← s.dropKey?
  { s with keyAllowed := true }.endBare.mark? .comma

/-- The hyphen of an item. -/
def item? (s : Scan) : Option Scan := do
  if s.depth ≠ 0 || !s.keyAllowed then none
  else if s.at_.column = 0 ∧ s.property = some 0 ∧ -1 < s.indent then none
  else
    let column := s.at_.column
    let s := { s with at_ := s.at_.skip 1 }.openBlock column s.tokens.size .sequenceStart
    let (trail, c) ← s.at_.skipTrail? true
    if trail.tab && c.head == '-' && endsWord (c.peek 1) then none
    else
      let (_, c) ← c.skipTrail? false
      let s := { s with at_ := c }
      let s := if isBreak c.head || isBracketMark c.head then s.indentOne else s
      let s ← s.dropKey?
      return { s with keyAllowed := true }.push .item

/-- The question mark of a key that needs one. -/
def key? (s : Scan) : Option Scan := do
  let s ←
    if s.depth ≠ 0 then some { s with braced := true }
    else if !s.keyAllowed then none
    else some (s.openBlock s.at_.column s.tokens.size .mappingStart)
  let s ← s.dropKey?
  let s := { s with keyAllowed := s.depth == 0, at_ := s.at_.skip 1 }
  let s ← skipSpace? (s.at_.rest.length + 1) false s
  if s.at_.head = '\t' then none else return s.push .key

/-- The colon between a key and its value. -/
def value? (s : Scan) : Option Scan := do
  let key := s.keys.headD {}
  let start := s.at_
  let isBare := !s.bare.isEmpty && !s.braced
  let s := if isBare then { s with bare := true :: s.bare.tail } else s
  let c := s.at_.skip 1
  let c ←
    if c.head = '\t' then do
      let (trail, c) ← c.skipTrail? true
      if !trail.space && isWordChar c.head then none else some c
    else some c
  let s := { s with at_ := c }
  if key.possible then
    if isBare ∧ key.at_.line < start.line then none
    else
      let s := s.insert key.token .key
      let s := if isBare then s.insert key.token .openingBrace else s
      let s := (s.openBlock key.at_.column key.token .mappingStart).indentOne
      let s := { s with keys := { key with possible := false } :: s.keys.tail, keyAllowed := false }
      return s.push .value
  else
    let s := if isBare then s.push .openingBrace else s
    if s.depth ≠ 0 then return { s with keyAllowed := false }.push .value
    else if !s.keyAllowed then none
    else
      let s := (s.openBlock start.column s.tokens.size .mappingStart).indentOne
      return { s with keyAllowed := true }.push .value

/-! ## Scalars -/

/-- A plain scalar. -/
def plain? (s : Scan) : Option Scan := do
  let s := s.saveKey.dropExtra
  let (text, c) ← Yaml.plain? (s.indent + 1) (s.depth ≠ 0) s.at_
  return { s with at_ := c, keyAllowed := c.fresh }.push (.scalar true text)

/-- A quoted scalar. -/
def quoted? (s : Scan) : Option Scan := do
  let s := s.saveKey
  let (text, c) ← Yaml.quoted? s.indent (s.depth ≠ 0) s.at_
  let s ← skipGap? (c.rest.length + 1) { s with at_ := c, keyAllowed := false }
  return { s with adjacent := s.at_.index }.push (.scalar false text)

/-- A block of lines. -/
def block? (s : Scan) : Option Scan := do
  let s := s.saveKey.dropExtra
  let (text, c) ← Yaml.block? s.indent s.at_
  return { s with at_ := c, keyAllowed := true }.push (.scalar false text)

/-! ## The text -/

/-- The end of the text. -/
def end? (s : Scan) : Option Scan :=
  if s.keys.any fun k => k.required && k.possible then none
  else some ((s.closeBlocks (-1)).push .textEnd)

/-- The next token at a place where one begins. -/
def token? (s : Scan) : Option Scan :=
  let c := s.at_
  let next := c.peek 1
  let bracketed := s.depth ≠ 0
  match c.head with
  | '[' => s.open? .opening
  | '\x7b' => s.open? .openingBrace
  | ']' => s.close? .closing
  | '\x7d' => s.close? .closingBrace
  | ',' => s.comma?
  | '-' => if endsWord next then s.item? else s.plain?
  | '?' => if endsWord next then s.key? else s.plain?
  | ':' =>
    if endsWord next || (bracketed && (isBracketMark next || c.index == s.adjacent)) then s.value?
    else s.plain?
  | '*' => s.reference? .alias false
  | '&' => s.reference? .anchor true
  | '!' => s.tag?
  | '|' | '>' => if bracketed then s.plain? else s.block?
  | '\'' | '"' => s.quoted?
  | '%' | '@' | '\x60' => none
  | _ => s.plain?

/-- The tokens up to the end of the text; `fuel` bounds their number. -/
def run? : Nat → Scan → Option (List Token)
  | 0, _ => none
  | fuel + 1, s => do
    let s ← skipGap? (s.at_.rest.length + 1) s
    let s ← s.dropStaleKeys?
    let s := s.closeBlocks s.at_.column
    let c := s.at_
    if c.head = endMark then return (← s.end?).tokens.toList
    else if c.column = 0 ∧ c.head = '%' then run? fuel (← s.directive?)
    else if c.atMarks '-' then run? fuel (← s.documentMark? .documentStart)
    else if c.atMarks '.' then
      let s ← s.documentMark? .documentEnd
      let c ← s.at_.skipRest?
      if endsLine c.head then run? fuel { s with at_ := c } else none
    else if (c.column : Int) < s.indent then none
    else run? fuel (← s.token?)

end Scan

/-- The tokens of a text. -/
def tokens? (cs : List Char) : Option (List Token) :=
  Scan.run? (cs.length + 2) { at_ := Cursor.ofChars cs }

end Yaml
end RecordingHarvest
