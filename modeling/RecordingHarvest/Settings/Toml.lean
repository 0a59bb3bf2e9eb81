import RecordingHarvest.Number.Digits
import RecordingHarvest.Settings.Tree
import RecordingHarvest.Text.Hex

/-!
# TOML documents

A document is a row of lines: entries `key = value`, headers `[table]` and `[[item]]`, comments and
blanks.  Keys may be dotted.  `Node` keeps how a table came about, because a table must not be
defined twice: not by two headers, nor by a header and dotted keys.
-/

namespace RecordingHarvest
namespace Toml

open Number (isDigit valueOf)

/-! ## Characters and lines -/

def isBareChar (c : Char) : Bool := c.isAlphanum || c == '_' || c == '-'

/-- A character that texts and comments may hold: no control character but the tab. -/
def isTextChar (c : Char) : Bool := c == '\t' || (0x20 ≤ c.toNat && c.toNat != 0x7F)

def skipBlanks (cs : List Char) : List Char := cs.dropWhile fun c => c == ' ' || c == '\t'

/-- What follows a line break. -/
def lineBreak? : List Char → Option (List Char)
  | '\n' :: rest => some rest
  | '\r' :: '\n' :: rest => some rest
  | _ => none

/-- What follows a comment, if one stands here. -/
def skipComment : List Char → List Char
  | '#' :: rest => rest.dropWhile isTextChar
  | rest => rest

/-- What follows the end of a line, blanks and a comment before it skipped. -/
def lineEnd? (cs : List Char) : Option (List Char) :=
  match skipComment (skipBlanks cs) with
  | [] => some []
  | rest => lineBreak? rest

/-- Skips blanks, line breaks and comments; `fuel` bounds the number of lines. -/
def skipLines : Nat → List Char → List Char
  | 0, cs => cs
  | fuel + 1, cs =>
    let rest := skipComment (skipBlanks cs)
    match lineBreak? rest with
    | some rest => skipLines fuel rest
    | none => rest

/-! ## Strings -/

/-- The character of a code point given in hexadecimal digits, if there is one. -/
def codePoint? (ds : List Char) : Option Char := do
  let n ← ds.foldlM (fun v d => (Text.hexValue d).map (16 * v + ·)) 0
  if n < 0xD800 ∨ (0xDFFF < n ∧ n < 0x110000) then some (Char.ofNat n) else none

/-- The character of an escape, and what follows. -/
def escape? : List Char → Option (Char × List Char)
  | 'b' :: rest => some ('\x08', rest)
  | 't' :: rest => some ('\t', rest)
  | 'n' :: rest => some ('\n', rest)
  | 'f' :: rest => some ('\x0c', rest)
  | 'r' :: rest => some ('\r', rest)
  | '"' :: rest => some ('"', rest)
  | '\\' :: rest => some ('\\', rest)
  | 'u' :: rest =>
    if rest.length < 4 then none else (codePoint? (rest.take 4)).map fun c => (c, rest.drop 4)
  | 'U' :: rest =>
    if rest.length < 8 then none else (codePoint? (rest.take 8)).map fun c => (c, rest.drop 8)
  | _ => none

/-- The body of a string on one line up to its quote; with `raw` a backslash is a character like any
other.  `fuel` bounds the length. -/
def lineString? (quote : Char) (raw : Bool) : Nat → List Char → Option (List Char × List Char)
  | 0, _ => none
  | _, [] => none
  | fuel + 1, c :: rest =>
    if c = quote then some ([], rest)
    else if c = '\\' ∧ !raw then do
      let (e, rest) ← escape? rest
      let (body, rest) ← lineString? quote raw fuel rest
      return (e :: body, rest)
    else if isTextChar c then
      (lineString? quote raw fuel rest).map fun (body, rest) => (c :: body, rest)
    else none

/-- Skips blanks and line breaks; `fuel` bounds the number of lines. -/
def skipEmptyLines : Nat → List Char → List Char
  | 0, cs => cs
  | fuel + 1, cs =>
    match lineBreak? (skipBlanks cs) with
    | some rest => skipEmptyLines fuel rest
    | none => skipBlanks cs

/-- What follows a backslash that ends a line: all blanks and line breaks are skipped. -/
def continued? (cs : List Char) : Option (List Char) :=
  (lineBreak? (skipBlanks cs)).map fun rest => skipEmptyLines rest.length rest

/-- The body of a string over many lines up to its three quotes; up to two quotes before them
belong to the body. -/
def blockString? (quote : Char) (raw : Bool) : Nat → List Char → Option (List Char × List Char)
  | 0, _ => none
  | _, [] => none
  | fuel + 1, c :: rest =>
    let quotes := ((c :: rest).takeWhile (· == quote)).length
    if 3 ≤ quotes then
      let kept := min (quotes - 3) 2
      some (List.replicate kept quote, (c :: rest).drop (kept + 3))
    else if c = '\\' ∧ !raw then
      match continued? rest with
      | some rest => blockString? quote raw fuel rest
      | none => do
        let (e, rest) ← escape? rest
        let (body, rest) ← blockString? quote raw fuel rest
        return (e :: body, rest)
    else
      match lineBreak? (c :: rest) with
      | some rest => (blockString? quote raw fuel rest).map fun (body, rest) => ('\n' :: body, rest)
      | none =>
        if isTextChar c then
          (blockString? quote raw fuel rest).map fun (body, rest) => (c :: body, rest)
        else none

/-- A block string without the line break right behind its opening quotes. -/
def block? (quote : Char) (raw : Bool) (cs : List Char) : Option (List Char × List Char) :=
  blockString? quote raw cs.length ((lineBreak? cs).getD cs)

/-- A string of any of the four kinds. -/
def string? : List Char → Option (List Char × List Char)
  | '"' :: '"' :: '"' :: rest => block? '"' false rest
  | '\'' :: '\'' :: '\'' :: rest => block? '\'' true rest
  | '"' :: rest => lineString? '"' false rest.length rest
  | '\'' :: rest => lineString? '\'' true rest.length rest
  | _ => none

/-! ## Numbers -/

/-- Digits with single underscores between them, underscores dropped; `seen` tells whether a digit
stands just before.  Gives the digits taken and what follows. -/
def groupedDigits (digit : Char → Bool) (seen : Bool) : List Char → List Char × List Char
  | '_' :: c :: rest =>
    if seen && digit c then
      let (ds, rest) := groupedDigits digit true rest
      (c :: ds, rest)
    else ([], '_' :: c :: rest)
  | c :: rest =>
    if digit c then
      let (ds, rest) := groupedDigits digit true rest
      (c :: ds, rest)
    else ([], c :: rest)
  | [] => ([], [])

/-- At least one digit. -/
def digits? (digit : Char → Bool) (cs : List Char) : Option (List Char × List Char) :=
  let (ds, rest) := groupedDigits digit false cs
  if ds.isEmpty then none else some (ds, rest)

/-- The whole part of a number: a lone zero, or digits that do not begin with one. -/
def wholePart? : List Char → Option (List Char × List Char)
  | '0' :: rest => some (['0'], rest)
  | cs => digits? isDigit cs

/-- A whole number in another base, its mark already read. -/
def based? (base : Nat) (digit : Char → Bool) (cs : List Char) : Option (Setting × List Char) := do
  let (ds, rest) ← digits? digit cs
  let n := ds.foldl (fun v d => base * v + (Text.hexValue d).getD 0) 0
  if n < Number.width63 then some (.int n, rest) else none

/-- A decimal whole number. -/
def integer? (cs : List Char) : Option (Setting × List Char) := do
  let (negative, rest) := Number.signOf cs
  let (ds, rest) ← wholePart? rest
  let n : Int := if negative then -(valueOf ds : Int) else valueOf ds
  if -(Number.width63 : Int) ≤ n ∧ n < Number.width63 then some (.int n, rest) else none

/-- The exponent of a double. -/
def exponent? : List Char → Option (Int × List Char)
  | c :: rest =>
    if c = 'e' ∨ c = 'E' then do
      let (negative, rest) := Number.signOf rest
      let (ds, rest) ← digits? isDigit rest
      return (if negative then -(valueOf ds : Int) else valueOf ds, rest)
    else none
  | [] => none

/-- A double: a whole part with decimals, an exponent or both; or `inf` or `nan`.  One that is too
large for a double is refused. -/
def double? (cs : List Char) : Option (Setting × List Char) :=
  let (negative, rest) := Number.signOf cs
  let signed (x : Float) : Setting := .float (if negative then -x else x)
  match rest with
  | 'i' :: 'n' :: 'f' :: rest => some (signed (1.0 / 0.0), rest)
  | 'n' :: 'a' :: 'n' :: rest => some (signed (0.0 / 0.0), rest)
  | _ => do
    let (whole, rest) ← wholePart? rest
    let (decimals, e, rest) ← match rest with
      | '.' :: rest => do
        let (ds, rest) ← digits? isDigit rest
        let (e, rest) := (exponent? rest).getD (0, rest)
        pure (ds, e, rest)
      | rest => (exponent? rest).map fun (e, rest) => ([], e, rest)
    let x := Number.nearest (valueOf (whole ++ decimals)) (e - decimals.length)
    if x.isInf ∧ !negative then none else some (signed x, rest)

/-! ## Dates and times -/

/-- Exactly `n` digits. -/
def fixed? (n : Nat) (cs : List Char) : Option (Nat × List Char) :=
  let ds := cs.take n
  if ds.length = n ∧ ds.all isDigit then some (valueOf ds, cs.drop n) else none

/-- What follows an expected character. -/
def after? (c : Char) : List Char → Option (List Char)
  | d :: rest => if d = c then some rest else none
  | [] => none

def two (n : Nat) : List Char := Number.padded 2 n

/-- A date that exists, as it is written. -/
def date? (cs : List Char) : Option (List Char × List Char) := do
  let (y, rest) ← fixed? 4 cs
  let (m, rest) ← fixed? 2 (← after? '-' rest)
  let (d, rest) ← fixed? 2 (← after? '-' rest)
  let leap := y % 4 = 0 ∧ (y % 100 ≠ 0 ∨ y % 400 = 0)
  let lengths := [31, if leap then 29 else 28, 31, 30, 31, 30, 31, 31, 30, 31, 30, 31]
  if 1 ≤ m ∧ 1 ≤ d ∧ d ≤ lengths.getD (m - 1) 0 then
    some (Number.padded 4 y ++ '-' :: two m ++ '-' :: two d, rest)
  else none

/-- A time of day without the zeros at the end of its decimals; digits past nanoseconds are
dropped. -/
def time? (cs : List Char) : Option (List Char × List Char) := do
  let (h, rest) ← fixed? 2 cs
  let (m, rest) ← fixed? 2 (← after? ':' rest)
  let (s, rest) ← fixed? 2 (← after? ':' rest)
  let (decimals, rest) := match rest with
    | '.' :: more =>
      let ds := more.takeWhile isDigit
      if ds.isEmpty then ([], rest)
      else
        let kept := ((ds.take 9).reverse.dropWhile (· == '0')).reverse
        (if kept.isEmpty then [] else '.' :: kept, more.dropWhile isDigit)
    | _ => ([], rest)
  if h < 24 ∧ m < 60 ∧ s ≤ 60 then
    some (two h ++ ':' :: two m ++ ':' :: two s ++ decimals, rest)
  else none

/-- An offset from universal time; none at all has a plus sign. -/
def offset? : List Char → Option (List Char × List Char)
  | 'Z' :: rest | 'z' :: rest => some (['Z'], rest)
  | c :: rest =>
    if c = '+' ∨ c = '-' then do
      let (h, rest) ← fixed? 2 rest
      let (m, rest) ← fixed? 2 (← after? ':' rest)
      let sign := if h = 0 ∧ m = 0 then '+' else c
      if h < 24 ∧ m < 60 then some (sign :: two h ++ ':' :: two m, rest) else none
    else none
  | [] => none

/-- A date, a time, or both with or without an offset; it is kept as a text. -/
def moment? (cs : List Char) : Option (Setting × List Char) :=
  let shown (text rest : List Char) : Option (Setting × List Char) :=
    some (.text (String.ofList text), rest)
  match date? cs with
  | none => (time? cs).bind fun (text, rest) => shown text rest
  | some (date, rest) =>
    let timed := match rest with
      | 'T' :: more | 't' :: more | ' ' :: more => time? more
      | _ => none
    match timed with
    | none => shown date rest
    | some (time, rest) =>
      let (zone, rest) := (offset? rest).getD ([], rest)
      shown (date ++ 'T' :: time ++ zone) rest

/-! ## Keys and tables -/

/-- One part of a key. -/
def simpleKey? : List Char → Option (String × List Char)
  | '"' :: rest => (lineString? '"' false rest.length rest).map fun (k, rest) => (String.ofList k, rest)
  | '\'' :: rest => (lineString? '\'' true rest.length rest).map fun (k, rest) => (String.ofList k, rest)
  | cs =>
    let k := cs.takeWhile isBareChar
    if k.isEmpty then none else some (String.ofList k, cs.dropWhile isBareChar)

/-- How deep values may be nested, and how many parts a key may have, plus one. -/
def depthLimit : Nat := 80

/-- A dotted key of at most `room` parts: its last part, the parts before it, and what follows with
blanks skipped. -/
def keyWithin? : Nat → List Char → Option ((List String × String) × List Char)
  | 0, _ => none
  | room + 1, cs => do
    let (k, rest) ← simpleKey? (skipBlanks cs)
    match skipBlanks rest with
    | '.' :: rest =>
      let ((path, last), rest) ← keyWithin? room rest
      return ((k :: path, last), rest)
    | rest => return (([], k), rest)

/-- A dotted key. -/
def key? : List Char → Option ((List String × String) × List Char) := keyWithin? (depthLimit - 1)

/-- How a table came about. -/
inductive Origin where
  /-- On the way to a header's table. -/
  | implied
  /-- By a header of its own. -/
  | headed
  /-- On the way to a dotted key. -/
  | dotted
  deriving DecidableEq, Repr

/-- What a name of a document stands for. -/
inductive Node where
  /-- A value; nothing can be added to it. -/
  | value (v : Setting)
  | table (origin : Origin) (entries : List (String × Node))
  /-- The tables that headers in double brackets added. -/
  | tables (items : List (List (String × Node)))
  deriving Repr

/-- The entries of a table. -/
abbrev Nodes := List (String × Node)

namespace Nodes

def find? (ns : Nodes) (key : String) : Option Node := List.lookup key ns

/-- Replaces what a name stands for. -/
def replace (ns : Nodes) (key : String) (n : Node) : Nodes :=
  ns.map fun (k, old) => (k, if k = key then n else old)

/-- Adds a value under a dotted key.  A table on the way must not have a header of its own, and the
last one must have come about by dotted keys; a name must not stand twice. -/
def add : List String → String → Setting → Nodes → Option Nodes
  | [], key, v, ns => if (ns.find? key).isSome then none else some (ns ++ [(key, .value v)])
  | k :: path, key, v, ns =>
    match ns.find? k with
    | none => (add path key v []).map fun inner => ns ++ [(k, .table .dotted inner)]
    | some (.table origin inner) =>
      if origin = .headed ∨ (path.isEmpty ∧ origin ≠ .dotted) then none
      else (add path key v inner).map fun inner => ns.replace k (.table origin inner)
    | some (.tables items) =>
      if path.isEmpty then none
      else
        match items.getLast? with
        | none => none
        | some inner =>
          (add path key v inner).map fun inner => ns.replace k (.tables (items.dropLast ++ [inner]))
    | some (.value _) => none

/-- Changes the table at a path of headers; tables on the way come about, and of several the last
one counts. -/
def within : List String → (Nodes → Option Nodes) → Nodes → Option Nodes
  | [], f, ns => f ns
  | k :: path, f, ns =>
    match ns.find? k with
    | none => (within path f []).map fun inner => ns ++ [(k, .table .implied inner)]
    | some (.table origin inner) =>
      (within path f inner).map fun inner => ns.replace k (.table origin inner)
    | some (.tables items) =>
      match items.getLast? with
      | none => none
      | some inner =>
        (within path f inner).map fun inner => ns.replace k (.tables (items.dropLast ++ [inner]))
    | some (.value _) => none

/-- Gives a table a header of its own, once. -/
def openTable (key : String) (ns : Nodes) : Option Nodes :=
  match ns.find? key with
  | none => some (ns ++ [(key, .table .headed [])])
  | some (.table .implied inner) => some (ns.replace key (.table .headed inner))
  | some _ => none

/-- Adds a table to a list of tables. -/
def openItem (key : String) (ns : Nodes) : Option Nodes :=
  match ns.find? key with
  | none => some (ns ++ [(key, .tables [[]])])
  | some (.tables items) => some (ns.replace key (.tables (items ++ [[]])))
  | some _ => none

end Nodes

/-- The name that, first in a table, makes the table a date or a time given as a text. -/
def momentName : String := "$__toml_private_datetime"

/-- The setting of a table with these entries. -/
def tableSetting? : List (String × Setting) → Option Setting
  | (k, v) :: rest =>
    if k = momentName then
      match v with
      | .text s =>
        match moment? s.toList with
        | some (m, []) => some m
        | _ => none
      | _ => none
    else some (.table ((k, v) :: rest))
  | [] => some (.table [])

mutual

/-- The setting of a node. -/
def Node.toSetting? : Node → Option Setting
  | .value v => some v
  | .table _ entries => (Nodes.toEntries? entries).bind tableSetting?
  | .tables items => (Nodes.toItems? items).map .list

/-- The settings of a table's entries. -/
def Nodes.toEntries? : List (String × Node) → Option (List (String × Setting))
  | [] => some []
  | (k, n) :: rest => do
    let v ← n.toSetting?
    let vs ← Nodes.toEntries? rest
    return (k, v) :: vs

/-- The settings of a list of tables. -/
def Nodes.toItems? : List (List (String × Node)) → Option (List Setting)
  | [] => some []
  | ns :: rest => do
    let v ← (← Nodes.toEntries? ns) |> tableSetting?
    let vs ← Nodes.toItems? rest
    return v :: vs

end

/-! ## Values -/

/-- A value that is no list and no table. -/
def scalar? (cs : List Char) : Option (Setting × List Char) :=
  match cs with
  | 't' :: 'r' :: 'u' :: 'e' :: rest => some (.bool true, rest)
  | 'f' :: 'a' :: 'l' :: 's' :: 'e' :: rest => some (.bool false, rest)
  | '0' :: 'x' :: rest => based? 16 (fun c => (Text.hexValue c).isSome) rest
  | '0' :: 'o' :: rest => based? 8 (fun c => '0' ≤ c && c ≤ '7') rest
  | '0' :: 'b' :: rest => based? 2 (fun c => c == '0' || c == '1') rest
  | '"' :: _ | '\'' :: _ => (string? cs).map fun (body, rest) => (.text (String.ofList body), rest)
  | _ => ((moment? cs).or (double? cs)).or (integer? cs)

mutual

/-- A value and what follows, with `room` more levels below it; `fuel` bounds the steps. -/
def value? (fuel room : Nat) (cs : List Char) : Option (Setting × List Char) :=
  match fuel with
  | 0 => none
  | fuel + 1 =>
    match cs, room with
    | '[' :: rest, room + 1 => (items? fuel room rest).map fun (xs, rest) => (.list xs, rest)
    | '\x7b' :: rest, room + 1 =>
      match skipBlanks rest with
      | '\x7d' :: rest => some (.table [], rest)
      | rest => do
        let (ns, rest) ← members? fuel room [] rest
        let v ← (← Nodes.toEntries? ns) |> tableSetting?
        return (v, rest)
    | cs, _ => scalar? cs

/-- The items of a list up to its bracket; line breaks and comments may stand between them. -/
def items? (fuel room : Nat) (cs : List Char) : Option (List Setting × List Char) :=
  match fuel with
  | 0 => none
  | fuel + 1 =>
    match skipLines cs.length cs with
    | ']' :: rest => some ([], rest)
    | rest => do
      let (x, rest) ← value? fuel room rest
      match skipLines rest.length rest with
      | ',' :: rest =>
        let (xs, rest) ← items? fuel room rest
        return (x :: xs, rest)
      | ']' :: rest => return ([x], rest)
      | _ => none

/-- The members of a table on one line up to its brace. -/
def members? (fuel room : Nat) (ns : Nodes) (cs : List Char) : Option (Nodes × List Char) :=
  match fuel with
  | 0 => none
  | fuel + 1 => do
    let ((path, key), rest) ← key? cs
    let (v, rest) ← value? fuel room (skipBlanks (← after? '=' rest))
    let ns ← ns.add path key v
    match skipBlanks rest with
    | ',' :: rest => members? fuel room ns rest
    | '\x7d' :: rest => return (ns, rest)
    | _ => none

end

/-! ## Documents -/

/-- What one line says. -/
inductive Line where
  | blank
  | entry (path : List String) (key : String) (v : Setting)
  | header (path : List String) (key : String)
  | item (path : List String) (key : String)
  deriving Repr

/-- One line and what follows its end. -/
def line? (cs : List Char) : Option (Line × List Char) :=
  match skipBlanks cs with
  | [] => some (.blank, [])
  | '[' :: '[' :: rest => do
    let ((path, key), rest) ← key? rest
    let rest ← lineEnd? (← after? ']' (← after? ']' rest))
    return (.item path key, rest)
  | '[' :: rest => do
    let ((path, key), rest) ← key? rest
    let rest ← lineEnd? (← after? ']' rest)
    return (.header path key, rest)
  | rest =>
    match lineEnd? rest with
    | some rest => some (.blank, rest)
    | none => do
      let ((path, key), rest) ← key? rest
      let rest := skipBlanks (← after? '=' rest)
      let (v, rest) ← value? (2 * rest.length + 2) (depthLimit - 1) rest
      return (.entry path key v, ← lineEnd? rest)

/-- The lines of a document in the table whose header stands last; `fuel` bounds their number. -/
def lines? : Nat → List String → Nodes → List Char → Option Nodes
  | _, _, ns, [] => some ns
  | 0, _, _, _ => none
  | fuel + 1, current, ns, cs => do
    let (line, rest) ← line? cs
    match line with
    | .blank => lines? fuel current ns rest
    | .entry path key v => lines? fuel current (← ns.within current (·.add path key v)) rest
    | .header path key => lines? fuel (path ++ [key]) (← ns.within path (·.openTable key)) rest
    | .item path key => lines? fuel (path ++ [key]) (← ns.within path (·.openItem key)) rest

/-- The entries of a document whose root is a table; a byte order mark in front is skipped. -/
def ofChars? (cs : List Char) : Option (List (String × Setting)) :=
  let cs := match cs with
    | '\uFEFF' :: rest => rest
    | cs => cs
  match (lines? cs.length [] [] cs).bind Nodes.toEntries? with
  | some entries =>
    match tableSetting? entries with
    | some (.table entries) => some entries
    | _ => none
  | none => none

end Toml
end RecordingHarvest
