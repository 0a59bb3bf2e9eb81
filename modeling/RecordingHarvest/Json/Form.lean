import RecordingHarvest.Json.Value
import RecordingHarvest.Number.Digits
import RecordingHarvest.Text.Hex

/-!
# The form of a JSON text

Reading a JSON text has two steps.  `Form.ofChars?` checks the grammar and keeps strings and
numbers as they are written.  `Form.value?` then evaluates: escapes become characters, numerals
become numbers, and objects keep the last of two equal keys.  A part of a text that nobody asks
for is never evaluated, so a numeral out of range or a lone surrogate in it does no harm.
-/

namespace RecordingHarvest
namespace Json

open Number

/-- A numeral as written: sign, whole digits, decimals, and exponent sign with its digits. -/
structure Numeral where
  negative : Bool
  whole : List Char
  decimals : List Char
  exponent : Option (Bool × List Char)
  deriving Repr

/-- A JSON text that obeys the grammar; strings keep their escapes. -/
inductive Form where
  | null
  | bool (b : Bool)
  | number (n : Numeral)
  | text (body : List Char)
  | list (items : List Form)
  | record (members : List (List Char × Form))
  deriving Repr

namespace Form

/-- The blanks between tokens. -/
def isSpace (c : Char) : Bool := c == ' ' || c == '\t' || c == '\n' || c == '\r'

def skipSpace (cs : List Char) : List Char := cs.dropWhile isSpace

/-- The text after an expected beginning. -/
def after? : List Char → List Char → Option (List Char)
  | [], cs => some cs
  | _ :: _, [] => none
  | e :: es, c :: cs => if e = c then after? es cs else none

/-- The body of a string up to its closing quote, escapes checked but kept, and what follows. -/
def string? : List Char → Option (List Char × List Char)
  | [] => none
  | '"' :: rest => some ([], rest)
  | '\\' :: 'u' :: a :: b :: c :: d :: rest =>
    if [a, b, c, d].all (fun h => (Text.hexValue h).isSome) then
      (string? rest).map fun (body, rest) => ('\\' :: 'u' :: a :: b :: c :: d :: body, rest)
    else none
  | '\\' :: e :: rest =>
    if ['"', '\\', '/', 'b', 'f', 'n', 'r', 't'].contains e then
      (string? rest).map fun (body, rest) => ('\\' :: e :: body, rest)
    else none
  | c :: rest =>
    if c == '\\' || c.toNat < 0x20 then none
    else (string? rest).map fun (body, rest) => (c :: body, rest)

/-- A run of digits, at least one. -/
def digits? (cs : List Char) : Option (List Char × List Char) :=
  let ds := cs.takeWhile isDigit
  if ds.isEmpty then none else some (ds, cs.dropWhile isDigit)

/-- The whole part of a numeral: a lone zero, or digits that do not begin with one. -/
def whole? : List Char → Option (List Char × List Char)
  | '0' :: rest =>
    match rest with
    | c :: _ => if isDigit c then none else some (['0'], rest)
    | [] => some (['0'], [])
  | cs => digits? cs

/-- The decimals, if a point stands here. -/
def decimals? : List Char → Option (List Char × List Char)
  | '.' :: rest => digits? rest
  | cs => some ([], cs)

/-- The exponent, if its letter stands here. -/
def exponent? : List Char → Option (Option (Bool × List Char) × List Char)
  | c :: rest =>
    if c = 'e' ∨ c = 'E' then
      match rest with
      | '-' :: rest => (digits? rest).map fun (ds, rest) => (some (true, ds), rest)
      | '+' :: rest => (digits? rest).map fun (ds, rest) => (some (false, ds), rest)
      | rest => (digits? rest).map fun (ds, rest) => (some (false, ds), rest)
    else some (none, c :: rest)
  | [] => some (none, [])

/-- A numeral and what follows it. -/
def numeral? (cs : List Char) : Option (Numeral × List Char) := do
  let (negative, cs) := match cs with
    | '-' :: rest => (true, rest)
    | cs => (false, cs)
  let (whole, cs) ← whole? cs
  let (decimals, cs) ← decimals? cs
  let (exponent, cs) ← exponent? cs
  return (⟨negative, whole, decimals, exponent⟩, cs)

mutual

/-- One value with the blanks before it, and what follows; `fuel` bounds the steps and the length
of the text is always enough. -/
def value (fuel : Nat) (cs : List Char) : Option (Form × List Char) :=
  match fuel with
  | 0 => none
  | fuel + 1 =>
    match skipSpace cs with
    | '"' :: rest => (string? rest).map fun (body, rest) => (.text body, rest)
    | '[' :: rest =>
      match skipSpace rest with
      | ']' :: rest => some (.list [], rest)
      | rest => (items fuel rest).map fun (xs, rest) => (.list xs, rest)
    | '\x7b' :: rest =>
      match skipSpace rest with
      | '\x7d' :: rest => some (.record [], rest)
      | rest => (entries fuel rest).map fun (ms, rest) => (.record ms, rest)
    | 'n' :: rest => (after? ['u', 'l', 'l'] rest).map fun rest => (.null, rest)
    | 't' :: rest => (after? ['r', 'u', 'e'] rest).map fun rest => (.bool true, rest)
    | 'f' :: rest => (after? ['a', 'l', 's', 'e'] rest).map fun rest => (.bool false, rest)
    | rest => (numeral? rest).map fun (n, rest) => (.number n, rest)

/-- The items of a list up to its closing bracket. -/
def items (fuel : Nat) (cs : List Char) : Option (List Form × List Char) :=
  match fuel with
  | 0 => none
  | fuel + 1 => do
    let (x, rest) ← value fuel cs
    match skipSpace rest with
    | ',' :: rest =>
      let (xs, rest) ← items fuel rest
      return (x :: xs, rest)
    | ']' :: rest => return ([x], rest)
    | _ => none

/-- The members of a record up to its closing brace. -/
def entries (fuel : Nat) (cs : List Char) : Option (List (List Char × Form) × List Char) :=
  match fuel with
  | 0 => none
  | fuel + 1 =>
    match skipSpace cs with
    | '"' :: rest => do
      let (key, rest) ← string? rest
      match skipSpace rest with
      | ':' :: rest =>
        let (x, rest) ← value fuel rest
        match skipSpace rest with
        | ',' :: rest =>
          let (ms, rest) ← entries fuel rest
          return ((key, x) :: ms, rest)
        | '\x7d' :: rest => return ([(key, x)], rest)
        | _ => none
      | _ => none
    | _ => none

end

/-- The form of a whole text, blanks around it allowed. -/
def ofChars? (cs : List Char) : Option Form :=
  match value (2 * cs.length + 2) cs with
  | some (x, rest) => if (skipSpace rest).isEmpty then some x else none
  | none => none

/-! ## Evaluation -/

/-- The code unit of four hexadecimal digits. -/
def codeUnit (a b c d : Char) : Nat :=
  [a, b, c, d].foldl (fun v h => 16 * v + (Text.hexValue h).getD 0) 0

/-- The character of a short escape. -/
def escaped : Char → Char
  | 'b' => '\x08'
  | 'f' => '\x0c'
  | 'n' => '\n'
  | 'r' => '\r'
  | 't' => '\t'
  | c => c

/-- The characters of a string body; a surrogate outside a pair has none. -/
def unescape : List Char → Option (List Char)
  | '\\' :: 'u' :: a :: b :: c :: d :: rest =>
    let unit := codeUnit a b c d
    if unit < 0xD800 ∨ 0xDFFF < unit then
      (unescape rest).map (Char.ofNat unit :: ·)
    else if 0xDC00 ≤ unit then none
    else
      match rest with
      | '\\' :: 'u' :: a :: b :: c :: d :: rest =>
        let low := codeUnit a b c d
        if 0xDC00 ≤ low ∧ low ≤ 0xDFFF then
          (unescape rest).map
            (Char.ofNat (0x10000 + (unit - 0xD800) * 0x400 + (low - 0xDC00)) :: ·)
        else none
      | _ => none
  | '\\' :: e :: rest => (unescape rest).map (escaped e :: ·)
  | c :: rest => (unescape rest).map (c :: ·)
  | [] => some []

end Form

namespace Numeral

/-- The largest whole number of 64 unsigned bits. -/
def wordMax : Nat := width64 - 1

/-- Takes digits into a significand while it stays within 64 bits; gives the significand and the
number of digits taken. -/
def absorb (significand : Nat) : List Char → Nat × Nat
  | [] => (significand, 0)
  | d :: ds =>
    let next := 10 * significand + digitValue d
    if next ≤ wordMax then
      let (s, taken) := absorb next ds
      (s, taken + 1)
    else (significand, 0)

/-- A power of ten up to the three hundred and eighth, as a double. -/
def powerOfTen (n : Nat) : Float := Float.ofScientific 1 false n

/-- Divides by powers of ten in steps of at most 10^308; four steps take any significand to
zero. -/
def scaleDown : Nat → Float → Nat → Float
  | 0, x, _ => x
  | fuel + 1, x, n =>
    if n ≤ 308 then x / powerOfTen n else scaleDown fuel (x / powerOfTen 308) (n - 308)

/-- A significand scaled by a power of ten, in double arithmetic; nothing if it overflows. -/
def scaled (negative : Bool) (significand : Nat) (exponent : Int) : Option Float :=
  let x := significand.toUInt64.toFloat
  let magnitude : Option Float :=
    if exponent < 0 then some (scaleDown 8 x exponent.natAbs)
    else if exponent ≤ 308 then
      let y := x * powerOfTen exponent.toNat
      if y.isInf then none else some y
    else if significand = 0 then some x
    else none
  magnitude.map fun y => if negative then -y else y

/-- The number a numeral stands for.  Without point and exponent it is a whole number as long as it
fits 64 bits, but a negative zero is a double.  Of a longer significand the digits past 64 bits
count as zeros before the point and are dropped behind it. -/
def value? (n : Numeral) : Option Json :=
  let (significand, taken) := absorb 0 n.whole
  let dropped := n.whole.length - taken
  if n.decimals.isEmpty ∧ n.exponent.isNone ∧ dropped = 0 then
    if n.negative then
      if significand = 0 ∨ width63 < significand then
        some (.float (-(significand.toUInt64.toFloat)))
      else some (.int (-(significand : Int)))
    else some (.int significand)
  else
    let (significand, decimals) := absorb significand n.decimals
    let shift : Int := (dropped : Int) - decimals
    match n.exponent with
    | none => (scaled n.negative significand shift).map .float
    | some (down, ds) =>
      let e := valueOf ds
      (scaled n.negative significand (if down then shift - e else shift + e)).map .float

end Numeral

namespace Form

/-- The levels of lists and records that a value may nest. -/
def depthLimit : Nat := 127

/-- The value of a form that nests at most `depth` levels. -/
def value? : Nat → Form → Option Json
  | _, .null => some .null
  | _, .bool b => some (.bool b)
  | _, .number n => n.value?
  | _, .text body => (unescape body).map fun cs => .str (String.ofList cs)
  | 0, .list _ => none
  | 0, .record _ => none
  | depth + 1, .list xs => (xs.mapM (value? depth)).map .arr
  | depth + 1, .record ms =>
    (ms.mapM fun (key, x) => do
      let k ← unescape key
      return (String.ofList k, ← value? depth x)).map fun ms => .obj (Members.ofEntries ms)

end Form

/-- The value of a JSON text. -/
def ofText? (s : String) : Option Json :=
  (Form.ofChars? s.toList).bind (Form.value? Form.depthLimit)

end Json
end RecordingHarvest
