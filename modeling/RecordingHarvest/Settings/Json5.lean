import RecordingHarvest.Settings.Tree
import RecordingHarvest.Text.Classes
import RecordingHarvest.Text.Hex

/-!
# JSON5 documents

JSON with comments, trailing commas, names without quotes, strings in single quotes and over several lines,
and numbers with signs, in hexadecimal digits, or with nothing on one side of the point.
-/

namespace RecordingHarvest
namespace Json5

/-! ## Blanks and comments -/

def isLineEnd (c : Char) : Bool := c == '\n' || c == '\r' || c == '\u2028' || c == '\u2029'

def isSpace (c : Char) : Bool :=
  c == '\uFEFF' || (Text.isBlank c && c != '\u0085')

/-- What follows the end of a comment. -/
def afterComment? : List Char → Option (List Char)
  | [] => none
  | '*' :: '/' :: rest => some rest
  | _ :: rest => afterComment? rest

/-- Skips blanks and comments; `fuel` bounds their number. -/
def skip : Nat → List Char → List Char
  | 0, cs => cs
  | fuel + 1, cs =>
    match cs.dropWhile isSpace with
    | '/' :: '/' :: rest => skip fuel (rest.dropWhile (!isLineEnd ·))
    | '/' :: '*' :: rest =>
      match afterComment? rest with
      | some rest => skip fuel rest
      | none => '/' :: '*' :: rest
    | rest => rest

/-- Skips all blanks and comments that stand here. -/
def skipAll (cs : List Char) : List Char := skip cs.length cs

/-! ## Strings -/

/-- The number of hexadecimal digits, and what follows. -/
def hex? (n : Nat) (cs : List Char) : Option (Nat × List Char) := do
  let ds := cs.take n
  if ds.length < n then none
  else
    let v ← ds.foldlM (fun v d => (Text.hexValue d).map (16 * v + ·)) 0
    return (v, cs.drop n)

/-- The character of an escape `u`, of which two make one beyond the sixteen bits. -/
def unicode? (cs : List Char) : Option (Char × List Char) := do
  let (n, rest) ← hex? 4 cs
  if 0xDC00 ≤ n ∧ n < 0xE000 then none
  else if 0xD800 ≤ n ∧ n < 0xDC00 then
    match rest with
    | '\\' :: 'u' :: rest => do
      let (m, rest) ← hex? 4 rest
      if 0xDC00 ≤ m ∧ m < 0xE000 then
        return (Char.ofNat ((n - 0xD800) * 1024 + (m - 0xDC00) + 0x10000), rest)
      else none
    | _ => none
  else return (Char.ofNat n, rest)

/-- What an escape behind its backslash stands for, and what follows; an escaped line break for nothing. -/
def escape? : List Char → Option (List Char × List Char)
  | [] => none
  | 'b' :: rest => some (['\x08'], rest)
  | 'f' :: rest => some (['\x0c'], rest)
  | 'n' :: rest => some (['\n'], rest)
  | 'r' :: rest => some (['\r'], rest)
  | 't' :: rest => some (['\t'], rest)
  | 'v' :: rest => some (['\x0b'], rest)
  | '0' :: rest => some (['\x00'], rest)
  | 'x' :: rest => (hex? 2 rest).map fun (n, rest) => ([Char.ofNat n], rest)
  | 'u' :: rest => (unicode? rest).map fun (c, rest) => ([c], rest)
  | '\r' :: '\n' :: rest => some ([], rest)
  | c :: rest =>
    if isLineEnd c then some ([], rest)
    else if '1' ≤ c ∧ c ≤ '9' then none
    else some ([c], rest)

/-- The body of a string up to its quote; `fuel` bounds its length. -/
def string? (quote : Char) : Nat → List Char → Option (List Char × List Char)
  | 0, _ => none
  | _, [] => none
  | fuel + 1, c :: rest =>
    if c = quote then some ([], rest)
    else if c = '\\' then do
      let (part, rest) ← escape? rest
      let (body, rest) ← string? quote fuel rest
      return (part ++ body, rest)
    else if isLineEnd c then none
    else (string? quote fuel rest).map fun (body, rest) => (c :: body, rest)

/-- A name without quotes, as far as it goes; `first` tells whether it begins here. -/
def name? (first : Bool) : Nat → List Char → Option (List Char × List Char)
  | fuel + 1, '\\' :: 'u' :: rest => do
    let (c, rest) ← unicode? rest
    let (body, rest) ← name? false fuel rest
    return (c :: body, rest)
  | fuel + 1, c :: rest =>
    let opens := c == '$' || c == '_' || Text.isLetter c
    if opens || (!first && (Text.isNumber c || c == '\u200C' || c == '\u200D')) then
      (name? false fuel rest).map fun (body, rest) => (c :: body, rest)
    else if first then none
    else some ([], c :: rest)
  | _, cs => if first then none else some ([], cs)

/-- The name of a member. -/
def key? (cs : List Char) : Option (String × List Char) :=
  let found := match cs with
    | '"' :: rest => string? '"' cs.length rest
    | '\'' :: rest => string? '\'' cs.length rest
    | _ => name? true cs.length cs
  found.map fun (body, rest) => (String.ofList body, rest)

/-! ## Numbers -/

/-- The exponent of a number, if there is one, and what follows. -/
def exponent (cs : List Char) : List Char × List Char :=
  let digits (front cs : List Char) : Option (List Char × List Char) :=
    let ds := cs.takeWhile Number.isDigit
    if ds.isEmpty then none else some (front ++ ds, cs.drop ds.length)
  let found := match cs with
    | e :: rest =>
      if e = 'e' ∨ e = 'E' then
        match rest with
        | '+' :: rest => digits [e, '+'] rest
        | '-' :: rest => digits [e, '-'] rest
        | rest => digits [e] rest
      else none
    | [] => none
  found.getD ([], cs)

/-- The whole part of a decimal: a lone zero, or digits that do not begin with one. -/
def wholePart : List Char → List Char
  | '0' :: _ => ['0']
  | cs => cs.takeWhile Number.isDigit

/-- The characters of a decimal, and what follows. -/
def decimal? (cs : List Char) : Option (List Char × List Char) :=
  let whole := wholePart cs
  let (decimals, rest) := match cs.drop whole.length with
    | '.' :: rest => ('.' :: rest.takeWhile Number.isDigit, rest.dropWhile Number.isDigit)
    | rest => ([], rest)
  if whole.isEmpty && decimals.length < 2 then none
  else
    let (e, rest) := exponent rest
    some (whole ++ decimals ++ e, rest)

/-- The setting of a decimal: a whole number of 64 bits, or a finite double if it has a point or an
exponent. -/
def decimalSetting? (cs : List Char) : Option Setting :=
  if cs.any fun c => c == '.' || c == 'e' || c == 'E' then
    (Number.double? cs).bind fun x => if x.isInf then none else some (.float x)
  else (Number.int64? cs).map .int

/-- A number.  In hexadecimal digits it has 32 bits and no sign, and infinity has no plus sign. -/
def number? (cs : List Char) : Option (Setting × List Char) :=
  let (sign, rest) := match cs with
    | '+' :: rest => (['+'], rest)
    | '-' :: rest => (['-'], rest)
    | rest => ([], rest)
  let signed (x : Float) : Setting := .float (if sign.isEmpty then x else -x)
  match rest with
  | 'I' :: 'n' :: 'f' :: 'i' :: 'n' :: 'i' :: 't' :: 'y' :: rest =>
    if sign = ['+'] then none else some (signed (1.0 / 0.0), rest)
  | 'N' :: 'a' :: 'N' :: rest => if sign = ['+'] then none else some (signed (0.0 / 0.0), rest)
  | '0' :: x :: more =>
    if x = 'x' ∨ x = 'X' then do
      let ds := more.takeWhile fun c => (Text.hexValue c).isSome
      let (n, more) ← hex? ds.length more
      if ds.isEmpty || !sign.isEmpty || Number.width32 ≤ n then none else return (.int n, more)
    else do
      let (text, rest) ← decimal? ('0' :: x :: more)
      let v ← decimalSetting? (sign ++ text)
      return (v, rest)
  | rest => do
    let (text, rest) ← decimal? rest
    let v ← decimalSetting? (sign ++ text)
    return (v, rest)

/-! ## Values -/

mutual

/-- A value and what follows; `fuel` bounds the steps. -/
def value? (fuel : Nat) (cs : List Char) : Option (Setting × List Char) :=
  match fuel with
  | 0 => none
  | fuel + 1 =>
    match cs with
    | 'n' :: 'u' :: 'l' :: 'l' :: rest => some (.null, rest)
    | 't' :: 'r' :: 'u' :: 'e' :: rest => some (.bool true, rest)
    | 'f' :: 'a' :: 'l' :: 's' :: 'e' :: rest => some (.bool false, rest)
    | '"' :: rest => (string? '"' cs.length rest).map fun (s, rest) => (.text (String.ofList s), rest)
    | '\'' :: rest => (string? '\'' cs.length rest).map fun (s, rest) => (.text (String.ofList s), rest)
    | '[' :: rest => (items? fuel rest).map fun (xs, rest) => (.list xs, rest)
    | '\x7b' :: rest =>
      (members? fuel rest).map fun (ms, rest) => (.table (Members.ofEntries ms), rest)
    | cs => number? cs

/-- The items of a list up to its bracket. -/
def items? (fuel : Nat) (cs : List Char) : Option (List Setting × List Char) :=
  match fuel with
  | 0 => none
  | fuel + 1 =>
    match skipAll cs with
    | ']' :: rest => some ([], rest)
    | cs => do
      let (x, rest) ← value? fuel cs
      match skipAll rest with
      | ',' :: rest =>
        let (xs, rest) ← items? fuel rest
        return (x :: xs, rest)
      | ']' :: rest => return ([x], rest)
      | _ => none

/-- The members of a table up to its brace. -/
def members? (fuel : Nat) (cs : List Char) : Option (List (String × Setting) × List Char) :=
  match fuel with
  | 0 => none
  | fuel + 1 =>
    match skipAll cs with
    | '\x7d' :: rest => some ([], rest)
    | cs => do
      let (k, rest) ← key? cs
      match skipAll rest with
      | ':' :: rest =>
        let (x, rest) ← value? fuel (skipAll rest)
        match skipAll rest with
        | ',' :: rest =>
          let (ms, rest) ← members? fuel rest
          return ((k, x) :: ms, rest)
        | '\x7d' :: rest => return ([(k, x)], rest)
        | _ => none
      | _ => none

end

/-- The entries of a document whose root is a table. -/
def ofChars? (cs : List Char) : Option (List (String × Setting)) := do
  let (v, rest) ← value? (cs.length + 1) (skipAll cs)
  match v, skipAll rest with
  | .table entries, [] => return entries
  | _, _ => none

end Json5
end RecordingHarvest
