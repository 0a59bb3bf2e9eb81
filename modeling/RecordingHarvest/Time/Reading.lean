import RecordingHarvest.Text.Blank
import RecordingHarvest.Time.Instant

/-!
# Reading a date and time

The relaxed form of the internet date and time: parts may have fewer digits and blanks before
them, the year may carry a sign, and the offset may be written with a colon, a blank or nothing
between its hours and minutes.  `Instant.ofChars?` gives the moment in universal time.
-/

namespace RecordingHarvest
namespace Reading

open Text Number

/-- A number of at least one and at most `limit` digits. -/
def number (limit : Nat) (cs : List Char) : Option (Nat × List Char) :=
  let ds := (cs.take limit).takeWhile isDigit
  if ds.isEmpty then none else some (valueOf ds, cs.drop ds.length)

/-- A number of one or two digits, blanks before it skipped. -/
def pair (cs : List Char) : Option (Nat × List Char) := number 2 (trimStart cs)

/-- A year: up to four digits, or a sign and any number of digits. -/
def year (cs : List Char) : Option (Int × List Char) :=
  match trimStart cs with
  | '-' :: rest => (number rest.length rest).map fun (n, rest) => (-(n : Int), rest)
  | '+' :: rest => (number rest.length rest).map fun (n, rest) => ((n : Int), rest)
  | rest => (number 4 rest).map fun (n, rest) => ((n : Int), rest)

/-- One expected character, blanks before it skipped. -/
def mark (c : Char) (cs : List Char) : Option (List Char) :=
  match trimStart cs with
  | d :: rest => if d = c then some rest else none
  | [] => none

/-- The decimals of a second as nanoseconds; digits past the ninth are dropped. -/
def decimals (cs : List Char) : Option (Nat × List Char) :=
  let ds := cs.takeWhile isDigit
  if ds.isEmpty then none
  else
    let kept := ds.take 9
    some (valueOf kept * Nat.pow 10 (9 - kept.length), cs.dropWhile isDigit)

/-- The offset from universal time in seconds. -/
def offset (cs : List Char) : Option (Int × List Char) :=
  let signed (sign : Int) (cs : List Char) : Option (Int × List Char) :=
    match cs with
    | h1 :: h2 :: rest =>
      if isDigit h1 && isDigit h2 then
        match rest.dropWhile (fun c => c == ':' || isBlank c) with
        | m1 :: m2 :: rest =>
          if isDigit m1 && isDigit m2 && digitValue m1 < 6 then
            some (sign * (3600 * valueOf [h1, h2] + 60 * valueOf [m1, m2] : Nat), rest)
          else none
        | _ => none
      else none
    | _ => none
  match cs with
  | 'Z' :: rest | 'z' :: rest => some (0, rest)
  | '+' :: rest => signed 1 rest
  | '-' :: rest | '\u2212' :: rest => signed (-1) rest
  | _ => none

/-- The offset, with `UTC` in any case for none. -/
def zone (cs : List Char) : Option (Int × List Char) :=
  if (cs.take 3).map Char.toUpper = ['U', 'T', 'C'] then some (0, cs.drop 3) else offset cs

/-- The parts of a date and time as they are written. -/
structure Parts where
  date : Date
  hour : Nat
  minute : Nat
  second : Nat
  nanos : Nat
  offset : Int
  deriving Repr

/-- Reads the parts, with nothing but blanks after them. -/
def parts (cs : List Char) : Option Parts := do
  let (y, cs) ← year cs
  let (mo, cs) ← pair (← mark '-' cs)
  let (d, cs) ← pair (← mark '-' cs)
  let cs ← match cs with
    | 'T' :: rest | 't' :: rest | ' ' :: rest => some rest
    | _ => none
  let (h, cs) ← pair cs
  let (mi, cs) ← pair (← mark ':' cs)
  let (s, cs) ← pair (← mark ':' cs)
  let (n, cs) ← match cs with
    | '.' :: rest => decimals rest
    | _ => some (0, cs)
  let (o, cs) ← zone (trimStart cs)
  if (trimStart cs).isEmpty then some ⟨⟨y, mo, d⟩, h, mi, s, n, o⟩ else none

/-- The moment that the parts name: the date must exist, hours, minutes and seconds must be in
range, second 60 is a leap second, and the offset stays under a day. -/
def Parts.instant? (p : Parts) : Option Instant :=
  let t : Instant :=
    ⟨p.date.dayNumber * 86400 + (3600 * p.hour + 60 * p.minute + min p.second 59 : Nat) - p.offset,
      if p.second = 60 then 1000000000 + p.nanos else p.nanos⟩
  if p.date.Exists ∧ -262143 ≤ p.date.year ∧ p.date.year ≤ 262142 ∧ p.hour < 24 ∧ p.minute < 60 ∧
      p.second ≤ 60 ∧ p.offset.natAbs < 86400 ∧ Instant.firstSecs ≤ t.secs ∧
      t.secs ≤ Instant.lastSecs then some t
  else none

end Reading

/-- The instant that a text names. -/
def Instant.ofChars? (cs : List Char) : Option Instant := (Reading.parts cs).bind (·.instant?)

/-- The instant that a text names. -/
def Instant.ofText? (s : String) : Option Instant := Instant.ofChars? s.toList

end RecordingHarvest
