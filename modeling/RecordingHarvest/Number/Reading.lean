import RecordingHarvest.Number.Digits
import RecordingHarvest.Number.Shortest
import RecordingHarvest.Text.Blank

/-!
# Reading decimal numbers

Whole numbers are an optional sign and digits.  Doubles are an optional sign and a decimal with
digits on at least one side of its point, or one of the words `inf`, `infinity` and `nan`; the result
is the nearest double.
-/

namespace RecordingHarvest
namespace Number

/-- An optional sign: whether it is a minus, and what follows. -/
def signOf : List Char → Bool × List Char
  | '-' :: rest => (true, rest)
  | '+' :: rest => (false, rest)
  | rest => (false, rest)

/-- A whole number with an optional sign. -/
def integer? (cs : List Char) : Option Int :=
  let (negative, ds) := signOf cs
  if ds.isEmpty || !ds.all isDigit then none
  else some (if negative then -(valueOf ds : Int) else valueOf ds)

/-- A whole number of 64 signed bits. -/
def int64? (cs : List Char) : Option Int :=
  (integer? cs).filter fun n => -(width63 : Int) ≤ n && n < width63

/-- A whole number of 64 unsigned bits; a minus sign is refused. -/
def nat64? (cs : List Char) : Option Nat :=
  if (signOf cs).1 then none
  else ((integer? cs).map Int.toNat).filter fun n => n < width64

/-- The places beyond which a decimal is certainly out of a double's range. -/
def placeLimit : Int := 400

/-- The nearest double to `significand * 10 ^ exponent`. -/
def nearest (significand : Nat) (exponent : Int) : Float :=
  let places := (digits significand).length + exponent
  if significand = 0 || places < -placeLimit then 0.0
  else if placeLimit < places then 1.0 / 0.0
  else Float.ofScientific significand (exponent < 0) exponent.natAbs

/-- The exponent of a decimal, with nothing after it. -/
def exponent? : List Char → Option Int
  | [] => some 0
  | c :: rest => if c = 'e' ∨ c = 'E' then integer? rest else none

/-- An unsigned decimal. -/
def decimal? (cs : List Char) : Option Float :=
  let whole := cs.takeWhile isDigit
  let (decimals, rest) := match cs.dropWhile isDigit with
    | '.' :: rest => (rest.takeWhile isDigit, rest.dropWhile isDigit)
    | rest => ([], rest)
  if whole.isEmpty && decimals.isEmpty then none
  else (exponent? rest).map fun e => nearest (valueOf (whole ++ decimals)) (e - decimals.length)

/-- A double with an optional sign. -/
def double? (cs : List Char) : Option Float :=
  let (negative, rest) := signOf cs
  let magnitude := match Text.lower (String.ofList rest) with
    | "inf" | "infinity" => some (1.0 / 0.0)
    | "nan" => some (0.0 / 0.0)
    | _ => decimal? rest
  magnitude.map fun x => if negative then -x else x

/-- The nearest whole number of 64 unsigned bits to a double, halves away from zero; a double below
all of them and one that is no number give zero, one above all of them gives the largest. -/
def roundToNat64 (x : Float) : Nat :=
  if x.isNaN || signBit x then 0
  else if x.isInf then width64 - 1
  else
    let (m, q) := binaryParts x
    let n := if 0 ≤ q then m * Nat.pow 2 q.toNat
      else (m + Nat.pow 2 (-q - 1).toNat) / Nat.pow 2 (-q).toNat
    min n (width64 - 1)

end Number
end RecordingHarvest
