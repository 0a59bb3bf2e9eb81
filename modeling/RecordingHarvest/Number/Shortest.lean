import RecordingHarvest.Number.Digits

/-!
# Decimal forms of a double

A double stands for the interval of reals that round to it.  `shortest` finds the fewest digits of
a decimal inside that interval, the nearest one if there are several, in exact arithmetic on
natural numbers.  `plainText` writes them positionally; `compactText` keeps a decimal point in
every number and uses an exponent outside a middle range.  A double is also a whole number of
halvings, so that its nearest multiple of a hundredth is found exactly (`twoPlacesText`).
-/

namespace RecordingHarvest
namespace Number

/-- A decimal number `digits * 10 ^ exponent`. -/
structure Decimal where
  digits : Nat
  exponent : Int
  deriving DecidableEq, Repr

/-- The reals `low / den` to `high / den` that round to the double of magnitude `value / den`; the
ends belong to it when `closed`. -/
structure Rounding where
  value : Nat
  low : Nat
  high : Nat
  den : Nat
  closed : Bool
  deriving Repr

/-- The leading bit of a significand, which a double does not store: two to the fifty-second. -/
def hiddenBit : Nat := 4503599627370496

/-- The significand and the power of two of a finite double's magnitude. -/
def binaryParts (x : Float) : Nat × Int :=
  let bits := x.toBits.toNat
  let exponent : Nat := bits / hiddenBit % 2048
  let fraction : Nat := bits % hiddenBit
  if exponent = 0 then (fraction, -1074) else (hiddenBit + fraction, (exponent : Int) - 1075)

/-- Whether the sign bit of a double is set. -/
def signBit (x : Float) : Bool := width63 ≤ x.toBits.toNat

/-- What rounds to `m * 2 ^ q`, in quarters of a unit in the last place.  Below a power of two the
neighbour is only half as far. -/
def Rounding.of (m : Nat) (q : Int) : Rounding :=
  let below := if m = hiddenBit ∧ -1074 < q then 1 else 2
  let up := Nat.pow 2 (q - 2).toNat
  { value := 4 * m * up, low := (4 * m - below) * up, high := (4 * m + 2) * up,
    den := Nat.pow 2 (2 - q).toNat, closed := m % 2 == 0 }

/-- The number of digits before the decimal point; below one tenth it is negative. -/
def Rounding.magnitude (r : Rounding) : Int :=
  ((Number.digits (r.value * Nat.pow 10 400 / r.den)).length : Int) - 400

/-- The nearest decimal with `n` digits that rounds to the same double, if there is one; of two
equally near ones that with the even last digit. -/
def Rounding.within (r : Rounding) (n : Nat) : Option Decimal :=
  let exponent := r.magnitude - n
  let up := Nat.pow 10 exponent.toNat * r.den
  let down := Nat.pow 10 (-exponent).toNat
  let target := r.value * down
  let fits (d : Nat) : Bool :=
    if r.closed then r.low * down ≤ d * up && d * up ≤ r.high * down
    else r.low * down < d * up && d * up < r.high * down
  let d := target / up
  let below := target - d * up
  let above := (d + 1) * up - target
  let lowerFirst := below < above || (below == above && d % 2 == 0)
  let (near, far) := if lowerFirst then (d, d + 1) else (d + 1, d)
  if fits near then some ⟨near, exponent⟩
  else if fits far then some ⟨far, exponent⟩
  else none

/-- A decimal with the zeros at its end moved into the exponent; `fuel` bounds their number. -/
def Decimal.trimmed : Nat → Decimal → Decimal
  | 0, d => d
  | fuel + 1, d =>
    if d.digits ≠ 0 ∧ d.digits % 10 = 0 then
      Decimal.trimmed fuel ⟨d.digits / 10, d.exponent + 1⟩
    else d

/-- The decimal with the fewest digits that rounds to a positive double: seventeen always do. -/
def shortest (x : Float) : Decimal :=
  let (m, q) := binaryParts x
  let r := Rounding.of m q
  let found := ((List.range 17).findSome? fun n => r.within (n + 1)).getD ⟨0, 0⟩
  found.trimmed 20

/-- A decimal without an exponent; whole numbers have no point. -/
def Decimal.plain (d : Decimal) : List Char :=
  let ds := Number.digits d.digits
  let point := (ds.length : Int) + d.exponent
  if 0 ≤ d.exponent then ds ++ List.replicate d.exponent.toNat '0'
  else if 0 < point then ds.take point.toNat ++ '.' :: ds.drop point.toNat
  else '0' :: '.' :: List.replicate (-point).toNat '0' ++ ds

/-- A decimal with a point in it, or with an exponent from ten to the sixteenth on and below one
hundred-thousandth. -/
def Decimal.compact (d : Decimal) : List Char :=
  let ds := Number.digits d.digits
  let point := (ds.length : Int) + d.exponent
  if -5 < point ∧ point ≤ 16 then
    if 0 ≤ d.exponent then d.plain ++ ['.', '0'] else d.plain
  else
    let lead := match ds with
      | [one] => [one]
      | one :: more => one :: '.' :: more
      | [] => []
    let sign := if 0 < point then ['+'] else []
    lead ++ 'e' :: sign ++ (Number.integerText (point - 1)).toList

/-- The magnitude's text behind the sign. -/
private def signedText (x : Float) (zero : String) (write : Decimal → List Char) : String :=
  let body := if x == 0.0 then zero else String.ofList (write (shortest x))
  if signBit x then "-" ++ body else body

/-- A double in positional form: `1.5`, `1`, `1000`, `inf`, `NaN`. -/
def plainText (x : Float) : String :=
  if x.isNaN then "NaN"
  else if x.isInf then (if signBit x then "-inf" else "inf")
  else signedText x "0" Decimal.plain

/-- A finite double in compact form: `1.0`, `0.00001`, `1e+16`, `5e-324`. -/
def compactText (x : Float) : String := signedText x "0.0" Decimal.compact

/-! ## A fixed number of places -/

/-- The nearest whole number to a quotient, the even one of two equally near. -/
def roundedQuotient (n d : Nat) : Nat :=
  let low := n / d
  let rest := 2 * (n % d)
  if d < rest ∨ (rest = d ∧ low % 2 = 1) then low + 1 else low

/-- A finite positive double with two places. -/
def twoPlacesText (x : Float) : String :=
  let (m, q) := binaryParts x
  let hundredths := roundedQuotient (100 * m * Nat.pow 2 q.toNat) (Nat.pow 2 (-q).toNat)
  naturalText (hundredths / 100) ++ "." ++ String.ofList (padded 2 (hundredths % 100))

end Number
end RecordingHarvest
