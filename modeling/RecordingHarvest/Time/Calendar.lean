import RecordingHarvest.Number.Digits

/-!
# The proleptic Gregorian calendar

Days counted from 1970-01-01 and dates as year, month and day, in both directions.
-/

namespace RecordingHarvest

/-- A date; months and days count from one. -/
structure Date where
  year : Int
  month : Nat
  day : Nat
  deriving DecidableEq, Repr

namespace Date

/-- Every fourth year, but of the hundreds only every fourth. -/
def isLeap (year : Int) : Bool := year % 4 == 0 && (year % 100 != 0 || year % 400 == 0)

/-- The lengths of the months, January first. -/
def monthLengths (leap : Bool) : List Nat :=
  [31, if leap then 29 else 28, 31, 30, 31, 30, 31, 31, 30, 31, 30, 31]

/-- Days from 0001-01-01 to the first day of a year. -/
def daysBeforeYear (year : Int) : Int :=
  let y := year - 1
  365 * y + y / 4 - y / 100 + y / 400

/-- Days from 0001-01-01 to 1970-01-01. -/
def epochDay : Int := 719162

/-- A date that the calendar has. -/
def Exists (d : Date) : Prop :=
  1 ≤ d.month ∧ d.month ≤ 12 ∧ 1 ≤ d.day ∧
    d.day ≤ (monthLengths (isLeap d.year)).getD (d.month - 1) 0

instance (d : Date) : Decidable d.Exists := by unfold Exists; infer_instance

/-- Days from the first day of a year to the first day of one of its months. -/
def daysBeforeMonth (year : Int) (month : Nat) : Nat :=
  ((monthLengths (isLeap year)).take (month - 1)).foldr (· + ·) 0

/-- Days from 1970-01-01 to a date. -/
def dayNumber (d : Date) : Int :=
  daysBeforeYear d.year + (daysBeforeMonth d.year d.month : Int) + (d.day : Int) - 1 - epochDay

/-- The year that holds the `n`-th day from 0001-01-01, and the days of that year before it. -/
def yearOfDay (n : Int) : Int × Nat :=
  let eras := n / 146097
  let inEra := (n % 146097).toNat
  let hundreds := min (inEra / 36524) 3
  let inHundred := inEra - 36524 * hundreds
  let fours := inHundred / 1461
  let inFour := inHundred % 1461
  let ones := min (inFour / 365) 3
  (400 * eras + 100 * hundreds + 4 * fours + ones + 1, inFour - 365 * ones)

/-- The place of a day in a row of months: how many months lie before it, and how many days of
its own month. -/
def placeInMonths : List Nat → Nat → Nat × Nat
  | [], day => (0, day)
  | len :: lens, day =>
    if day < len then (0, day)
    else
      let (months, rest) := placeInMonths lens (day - len)
      (months + 1, rest)

/-- The date a number of days from 1970-01-01. -/
def ofDayNumber (n : Int) : Date :=
  let (year, inYear) := yearOfDay (n + epochDay)
  let (months, inMonth) := placeInMonths (monthLengths (isLeap year)) inYear
  ⟨year, months + 1, inMonth + 1⟩

/-- The year in four digits at least, with a sign outside 0 to 9999. -/
def yearText (year : Int) : List Char :=
  if 0 ≤ year ∧ year ≤ 9999 then Number.padded 4 year.toNat
  else (if year < 0 then '-' else '+') :: Number.padded 4 year.natAbs

/-- The date with hyphens between its parts. -/
def text (d : Date) : List Char :=
  yearText d.year ++ '-' :: Number.padded 2 d.month ++ '-' :: Number.padded 2 d.day

end Date
end RecordingHarvest
