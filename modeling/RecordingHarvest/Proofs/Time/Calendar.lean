import RecordingHarvest.Time.Calendar

/-!
# Day numbers and dates

Every day number has a date that the calendar has, and the date's day number is that number again.

* `yearOfDay_spec`: the year of a day, by its eras of 400, its hundreds, fours and single years.
* `placeInMonths_spec`: the month of a day of the year.
* `dayNumber_ofDayNumber`, `exists_ofDayNumber`: the two together.
* `ofDayNumber_year_le`, `le_ofDayNumber_year`: later days have no earlier years.
-/

namespace RecordingHarvest
namespace Date

/-! ## Years -/

/-- The days of a year. -/
def yearLength (year : Int) : Nat := if isLeap year then 366 else 365

theorem isLeap_iff (year : Int) :
    isLeap year = true ↔ year % 4 = 0 ∧ (year % 100 ≠ 0 ∨ year % 400 = 0) := by
  simp [isLeap]

/-- The days before a year that is counted by eras of 400 years, hundreds, fours and single
years. -/
theorem daysBeforeYear_of_parts (eras : Int) {hundreds fours ones : Nat} (hhundreds : hundreds ≤ 3)
    (hfours : fours ≤ 24) (hones : ones ≤ 3) :
    daysBeforeYear (400 * eras + 100 * hundreds + 4 * fours + ones + 1) =
      146097 * eras + 36524 * hundreds + 1461 * fours + 365 * ones := by
  simp only [daysBeforeYear]
  omega

/-- The last of four years is longer, unless it is the last of a hundred but not of an era. -/
theorem yearLength_of_parts (eras : Int) {hundreds fours ones : Nat} (hhundreds : hundreds ≤ 3)
    (hfours : fours ≤ 24) (hones : ones ≤ 3) :
    yearLength (400 * eras + 100 * hundreds + 4 * fours + ones + 1) =
      if ones = 3 ∧ (fours ≠ 24 ∨ hundreds = 3) then 366 else 365 := by
  have hleap : isLeap (400 * eras + 100 * hundreds + 4 * fours + ones + 1) = true ↔
      ones = 3 ∧ (fours ≠ 24 ∨ hundreds = 3) := by
    rw [isLeap_iff]
    omega
  simp only [yearLength, hleap]

/-- The year of a day, and the days of the year before it. -/
theorem yearOfDay_spec (n : Int) :
    daysBeforeYear (yearOfDay n).1 + (yearOfDay n).2 = n ∧
      (yearOfDay n).2 < yearLength (yearOfDay n).1 := by
  simp only [yearOfDay]
  -- Named one after another, the parts are bounded by linear arithmetic alone.
  generalize hera : (n % 146097).toNat = inEra
  generalize hhundreds : min (inEra / 36524) 3 = hundreds
  generalize hfours : (inEra - 36524 * hundreds) / 1461 = fours
  generalize hfour : (inEra - 36524 * hundreds) % 1461 = inFour
  generalize hones : min (inFour / 365) 3 = ones
  have hlast : hundreds ≤ 3 ∧ fours ≤ 24 ∧ ones ≤ 3 := by omega
  rw [daysBeforeYear_of_parts _ hlast.1 hlast.2.1 hlast.2.2,
    yearLength_of_parts _ hlast.1 hlast.2.1 hlast.2.2]
  constructor
  · omega
  · split <;> omega

/-- A year begins when the year before it ends. -/
theorem daysBeforeYear_succ (year : Int) :
    daysBeforeYear (year + 1) = daysBeforeYear year + yearLength year := by
  simp only [daysBeforeYear, yearLength, isLeap_iff, Int.add_sub_cancel]
  split <;> omega

theorem daysBeforeYear_mono {y z : Int} (h : y ≤ z) : daysBeforeYear y ≤ daysBeforeYear z := by
  simp only [daysBeforeYear]
  omega

/-! ## Months -/

theorem sum_monthLengths (year : Int) :
    (monthLengths (isLeap year)).foldr (· + ·) 0 = yearLength year := by
  rw [yearLength]
  cases isLeap year <;> rfl

/-- The month of a day in a row of months, and the days of the month before it. -/
theorem placeInMonths_spec {lens : List Nat} {day : Nat} (h : day < lens.foldr (· + ·) 0) :
    (placeInMonths lens day).1 < lens.length ∧
      (placeInMonths lens day).2 < lens.getD (placeInMonths lens day).1 0 ∧
      (lens.take (placeInMonths lens day).1).foldr (· + ·) 0 + (placeInMonths lens day).2 =
        day := by
  induction lens generalizing day with
  | nil => exact absurd h (Nat.not_lt_zero day)
  | cons len lens ih =>
      rw [placeInMonths]
      by_cases hhere : day < len
      · simp [hhere]
      · have hlater : day - len < lens.foldr (· + ·) 0 := by
          rw [List.foldr_cons] at h
          omega
        obtain ⟨hmonth, hday, hsum⟩ := ih hlater
        simp only [hhere, ↓reduceIte, List.length_cons, List.getD_cons_succ, List.take_succ_cons,
          List.foldr_cons]
        exact ⟨by omega, hday, by omega⟩

/-! ## Dates -/

/-- No month is longer than 31 days. -/
theorem Exists.day_le {d : Date} (h : d.Exists) : d.day ≤ 31 := by
  obtain ⟨-, -, -, hday⟩ := h
  have hlengths : ∀ leap, ∀ len ∈ monthLengths leap, len ≤ 31 := by decide
  refine Nat.le_trans hday ?_
  rw [List.getD_eq_getElem?_getD]
  cases hlen : (monthLengths (isLeap d.year))[d.month - 1]? with
  | none => decide
  | some len => exact hlengths _ len (List.mem_of_getElem? hlen)

theorem ofDayNumber_eq (n : Int) : ofDayNumber n =
    ⟨(yearOfDay (n + epochDay)).1,
      (placeInMonths (monthLengths (isLeap (yearOfDay (n + epochDay)).1))
        (yearOfDay (n + epochDay)).2).1 + 1,
      (placeInMonths (monthLengths (isLeap (yearOfDay (n + epochDay)).1))
        (yearOfDay (n + epochDay)).2).2 + 1⟩ := by
  simp only [ofDayNumber]

/-- The place of a day number in the months of its year. -/
theorem placed (n : Int) :
    (yearOfDay n).2 < (monthLengths (isLeap (yearOfDay n).1)).foldr (· + ·) 0 := by
  rw [sum_monthLengths]
  exact (yearOfDay_spec n).2

/-- A day number has a date that the calendar has. -/
theorem exists_ofDayNumber (n : Int) : (ofDayNumber n).Exists := by
  obtain ⟨hmonth, hday, -⟩ := placeInMonths_spec (placed (n + epochDay))
  rw [ofDayNumber_eq]
  exact ⟨Nat.le_add_left 1 _, hmonth, Nat.le_add_left 1 _, hday⟩

/-- **A day number comes back from its date.** -/
theorem dayNumber_ofDayNumber (n : Int) : (ofDayNumber n).dayNumber = n := by
  obtain ⟨hyear, -⟩ := yearOfDay_spec (n + epochDay)
  obtain ⟨-, -, hsum⟩ := placeInMonths_spec (placed (n + epochDay))
  simp only [ofDayNumber_eq, dayNumber, daysBeforeMonth, Nat.add_sub_cancel]
  omega

/-- A day lies in its year. -/
theorem ofDayNumber_year_bounds (n : Int) :
    daysBeforeYear (ofDayNumber n).year ≤ n + epochDay ∧
      n + epochDay < daysBeforeYear ((ofDayNumber n).year + 1) := by
  obtain ⟨hyear, hlength⟩ := yearOfDay_spec (n + epochDay)
  rw [daysBeforeYear_succ, ofDayNumber_eq]
  simp only
  omega

theorem ofDayNumber_year_le {n y : Int} (h : n + epochDay < daysBeforeYear (y + 1)) :
    (ofDayNumber n).year ≤ y := by
  by_cases hyear : (ofDayNumber n).year ≤ y
  · exact hyear
  · have hmono := daysBeforeYear_mono (show y + 1 ≤ (ofDayNumber n).year by omega)
    have hbounds := ofDayNumber_year_bounds n
    omega

theorem le_ofDayNumber_year {n y : Int} (h : daysBeforeYear y ≤ n + epochDay) :
    y ≤ (ofDayNumber n).year := by
  by_cases hyear : y ≤ (ofDayNumber n).year
  · exact hyear
  · have hmono := daysBeforeYear_mono (show (ofDayNumber n).year + 1 ≤ y by omega)
    have hbounds := ofDayNumber_year_bounds n
    omega

end Date
end RecordingHarvest
