import RecordingHarvest.Proofs.Number.Digits
import RecordingHarvest.Proofs.Time.Calendar
import RecordingHarvest.Time.Reading

/-!
# Instants read back

The text of an instant is read part by part, and the parts name the instant.

* `number_append`, `pair_padded`: numbers of a bounded width.
* `year_yearText`, `fractionText_cases`: years of any sign, and decimals of any precision.
* `parts_chars`, `instant?_of_valid`: all parts, and what they name.
* `ofText?_text`: every representable instant comes back from its text.
* `valid_of_ofText?`: no other instants are read.
-/

namespace RecordingHarvest
namespace Reading

open Number (digits padded isDigit valueOf EndsDigits)
open Text (trimStart isBlank)

/-! ## Numbers -/

theorem isBlank_of_isDigit {c : Char} (h : isDigit c = true) : isBlank c = false := by
  have hbounds := Number.bounds_of_isDigit h
  simp only [isBlank]
  simp
  omega

theorem trimStart_cons {c : Char} (h : isBlank c = false) (cs : List Char) :
    trimStart (c :: cs) = c :: cs := by
  simp [trimStart, h]

variable {ds rest : List Char}

theorem trimStart_digits (hds : ∀ c ∈ ds, isDigit c = true) (hne : ds ≠ []) (rest : List Char) :
    trimStart (ds ++ rest) = ds ++ rest := by
  obtain ⟨c, tail, rfl⟩ := List.exists_cons_of_ne_nil hne
  exact trimStart_cons (isBlank_of_isDigit (hds c List.mem_cons_self)) _

/-- A run of digits is read as a number if it ends where the width does or what follows is no
digit. -/
theorem number_append {limit : Nat} (hds : ∀ c ∈ ds, isDigit c = true) (hne : ds ≠ [])
    (hlimit : ds.length = limit ∨ ds.length ≤ limit ∧ EndsDigits rest) :
    number limit (ds ++ rest) = some (valueOf ds, rest) := by
  have hends : EndsDigits (rest.take (limit - ds.length)) := by
    rcases hlimit with hlimit | ⟨-, hrest⟩
    · rw [hlimit, Nat.sub_self, List.take_zero]
      exact Number.endsDigits_nil
    · intro c hc
      rw [List.head?_take] at hc
      split at hc
      · exact nomatch hc
      · exact hrest c hc
  have hlength : ds.length ≤ limit := by
    rcases hlimit with hlimit | ⟨hlimit, -⟩
    · exact Nat.le_of_eq hlimit
    · exact hlimit
  have htake : (ds ++ rest).take limit = ds ++ rest.take (limit - ds.length) := by
    rw [List.take_append, List.take_of_length_le hlength]
  simp [number, htake, Number.takeWhile_isDigit_append hds hends, hne]

/-- A number in two digits. -/
theorem pair_padded {n : Nat} (h : n < 100) (rest : List Char) :
    pair (padded 2 n ++ rest) = some (n, rest) := by
  have hdigits := Number.isDigit_of_mem_padded 2 n
  have hne := Number.padded_ne_nil 2 n
  rw [pair, trimStart_digits hdigits hne,
    number_append hdigits hne (.inl (Number.length_padded 1 h)), Number.valueOf_padded]

theorem mark_cons {c : Char} (h : isBlank c = false) (cs : List Char) :
    mark c (c :: cs) = some cs := by
  simp [mark, trimStart_cons h]

/-! ## Years -/

/-- A year is read back up to the hyphen behind it. -/
theorem year_yearText (y : Int) (rest : List Char) :
    year (Date.yearText y ++ '-' :: rest) = some (y, '-' :: rest) := by
  have hyphen : EndsDigits ('-' :: rest) := Number.endsDigits_cons (by decide)
  have hdigits (n : Nat) := Number.isDigit_of_mem_padded 4 n
  have hne (n : Nat) := Number.padded_ne_nil 4 n
  by_cases hplain : 0 ≤ y ∧ y ≤ 9999
  · have hminus := Number.digits_append_ne_cons (hdigits y.toNat) (hne _) (c := '-') (by decide)
      ('-' :: rest)
    have hplus := Number.digits_append_ne_cons (hdigits y.toNat) (hne _) (c := '+') (by decide)
      ('-' :: rest)
    have hfour := Number.length_padded 3 (n := y.toNat) (by omega)
    have hback : ((y.toNat : Nat) : Int) = y := by omega
    have hread : number 4 (padded 4 y.toNat ++ '-' :: rest) = some (y.toNat, '-' :: rest) := by
      rw [number_append (hdigits _) (hne _) (.inl hfour), Number.valueOf_padded]
    simp [year, Date.yearText, hplain, trimStart_digits (hdigits _) (hne _), hread, hback]
  · have hlength : (padded 4 y.natAbs).length ≤ (padded 4 y.natAbs ++ '-' :: rest).length := by
      rw [List.length_append]
      exact Nat.le_add_right _ _
    have hread : number (padded 4 y.natAbs ++ '-' :: rest).length
        (padded 4 y.natAbs ++ '-' :: rest) = some (y.natAbs, '-' :: rest) := by
      rw [number_append (hdigits _) (hne _) (.inr ⟨hlength, hyphen⟩), Number.valueOf_padded]
    by_cases hbefore : y < 0
    · have hback : -(y.natAbs : Int) = y := by omega
      rw [Date.yearText, if_neg hplain, if_pos hbefore, List.cons_append, year,
        trimStart_cons (by decide)]
      simp only [hread, Option.map_some, hback]
    · have hback : (y.natAbs : Int) = y := by omega
      rw [Date.yearText, if_neg hplain, if_neg hbefore, List.cons_append, year,
        trimStart_cons (by decide)]
      simp only [hread, Option.map_some, hback]

/-! ## Decimals -/

/-- The decimals of a second, if a point stands here. -/
theorem decimals_padded (width : Nat) {k : Nat} (hwidth : width + 1 ≤ 9) (hk : k < 10 ^ (width + 1))
    (rest : List Char) (hrest : EndsDigits rest) :
    decimals (padded (width + 1) k ++ rest) = some (k * 10 ^ (9 - (width + 1)), rest) := by
  have hdigits := Number.isDigit_of_mem_padded (width + 1) k
  have hlength := Number.length_padded width hk
  have htake : (padded (width + 1) k).take 9 = padded (width + 1) k :=
    List.take_of_length_le (by omega)
  simp [decimals, Number.takeWhile_isDigit_append hdigits hrest,
    Number.dropWhile_isDigit_append hdigits hrest, Number.padded_ne_nil, htake, hlength,
    Number.valueOf_padded]

/-- Behind the seconds stands nothing if there is nothing to write, and otherwise decimals that are
read back. -/
theorem fractionText_cases {k : Nat} (hk : k < 1000000000) :
    (k = 0 ∧ Instant.fractionText k = []) ∨
      ∃ ds, Instant.fractionText k = '.' :: ds ∧ decimals (ds ++ ['Z']) = some (k, ['Z']) := by
  have hend : EndsDigits ['Z'] := Number.endsDigits_cons (by decide)
  by_cases hzero : k = 0
  · exact .inl ⟨hzero, by rw [Instant.fractionText, if_pos hzero]⟩
  refine .inr ?_
  by_cases hmillis : k % 1000000 = 0
  · refine ⟨padded 3 (k / 1000000), by rw [Instant.fractionText, if_neg hzero, if_pos hmillis], ?_⟩
    have hback : k / 1000000 * 10 ^ 6 = k := by omega
    rw [decimals_padded 2 (by omega) (by omega) _ hend, hback]
  by_cases hmicros : k % 1000 = 0
  · refine ⟨padded 6 (k / 1000),
      by rw [Instant.fractionText, if_neg hzero, if_neg hmillis, if_pos hmicros], ?_⟩
    have hback : k / 1000 * 10 ^ 3 = k := by omega
    rw [decimals_padded 5 (by omega) (by omega) _ hend, hback]
  · refine ⟨padded 9 k,
      by rw [Instant.fractionText, if_neg hzero, if_neg hmillis, if_neg hmicros], ?_⟩
    rw [decimals_padded 8 (by omega) (by omega) _ hend, Nat.sub_self, Nat.pow_zero, Nat.mul_one]

/-! ## All parts -/

/-- The parts that the text of an instant shows. -/
def partsOf (t : Instant) : Parts where
  date := t.date
  hour := t.timeOfDay.toNat / 3600
  minute := t.timeOfDay.toNat / 60 % 60
  second := t.timeOfDay.toNat % 60 + t.nanos / 1000000000
  nanos := t.nanos % 1000000000
  offset := 0

theorem chars_eq (t : Instant) : t.chars = Date.yearText t.date.year ++ '-' ::
    (padded 2 t.date.month ++ '-' :: (padded 2 t.date.day ++ 'T' ::
      (padded 2 (partsOf t).hour ++ ':' :: (padded 2 (partsOf t).minute ++ ':' ::
        (padded 2 (partsOf t).second ++ (Instant.fractionText (partsOf t).nanos ++ ['Z'])))))) := by
  simp [Instant.chars, Date.text, Instant.clockText, partsOf]

/-- A part that is read hands on what it read. -/
theorem bind_of_eq_some {α β : Type} {x : Option α} {a : α} (h : x = some a) (f : α → Option β) :
    (x >>= f) = f a := by
  rw [h]
  rfl

/-- The parts of a clock are in range; only a leap second shows second 60. -/
theorem partsOf_clock {t : Instant} (h : t.nanos < 2000000000) :
    (partsOf t).hour < 24 ∧ (partsOf t).minute < 60 ∧ (partsOf t).second ≤ 60 := by
  simp only [partsOf, Instant.timeOfDay]
  omega

/-- The text of an instant is read as the parts that it shows. -/
theorem parts_chars {t : Instant} (h : t.nanos < 2000000000) :
    parts t.chars = some (partsOf t) := by
  have hexists : t.date.Exists := Date.exists_ofDayNumber (t.secs / 86400)
  have hmonth : t.date.month < 100 := Nat.lt_of_le_of_lt hexists.2.1 (by decide)
  have hday : t.date.day < 100 := Nat.lt_of_le_of_lt hexists.day_le (by decide)
  obtain ⟨hhour, hminute, hsecond⟩ := partsOf_clock h
  have hdash := mark_cons (c := '-') (by decide)
  have hcolon := mark_cons (c := ':') (by decide)
  rw [chars_eq, parts]
  -- Part by part, in the order of the text.
  refine (bind_of_eq_some (year_yearText _ _) _).trans ?_
  refine (bind_of_eq_some (hdash _) _).trans ?_
  refine (bind_of_eq_some (pair_padded hmonth _) _).trans ?_
  refine (bind_of_eq_some (hdash _) _).trans ?_
  refine (bind_of_eq_some (pair_padded hday _) _).trans ?_
  refine (bind_of_eq_some (pair_padded (by omega) _) _).trans ?_
  refine (bind_of_eq_some (hcolon _) _).trans ?_
  refine (bind_of_eq_some (pair_padded (by omega) _) _).trans ?_
  refine (bind_of_eq_some (hcolon _) _).trans ?_
  refine (bind_of_eq_some (pair_padded (by omega) _) _).trans ?_
  rcases fractionText_cases (k := (partsOf t).nanos) (Nat.mod_lt _ (by decide)) with
    ⟨hzero, htext⟩ | ⟨ds, htext, hread⟩
  · rw [htext]
    exact congrArg (fun nanos => some { partsOf t with nanos := nanos }) hzero.symm
  · rw [htext]
    exact bind_of_eq_some hread _

/-- Representable instants lie in the years that can be read. -/
theorem year_bounds {t : Instant} (h : t.Valid) :
    -262143 ≤ t.date.year ∧ t.date.year ≤ 262142 := by
  obtain ⟨hfirst, hlast, -⟩ := h
  rw [Instant.firstSecs] at hfirst
  rw [Instant.lastSecs] at hlast
  have hbegin : Date.daysBeforeYear (-262143) = -95746130 := by decide
  have hend : Date.daysBeforeYear (262142 + 1) = 95745399 := by decide
  constructor
  · refine Date.le_ofDayNumber_year ?_
    rw [hbegin, Date.epochDay]
    omega
  · refine Date.ofDayNumber_year_le ?_
    rw [hend, Date.epochDay]
    omega

/-- The parts of a representable instant name it. -/
theorem instant?_of_valid {t : Instant} (h : t.Valid) : (partsOf t).instant? = some t := by
  obtain ⟨hyearLow, hyearHigh⟩ := year_bounds h
  obtain ⟨hfirst, hlast, hnanos⟩ := h
  obtain ⟨hhour, hminute, hsecond⟩ := partsOf_clock (t := t) (by omega)
  have hexists : t.date.Exists := Date.exists_ofDayNumber (t.secs / 86400)
  have hday : t.date.dayNumber = t.secs / 86400 := Date.dayNumber_ofDayNumber _
  have hinDay : t.timeOfDay = t.secs % 86400 := rfl
  have hsecs : t.date.dayNumber * 86400 + (3600 * (partsOf t).hour + 60 * (partsOf t).minute +
      min (partsOf t).second 59 : Nat) - 0 = t.secs := by
    simp only [partsOf, hday]
    omega
  have hleap : (if (partsOf t).second = 60 then 1000000000 + (partsOf t).nanos
      else (partsOf t).nanos) = t.nanos := by
    by_cases hsixty : (partsOf t).second = 60
    · rw [if_pos hsixty]
      simp only [partsOf] at hsixty ⊢
      omega
    · rw [if_neg hsixty]
      simp only [partsOf] at hsixty ⊢
      omega
  have hdate : (partsOf t).date = t.date := rfl
  have hoffset : (partsOf t).offset = 0 := rfl
  simp only [Parts.instant?, hdate, hoffset, hsecs, hleap]
  exact if_pos ⟨hexists, hyearLow, hyearHigh, hhour, hminute, hsecond, by decide, hfirst, hlast⟩

/-! ## What is read -/

/-- Decimals stay below one second. -/
theorem decimals_lt {cs rest : List Char} {k : Nat} (h : decimals cs = some (k, rest)) :
    k < 1000000000 := by
  simp only [decimals] at h
  split at h
  · cases h
  · obtain ⟨rfl, -⟩ := Prod.mk.inj (Option.some.inj h)
    have hdigits : ∀ c ∈ (cs.takeWhile isDigit).take 9, isDigit c = true := fun c hc =>
      List.all_eq_true.1 List.all_takeWhile c (List.mem_of_mem_take hc)
    have hlt := Number.valueOf_lt hdigits
    have hlength : ((cs.takeWhile isDigit).take 9).length ≤ 9 := by
      rw [List.length_take]
      exact Nat.min_le_left _ _
    generalize (cs.takeWhile isDigit).take 9 = kept at hlt hlength
    calc valueOf kept * 10 ^ (9 - kept.length)
        < 10 ^ kept.length * 10 ^ (9 - kept.length) :=
          Nat.mul_lt_mul_of_pos_right hlt (Nat.pow_pos (by decide))
      _ = 10 ^ 9 := by rw [← Nat.pow_add, Nat.add_sub_cancel' hlength]

/-- An offset in hours and minutes is a number of minutes. -/
theorem offset_minutes {cs rest : List Char} {o : Int} (h : offset cs = some (o, rest)) :
    o % 60 = 0 := by
  simp only [offset] at h
  split at h
  case h_1 => cases h; rfl
  case h_2 => cases h; rfl
  case h_6 => cases h
  all_goals
    split at h
    · split at h
      · split at h
        · split at h
          · cases h
            omega
          · cases h
        · cases h
      · cases h
    · cases h

/-- Offsets are whole minutes. -/
theorem zone_minutes {cs rest : List Char} {o : Int} (h : zone cs = some (o, rest)) :
    o % 60 = 0 := by
  rw [zone] at h
  split at h
  · cases h
    rfl
  · exact offset_minutes h

/-- Parts that stay within a second and within whole minutes of offset. -/
def Parts.Bounded (p : Parts) : Prop := p.nanos < 1000000000 ∧ p.offset % 60 = 0

/-- If there is a result, it is bounded. -/
def Bounds (x : Option Parts) : Prop := ∀ p, x = some p → p.Bounded

theorem bounds_bind {α : Type} {x : Option α} {f : α → Option Parts}
    (h : ∀ a, x = some a → Bounds (f a)) : Bounds (x.bind f) := by
  intro p hp
  obtain ⟨a, ha, hp⟩ := Option.bind_eq_some_iff.1 hp
  exact h a ha p hp

theorem bounds_end (date : Date) (hour minute second : Nat) {nanos : Nat}
    (hnanos : nanos < 1000000000) (cs : List Char) :
    Bounds ((zone (trimStart cs)).bind fun x =>
      if (trimStart x.2).isEmpty then some ⟨date, hour, minute, second, nanos, x.1⟩ else none) := by
  refine bounds_bind ?_
  rintro ⟨o, rest⟩ hzone p hp
  split at hp
  · cases hp
    exact ⟨hnanos, zone_minutes hzone⟩
  · cases hp

/-- Whatever is read is bounded. -/
theorem bounds_parts (cs : List Char) : Bounds (parts cs) := by
  rw [parts]
  refine bounds_bind fun year _ => bounds_bind fun _ _ => bounds_bind fun month _ =>
    bounds_bind fun _ _ => bounds_bind fun day _ => ?_
  dsimp only
  split
  case h_4 => exact bounds_bind nofun
  -- Three characters may stand between date and time; what follows is read the same way.
  all_goals
    refine bounds_bind fun _ _ => bounds_bind fun hour _ => bounds_bind fun _ _ =>
      bounds_bind fun minute _ => bounds_bind fun _ _ => bounds_bind fun second _ => ?_
    split
    · exact bounds_bind fun nanos hread => bounds_end _ _ _ _ (decimals_lt hread) _
    · exact bounds_bind fun nanos hread => bounds_end _ _ _ _ (by cases hread; simp) _

end Reading

namespace Instant

/-- **Every representable instant comes back from its text.** -/
theorem ofText?_text {t : Instant} (h : t.Valid) : ofText? t.text = some t := by
  have hnanos : t.nanos < 2000000000 := by
    obtain ⟨-, -, hnanos⟩ := h
    omega
  rw [ofText?, text, String.toList_ofList, ofChars?, Reading.parts_chars hnanos]
  exact Reading.instant?_of_valid h

/-- No other instants are read. -/
theorem valid_of_ofText? {s : String} {t : Instant} (h : ofText? s = some t) : t.Valid := by
  obtain ⟨p, hparts, hnamed⟩ := Option.bind_eq_some_iff.1 h
  obtain ⟨hnanos, hoffset⟩ := Reading.bounds_parts _ p hparts
  simp only [Reading.Parts.instant?] at hnamed
  split at hnamed
  · rename_i hranges
    obtain ⟨-, -, -, -, -, -, -, hfirst, hlast⟩ := hranges
    cases hnamed
    refine ⟨hfirst, hlast, ?_⟩
    simp only
    split <;> omega
  · cases hnamed

end Instant
end RecordingHarvest
