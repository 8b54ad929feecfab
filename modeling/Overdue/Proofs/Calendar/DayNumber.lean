/-
Day numbers and the calendar.

A date and its day number determine each other. The year of a day number is guessed from the mean length of
a year, and the month of a day of the year is searched for, so neither step is the inverse of counting by
its form; both are pinned down by bounds instead: a day number lies behind all days of earlier years and
not behind those of its own, and a day of the year behind all earlier months and not behind its own.
Everything else follows from these two bounds and from the fact that days before a year, and before a month,
only grow.

The day numbers themselves are measured against the calendar: whatever counts one for each step from a date
to the next one differs from the day number by a constant (`CountsDays.sub_eq`).
-/
import Overdue.Proofs.Calendar.Standard

set_option autoImplicit false

namespace Overdue.Calendar

/-! ## Years -/

/-- The Gregorian rule for leap years, as remainders. -/
theorem isLeap_iff (year : Int) :
    isLeap year = true ↔ year % 4 = 0 ∧ (year % 100 ≠ 0 ∨ year % 400 = 0) := by
  simp [isLeap]

/-- The days before a year: 365 for each year, and the leap days among them. -/
theorem daysBeforeYear_eq (year : Int) :
    daysBeforeYear year =
      365 * (year - 1) + (year - 1) / 4 - (year - 1) / 100 + (year - 1) / 400 := rfl

/-- The next year begins when all days of the year are over. -/
theorem daysBeforeYear_succ (year : Int) :
    daysBeforeYear (year + 1) = daysBeforeYear year + daysInYear year := by
  have hleap := isLeap_iff year
  rw [daysInYear]
  simp only [daysBeforeYear_eq]
  by_cases h : isLeap year = true
  · have := hleap.mp h
    rw [if_pos h]
    omega
  · have := mt hleap.mpr h
    rw [if_neg h]
    omega

/-- A later year has more days before it. -/
theorem daysBeforeYear_mono {a b : Int} (h : a ≤ b) : daysBeforeYear a ≤ daysBeforeYear b := by
  simp only [daysBeforeYear_eq]
  omega

theorem daysInYear_le (year : Int) : daysInYear year ≤ 366 := by
  rw [daysInYear]
  split <;> decide

/-- The guess from the mean length of a year is off by one at most, on either side. -/
theorem daysBeforeYear_guess (n : Int) :
    daysBeforeYear (n * 400 / 146097) < n ∧
      n ≤ daysBeforeYear (n * 400 / 146097 + 1 + 1 + 1) := by
  simp only [daysBeforeYear_eq]
  constructor
  · omega
  · omega

/-- A day number lies in its year. -/
theorem yearOfDay_bounds (n : Int) :
    daysBeforeYear (yearOfDay n) < n ∧ n ≤ daysBeforeYear (yearOfDay n + 1) := by
  obtain ⟨hlow, hhigh⟩ := daysBeforeYear_guess n
  unfold yearOfDay
  dsimp only
  split
  · rename_i h
    rw [Int.add_sub_cancel]
    exact ⟨hlow, h⟩
  · split
    · rename_i h
      exact ⟨h, hhigh⟩
    · rename_i h₁ h₂
      exact ⟨Int.not_le.mp h₁, Int.not_lt.mp h₂⟩

/-- A day number lies in no other year. -/
theorem yearOfDay_eq {n year : Int} (hlow : daysBeforeYear year < n)
    (hhigh : n ≤ daysBeforeYear (year + 1)) : yearOfDay n = year := by
  obtain ⟨hlow', hhigh'⟩ := yearOfDay_bounds n
  rcases Int.lt_trichotomy (yearOfDay n) year with h | h | h
  · have := daysBeforeYear_mono (show yearOfDay n + 1 ≤ year by omega)
    omega
  · exact h
  · have := daysBeforeYear_mono (show year + 1 ≤ yearOfDay n by omega)
    omega

/-- A day that comes no later than the end of a year is in no later year. -/
theorem yearOfDay_le {n year : Int} (h : n ≤ daysBeforeYear (year + 1)) : yearOfDay n ≤ year := by
  by_contra hlater
  have := daysBeforeYear_mono (show year + 1 ≤ yearOfDay n by omega)
  have := (yearOfDay_bounds n).1
  omega

/-- A day that comes after all days before a year is in no earlier year. -/
theorem le_yearOfDay {n year : Int} (h : daysBeforeYear year < n) : year ≤ yearOfDay n := by
  by_contra hearlier
  have := daysBeforeYear_mono (show yearOfDay n + 1 ≤ year by omega)
  have := (yearOfDay_bounds n).2
  omega

/-! ## Months -/

/-- Every month has a day. -/
theorem one_le_daysInMonth (year : Int) {month : Nat} (h : 1 ≤ month) (h' : month ≤ 12) :
    1 ≤ daysInMonth year month := by
  rw [daysInMonth.eq_def]
  split
  case h_13 => grind
  case h_12 => split <;> decide
  all_goals decide

/-- The next month begins when all days of the month are over. -/
theorem daysBeforeMonth_succ (year : Int) {month : Nat} (h : 1 ≤ month) :
    daysBeforeMonth year (month + 1) = daysBeforeMonth year month + daysInMonth year month := by
  obtain ⟨m, rfl⟩ := Nat.exists_eq_add_of_le' h
  rfl

theorem daysBeforeMonth_mono (year : Int) {a b : Nat} (h : a ≤ b) :
    daysBeforeMonth year a ≤ daysBeforeMonth year b := by
  induction h with
  | refl => exact Nat.le_refl _
  | @step b _ ih =>
    rcases Nat.eq_zero_or_pos b with rfl | hb
    · exact ih
    · rw [daysBeforeMonth_succ year hb]
      omega

/-- Twelve months make up a year. -/
theorem daysBeforeMonth_thirteen (year : Int) : daysBeforeMonth year 13 = daysInYear year := by
  simp only [daysBeforeMonth, daysInMonth, daysInYear]
  split <;> rfl

/-- The search from a month on ends in the month that a day of the year lies in. -/
theorem monthOfOrdinal_bounds {year : Int} {ordinal : Nat} (hlast : ordinal ≤ daysInYear year) :
    ∀ {fuel month : Nat}, fuel + month = 12 → daysBeforeMonth year month < ordinal →
      month ≤ Date.monthOfOrdinal year ordinal fuel month ∧
      Date.monthOfOrdinal year ordinal fuel month ≤ 12 ∧
      daysBeforeMonth year (Date.monthOfOrdinal year ordinal fuel month) < ordinal ∧
      ordinal ≤ daysBeforeMonth year (Date.monthOfOrdinal year ordinal fuel month + 1) := by
  intro fuel
  induction fuel with
  | zero =>
    intro month hmonth hlow
    rw [Nat.zero_add] at hmonth
    subst hmonth
    rw [← daysBeforeMonth_thirteen] at hlast
    exact ⟨Nat.le_refl _, Nat.le_refl _, hlow, hlast⟩
  | succ fuel ih =>
    intro month hmonth hlow
    rw [Date.monthOfOrdinal]
    split
    · rename_i h
      exact ⟨Nat.le_refl _, by omega, hlow, h⟩
    · rename_i h
      obtain ⟨h₁, h₂, h₃, h₄⟩ := ih (show fuel + (month + 1) = 12 by omega) (Nat.not_le.mp h)
      exact ⟨by omega, h₂, h₃, h₄⟩

/-- A day of the year lies in one month only. -/
theorem eq_of_daysBeforeMonth {year : Int} {ordinal a b : Nat}
    (ha : daysBeforeMonth year a < ordinal) (ha' : ordinal ≤ daysBeforeMonth year (a + 1))
    (hb : daysBeforeMonth year b < ordinal) (hb' : ordinal ≤ daysBeforeMonth year (b + 1)) : a = b := by
  rcases Nat.lt_trichotomy a b with h | h | h
  · have := daysBeforeMonth_mono year (show a + 1 ≤ b from h)
    omega
  · exact h
  · have := daysBeforeMonth_mono year (show b + 1 ≤ a from h)
    omega

namespace Date

/-! ## Days of the year -/

/-- The number of a day within its year tells its month. -/
theorem ordinal_bounds (d : Date) :
    daysBeforeMonth d.year d.month < d.ordinal ∧
      d.ordinal ≤ daysBeforeMonth d.year (d.month + 1) := by
  obtain ⟨-, -, hmonth, -, hday, hday'⟩ := d.isDate
  rw [ordinal, daysBeforeMonth_succ _ hmonth]
  omega

theorem ordinal_le (d : Date) : d.ordinal ≤ daysInYear d.year := by
  have hmonth := d.month_le
  have := daysBeforeMonth_mono d.year (show d.month + 1 ≤ 13 by omega)
  have := d.ordinal_bounds.2
  rw [daysBeforeMonth_thirteen] at *
  omega

theorem one_le_ordinal (d : Date) : 1 ≤ d.ordinal := by
  have := d.ordinal_bounds.1
  omega

/-- The date of a year, month and day is the one that has these. -/
theorem ofParts?_eq_some_iff {year : Int} {month day : Nat} {d : Date} :
    ofParts? year month day = some d ↔ d.year = year ∧ d.month = month ∧ d.day = day := by
  rw [ofParts?]
  constructor
  · intro h
    split at h
    · cases h
      exact ⟨rfl, rfl, rfl⟩
    · cases h
  · rintro ⟨rfl, rfl, rfl⟩
    exact dif_pos d.isDate

/-- The date on a day of a year is the one with that year and that day of the year. -/
theorem ofOrdinal?_eq_some_iff {year : Int} {ordinal : Nat} {d : Date} :
    ofOrdinal? year ordinal = some d ↔ d.year = year ∧ d.ordinal = ordinal := by
  rw [ofOrdinal?, ofParts?_eq_some_iff]
  constructor
  · rintro ⟨rfl, hmonth, hday⟩
    refine ⟨rfl, ?_⟩
    -- the day is not zero, so the subtraction was not cut off
    have hone := d.isDate.2.2.2.2.1
    rw [Date.ordinal, hmonth]
    omega
  · rintro ⟨rfl, rfl⟩
    have hone := d.one_le_ordinal
    obtain ⟨hlow, hhigh⟩ := d.ordinal_bounds
    obtain ⟨-, -, hlow', hhigh'⟩ := monthOfOrdinal_bounds d.ordinal_le (show 11 + 1 = 12 from rfl) hone
    have hmonth := eq_of_daysBeforeMonth hlow hhigh hlow' hhigh'
    refine ⟨rfl, hmonth, ?_⟩
    rw [← hmonth, Date.ordinal]
    omega

/-- Every number up to the length of a year is that of one of its dates. -/
theorem exists_ofOrdinal? {year : Int} {ordinal : Nat} (hfirst : firstYear ≤ year)
    (hlast : year ≤ lastYear) (hone : 1 ≤ ordinal) (hordinal : ordinal ≤ daysInYear year) :
    ∃ d, ofOrdinal? year ordinal = some d := by
  obtain ⟨hmonth, hmonth', hlow, hhigh⟩ :=
    monthOfOrdinal_bounds hordinal (show 11 + 1 = 12 from rfl) hone
  rw [daysBeforeMonth_succ _ hmonth] at hhigh
  refine ⟨_, dif_pos ⟨hfirst, hlast, hmonth, hmonth', ?_, ?_⟩⟩
  · omega
  · omega

/-! ## Day numbers -/

/-- The number of a day tells its year. -/
theorem dayNumber_bounds (d : Date) :
    daysBeforeYear d.year < d.dayNumber ∧ d.dayNumber ≤ daysBeforeYear (d.year + 1) := by
  have hone := d.one_le_ordinal
  have hlast := d.ordinal_le
  rw [daysBeforeYear_succ, dayNumber]
  omega

/-- The year can be found from the number of a day. -/
theorem yearOfDay_dayNumber (d : Date) : yearOfDay d.dayNumber = d.year :=
  yearOfDay_eq d.dayNumber_bounds.1 d.dayNumber_bounds.2

/-- The date with a day number is the one that has this number. -/
theorem ofDayNumber?_eq_some_iff {n : Int} {d : Date} :
    ofDayNumber? n = some d ↔ d.dayNumber = n := by
  rw [ofDayNumber?, ofOrdinal?_eq_some_iff]
  constructor
  · rintro ⟨hyear, hordinal⟩
    have hlow := (yearOfDay_bounds n).1
    rw [dayNumber, hyear, hordinal]
    omega
  · rintro rfl
    rw [yearOfDay_dayNumber, dayNumber]
    refine ⟨rfl, ?_⟩
    omega

/-- Different dates have different numbers. -/
theorem dayNumber_injective {a b : Date} (h : a.dayNumber = b.dayNumber) : a = b := by
  have ha := ofDayNumber?_eq_some_iff.mpr h
  have hb := ofDayNumber?_eq_some_iff.mpr (Eq.refl b.dayNumber)
  exact Option.some.inj (ha.symm.trans hb)

theorem le_iff_dayNumber_le {a b : Date} : a ≤ b ↔ a.dayNumber ≤ b.dayNumber := Iff.rfl

theorem lt_iff_dayNumber_lt {a b : Date} : a < b ↔ a.dayNumber < b.dayNumber := Iff.rfl

theorem dayNumber_le_last (d : Date) : d.dayNumber ≤ last.dayNumber := by
  have hyear := daysBeforeYear_mono (show d.year + 1 ≤ lastYear + 1 by have := d.isDate.2.1; omega)
  have hlast : last.dayNumber = daysBeforeYear (lastYear + 1) := by decide
  have := d.dayNumber_bounds.2
  omega

/-- There is no gap between two dates. -/
theorem exists_dayNumber {a b : Date} {n : Int} (ha : a.dayNumber ≤ n) (hb : n ≤ b.dayNumber) :
    ∃ d : Date, d.dayNumber = n := by
  obtain ⟨hlow, hhigh⟩ := yearOfDay_bounds n
  have hfirst : firstYear ≤ yearOfDay n :=
    Int.le_trans a.isDate.1 (le_yearOfDay (Int.lt_of_lt_of_le a.dayNumber_bounds.1 ha))
  have hlast : yearOfDay n ≤ lastYear :=
    Int.le_trans (yearOfDay_le (Int.le_trans hb b.dayNumber_bounds.2)) b.isDate.2.1
  rw [daysBeforeYear_succ] at hhigh
  obtain ⟨d, hd⟩ := exists_ofOrdinal? hfirst hlast
    (show 1 ≤ (n - daysBeforeYear (yearOfDay n)).toNat by omega) (by omega)
  exact ⟨d, ofDayNumber?_eq_some_iff.mp hd⟩

/-- Adding days adds to the day number, and stops at the last date. -/
theorem dayNumber_addDays (d : Date) (days : Nat) :
    (d.addDays days).dayNumber = min (d.dayNumber + days) last.dayNumber := by
  rw [addDays]
  by_cases hlast : d.dayNumber + days ≤ last.dayNumber
  · obtain ⟨e, he⟩ := exists_dayNumber (show d.dayNumber ≤ d.dayNumber + days by omega) hlast
    rw [ofDayNumber?_eq_some_iff.mpr he, Option.getD_some, he, Int.min_eq_left hlast]
  · -- no date has the sum as its number
    have hnone : ofDayNumber? (d.dayNumber + days) = none := by
      rw [Option.eq_none_iff_forall_ne_some]
      intro e he
      have := e.dayNumber_le_last
      rw [ofDayNumber?_eq_some_iff.mp he] at this
      exact hlast this
    rw [hnone, Option.getD_none, Int.min_eq_right (by omega)]

/-! ## From a date to the next one -/

/-- The date `e` comes right after `d`: it is the next day of the month, or the first of the next month
when the month is over, or the first of the next year when that was the last month. -/
inductive IsNext (d e : Date) : Prop
  | day (year : e.year = d.year) (month : e.month = d.month) (day : e.day = d.day + 1)
  | month (full : d.day = daysInMonth d.year d.month) (year : e.year = d.year)
      (month : e.month = d.month + 1) (day : e.day = 1)
  | year (full : d.day = daysInMonth d.year d.month) (last : d.month = 12)
      (year : e.year = d.year + 1) (month : e.month = 1) (day : e.day = 1)

/-- The next date has the next number. -/
theorem IsNext.dayNumber_eq {d e : Date} (h : IsNext d e) : e.dayNumber = d.dayNumber + 1 := by
  have hmonths := daysBeforeMonth_succ d.year d.isDate.2.2.1
  cases h with
  | day hyear hmonth hday =>
    rw [dayNumber, dayNumber, ordinal, ordinal, hyear, hmonth, hday]
    omega
  | month hfull hyear hmonth hday =>
    rw [dayNumber, dayNumber, ordinal, ordinal, hyear, hmonth, hday, hmonths, hfull]
    omega
  | year hfull hlast hyear hmonth hday =>
    -- the twelve months of a year are all of it
    have hyears := daysBeforeYear_succ d.year
    rw [hlast, daysBeforeMonth_thirteen] at hmonths
    rw [dayNumber, dayNumber, ordinal, ordinal, hyear, hmonth, hday, hyears, hmonths, hfull, hlast,
      daysBeforeMonth]
    omega

/-- Every date but the last one is followed by another. -/
theorem exists_isNext {d : Date} (h : d.dayNumber < last.dayNumber) : ∃ e, IsNext d e := by
  obtain ⟨hfirst, hlast, hmonth, hmonth', hday, hday'⟩ := d.isDate
  by_cases hfull : d.day < daysInMonth d.year d.month
  · exact ⟨⟨d.year, d.month, d.day + 1, hfirst, hlast, hmonth, hmonth', by omega, hfull⟩,
      .day rfl rfl rfl⟩
  · have hfull : d.day = daysInMonth d.year d.month := by omega
    by_cases hdecember : d.month < 12
    · have hlong := one_le_daysInMonth d.year (show 1 ≤ d.month + 1 by omega) hdecember
      exact ⟨⟨d.year, d.month + 1, 1, hfirst, hlast, by omega, hdecember, Nat.le_refl _, hlong⟩,
        .month hfull rfl rfl rfl⟩
    · have hdecember : d.month = 12 := by omega
      have hyear : d.year ≠ lastYear := by
        intro hyear
        rw [dayNumber, ordinal, hfull, hdecember, hyear] at h
        exact absurd h (by decide)
      have hlong := one_le_daysInMonth (d.year + 1) (Nat.le_refl 1) (by decide)
      exact ⟨⟨d.year + 1, 1, 1, by omega, by omega, Nat.le_refl _, by decide, Nat.le_refl _, hlong⟩,
        .year hfull hdecember rfl rfl rfl⟩

end Date

/-! ## Counting days -/

/-- A count of days: one more from each date to the next. -/
def CountsDays (count : Date → Int) : Prop :=
  ∀ d e : Date, d.IsNext e → count e = count d + 1

theorem countsDays_dayNumber : CountsDays Date.dayNumber := fun _ _ h => h.dayNumber_eq

/-- All counts of days tell the same distances. -/
theorem CountsDays.sub_eq {count : Date → Int} (h : CountsDays count) (a b : Date) :
    count b - count a = b.dayNumber - a.dayNumber := by
  -- the distance is gone along from the earlier date to the later one
  have hforward : ∀ (n : Nat) (a b : Date), a.dayNumber + n = b.dayNumber → count b = count a + n := by
    intro n
    induction n with
    | zero =>
      intro a b hab
      rw [Date.dayNumber_injective (show a.dayNumber = b.dayNumber by omega)]
      omega
    | succ n ih =>
      intro a b hab
      have hlast := b.dayNumber_le_last
      obtain ⟨next, hnext⟩ := Date.exists_isNext (show a.dayNumber < Date.last.dayNumber by omega)
      have hnumber := hnext.dayNumber_eq
      have := ih next b (by omega)
      have := h a next hnext
      omega
  rcases Int.le_total a.dayNumber b.dayNumber with hab | hab
  · have := hforward (b.dayNumber - a.dayNumber).toNat a b (by omega)
    omega
  · have := hforward (a.dayNumber - b.dayNumber).toNat b a (by omega)
    omega

end Overdue.Calendar
