/-
Weeks and the dates in them.

A week is numbered in two ways: within the year of its days, from the first Sunday or Monday on, and within
the year that its Thursday lies in. Under either numbering the year, the week and the weekday identify a
date again. Weekdays are counted modulo seven, so each of these facts comes down to one congruence between
the day number, the weekday of the first day of the year and the number of the week.
-/
import Overdue.Proofs.Calendar.DayNumber

set_option autoImplicit false

namespace Overdue.Calendar

/-! ## Weekdays -/

namespace Weekday

theorem index_lt (w : Weekday) : w.index < 7 := by
  cases w <;> decide

theorem index_ofIndex (n : Nat) : (ofIndex n).index = n % 7 := by
  have hn := Nat.mod_lt n (show 0 < 7 by decide)
  rw [ofIndex.eq_def]
  split
  case h_7 =>
    rw [index]
    grind
  all_goals
    rename_i h
    rw [h]
    rfl

theorem ofIndex_index (w : Weekday) : ofIndex w.index = w := by
  cases w <;> rfl

/-- The first day of the first year is a Monday. -/
theorem index_ofDayNumber (n : Int) : ((ofDayNumber n).index : Int) = (n - 1) % 7 := by
  rw [ofDayNumber, index_ofIndex]
  omega

/-- The days since the start of the week are a remainder by seven. -/
theorem daysSince_eq (w start : Weekday) :
    (w.daysSince start : Int) = ((w.index : Int) - start.index) % 7 := by
  have := start.index_lt
  rw [daysSince]
  omega

end Weekday

namespace Date

/-- The day of the week of a date goes by the number of the day. -/
theorem index_weekday (d : Date) : (d.weekday.index : Int) = (d.dayNumber - 1) % 7 :=
  Weekday.index_ofDayNumber d.dayNumber

/-! ## Weeks from the first Sunday or Monday on -/

/-- There are at most 53 starts of weeks in a year. -/
theorem weekFrom_le (start : Weekday) (d : Date) : d.weekFrom start ≤ 53 := by
  have := d.ordinal_le
  have := daysInYear_le d.year
  rw [weekFrom]
  omega

/-- The year, the week and the weekday identify a date. -/
theorem ofWeekFrom?_weekFrom (start : Weekday) (d : Date) :
    ofWeekFrom? start d.year (d.weekFrom start) d.weekday = some d := by
  have hone := d.one_le_ordinal
  have hday := d.index_weekday
  have hfirst := Weekday.index_ofDayNumber (daysBeforeYear d.year + 1)
  have hsince := d.weekday.daysSince_eq start
  have hstart := start.daysSince_eq (Weekday.ofDayNumber (daysBeforeYear d.year + 1))
  have hindex := start.index_lt
  rw [dayNumber] at hday
  -- the first day `start` of the year, whole weeks, and the days since the last `start`
  have hordinal : (1 : Int) + start.daysSince (Weekday.ofDayNumber (daysBeforeYear d.year + 1)) +
      ((d.weekFrom start : Int) - 1) * 7 + d.weekday.daysSince start = d.ordinal := by
    rw [weekFrom]
    omega
  rw [ofWeekFrom?, hordinal, if_pos (by omega), Int.toNat_natCast, ofOrdinal?_eq_some_iff]
  exact ⟨rfl, rfl⟩

/-! ## Weeks by their Thursday -/

/-- The Thursday of the week of a date lies in the year of the week. -/
theorem yearWeek_bounds (d : Date) :
    daysBeforeYear d.yearWeek.year < d.dayNumber + 3 - d.weekday.index ∧
      d.dayNumber + 3 - d.weekday.index ≤ daysBeforeYear (d.yearWeek.year + 1) :=
  yearOfDay_bounds _

/-- The number of a week counts the Thursdays of its year. -/
theorem week_yearWeek (d : Date) :
    d.yearWeek.week =
      (d.dayNumber + 3 - d.weekday.index - daysBeforeYear d.yearWeek.year - 1).toNat / 7 + 1 := by
  rw [yearWeek, YearWeek.ofDayNumber, weekday]

theorem one_le_week (d : Date) : 1 ≤ d.yearWeek.week := by
  rw [week_yearWeek]
  omega

/-- A year has at most 53 weeks. -/
theorem week_le (d : Date) : d.yearWeek.week ≤ 53 := by
  have hyear := daysBeforeYear_succ d.yearWeek.year
  have hlong := daysInYear_le d.yearWeek.year
  have hhigh := d.yearWeek_bounds.2
  rw [week_yearWeek]
  omega

/-- The year of a week is that of one of its days. -/
theorem year_yearWeek_le (d : Date) : d.yearWeek.year ≤ d.year + 1 := by
  have hday := d.dayNumber_bounds.2
  have hnext := daysBeforeYear_succ (d.year + 1)
  have hlong : 365 ≤ daysInYear (d.year + 1) := by
    rw [daysInYear]
    split <;> decide
  refine yearOfDay_le ?_
  omega

/-- The first of January of 1970 was a Thursday. -/
theorem le_year_yearWeek {d : Date} (h : 1970 ≤ d.year) : 1970 ≤ d.yearWeek.year := by
  have hday := d.dayNumber_bounds.1
  have hyear := daysBeforeYear_mono h
  have hepoch : daysBeforeYear 1970 = 719162 := by decide
  have hindex := d.index_weekday
  refine le_yearOfDay ?_
  change daysBeforeYear 1970 < d.dayNumber + 3 - d.weekday.index
  omega

/-- The week and the weekday identify a date. -/
theorem ofYearWeek?_yearWeek (d : Date) : ofYearWeek? d.yearWeek d.weekday = some d := by
  obtain ⟨hlow, hhigh⟩ := d.yearWeek_bounds
  have hweek := d.week_yearWeek
  have hday := d.index_weekday
  have hfourth := Weekday.index_ofDayNumber (daysBeforeYear d.yearWeek.year + 4)
  -- the Monday of the first week, and whole weeks
  have hnumber : daysBeforeYear d.yearWeek.year + 4 -
      (Weekday.ofDayNumber (daysBeforeYear d.yearWeek.year + 4)).index +
      7 * ((d.yearWeek.week : Int) - 1) + d.weekday.index = d.dayNumber := by
    omega
  rw [ofYearWeek?, hnumber, ← yearWeek, if_pos rfl, ofDayNumber?_eq_some_iff]

/-- The date of a day in a week lies in that week. -/
theorem yearWeek_of_ofYearWeek? {w : YearWeek} {weekday : Weekday} {e : Date}
    (h : ofYearWeek? w weekday = some e) : e.yearWeek = w := by
  unfold ofYearWeek? at h
  dsimp only at h
  split at h
  · rename_i hweek
    rw [yearWeek, ofDayNumber?_eq_some_iff.mp h]
    exact hweek
  · cases h

end Date

end Overdue.Calendar
