/-
The date after which a marker is expired.

A marker without an expire date of its own expires a number of days after its warn date. That date is found
by adding to a day number and looking for the date with the sum, or else taking the last date. Here it is
shown to be the date that one comes to by going from day to day in the calendar (`Date.next`), as often as
there are days, and staying at the last date once it is reached.

A step of the calendar knows nothing of day numbers: it looks for the next day of the month, then for the
first of the next month, then for the first of the next year. The two meet in one fact: a step adds one to
the day number, unless that of the last date is reached (`dayNumber_next`).
-/
import Mathlib.Logic.Function.Iterate
import Overdue.Marker.Basic
import Overdue.Proofs.Calendar.DayNumber

set_option autoImplicit false

namespace Overdue

open Overdue.Calendar

namespace Calendar.Date

/-! ## Going from day to day -/

/-- The date after a date: the next day of the month, or else the first of the next month, or else the first
of the next year. The last date is followed by itself. -/
def next (d : Date) : Date :=
  (((ofParts? d.year d.month (d.day + 1)).or (ofParts? d.year (d.month + 1) 1)).or
    (ofParts? (d.year + 1) 1 1)).getD d

/-- No date has a month after the twelfth. -/
theorem ofParts?_eq_none_of_month {year : Int} {month day : Nat} (h : 12 < month) :
    ofParts? year month day = none := by
  refine dif_neg fun hdate => ?_
  have hmonth := hdate.2.2.2.1
  omega

theorem ofParts?_eq_none_of_day {year : Int} {month day : Nat} (h : daysInMonth year month < day) :
    ofParts? year month day = none := by
  refine dif_neg fun hdate => ?_
  have hday := hdate.2.2.2.2.2
  omega

/-- The date that comes right after a date is the next one. -/
theorem IsNext.next_eq {d e : Date} (h : IsNext d e) : d.next = e := by
  cases h with
  | day hyear hmonth hday =>
    have hsome : ofParts? d.year d.month (d.day + 1) = some e :=
      ofParts?_eq_some_iff.mpr ⟨hyear, hmonth, hday⟩
    rw [next, hsome]
    rfl
  | month hfull hyear hmonth hday =>
    have hover : ofParts? d.year d.month (d.day + 1) = none := ofParts?_eq_none_of_day (by omega)
    have hsome : ofParts? d.year (d.month + 1) 1 = some e :=
      ofParts?_eq_some_iff.mpr ⟨hyear, hmonth, hday⟩
    rw [next, hover, hsome]
    rfl
  | year hfull hlast hyear hmonth hday =>
    have hover : ofParts? d.year d.month (d.day + 1) = none := ofParts?_eq_none_of_day (by omega)
    have hdecember : ofParts? d.year (d.month + 1) 1 = none := ofParts?_eq_none_of_month (by omega)
    have hsome : ofParts? (d.year + 1) 1 1 = some e :=
      ofParts?_eq_some_iff.mpr ⟨hyear, hmonth, hday⟩
    rw [next, hover, hdecember, hsome]
    rfl

/-- The last date has no next one, and stays. -/
theorem next_last : last.next = last := by decide

/-- A step in the calendar counts one day, up to the last date. -/
theorem dayNumber_next (d : Date) : d.next.dayNumber = min (d.dayNumber + 1) last.dayNumber := by
  have hle := d.dayNumber_le_last
  by_cases hlast : d.dayNumber < last.dayNumber
  · obtain ⟨e, he⟩ := exists_isNext hlast
    rw [he.next_eq, he.dayNumber_eq]
    omega
  · have hsame : d = last := dayNumber_injective (by omega)
    rw [hsame, next_last]
    omega

/-- Going on day by day adds the days to the number of the date, up to the last one. -/
theorem dayNumber_iterate_next (d : Date) (days : Nat) :
    (next^[days] d).dayNumber = min (d.dayNumber + days) last.dayNumber := by
  have hle := d.dayNumber_le_last
  induction days with
  | zero =>
    rw [Function.iterate_zero_apply]
    omega
  | succ days ih =>
    rw [Function.iterate_succ_apply', dayNumber_next, ih]
    omega

/-- Adding days is going on by as many days. -/
theorem addDays_eq_iterate_next (d : Date) (days : Nat) : d.addDays days = next^[days] d := by
  apply dayNumber_injective
  rw [dayNumber_addDays, dayNumber_iterate_next]

/-! ## Earlier and later -/

/-- Adding days leads to no earlier date. -/
theorem le_addDays (d : Date) (days : Nat) : d ≤ d.addDays days := by
  have hle := d.dayNumber_le_last
  rw [le_iff_dayNumber_le, dayNumber_addDays]
  omega

/-- A later date and more days lead to no earlier date. -/
theorem addDays_le_addDays {a b : Date} {days more : Nat} (h : a ≤ b) (hdays : days ≤ more) :
    a.addDays days ≤ b.addDays more := by
  rw [le_iff_dayNumber_le] at h
  rw [le_iff_dayNumber_le, dayNumber_addDays, dayNumber_addDays]
  omega

end Calendar.Date

/-! ## Markers -/

namespace Marker

variable {m : Marker} {days : Nat}

/-- An expiry date that the marker gives holds, whatever the default is. -/
theorem expiry_of_some {d : Date} (h : m.expireDate = some d) : m.expiry days = d := by
  rw [expiry, h, Option.getD_some]

/-- Without an expiry date the default number of days is added. -/
theorem expiry_of_none (h : m.expireDate = none) : m.expiry days = m.warnDate.addDays days := by
  rw [expiry, h, Option.getD_none]

/-- A later warn date or more days do not make a marker expire earlier. -/
theorem expiry_le_expiry {later : Marker} {more : Nat} (hsame : m.expireDate = later.expireDate)
    (hwarn : m.warnDate ≤ later.warnDate) (hdays : days ≤ more) : m.expiry days ≤ later.expiry more := by
  cases hexpire : m.expireDate with
  | some d =>
    rw [expiry_of_some hexpire, expiry_of_some (hsame ▸ hexpire)]
    exact Int.le_refl _
  | none =>
    rw [expiry_of_none hexpire, expiry_of_none (hsame ▸ hexpire)]
    exact Date.addDays_le_addDays hwarn hdays

/-- A marker expires after the expire date of its own, or else after the date that is so many steps of the
calendar behind its warn date, where the last date is not passed. This is a date of the calendar, by default
it does not lie before the warn date, and it is the later, the more days there are and the later the warn
date is. -/
theorem expiry_eq_iterate_next (m : Marker) (days : Nat) :
    m.expiry days = m.expireDate.getD (Date.next^[days] m.warnDate) ∧
    Date.last.next = Date.last ∧
    IsDate (m.expiry days).year (m.expiry days).month (m.expiry days).day ∧
    (m.expireDate = none → m.warnDate ≤ m.expiry days) ∧
    (∀ more, days ≤ more → m.expiry days ≤ m.expiry more) ∧
    ∀ warnDate, m.warnDate ≤ warnDate → m.expiry days ≤ { m with warnDate }.expiry days := by
  refine ⟨?_, Date.next_last, (m.expiry days).isDate, ?_, ?_, ?_⟩
  · rw [expiry, Date.addDays_eq_iterate_next]
  · intro hdefault
    rw [expiry_of_none hdefault]
    exact m.warnDate.le_addDays days
  · intro more hmore
    exact expiry_le_expiry rfl (Int.le_refl _) hmore
  · intro warnDate hwarn
    exact expiry_le_expiry rfl hwarn (Nat.le_refl _)

/-- A leap day is stepped over, the end of a year is crossed, and the last date is not passed. -/
theorem expiry_eq_iterate_next_leap :
    let m : Marker := ⟨.todo, none, ⟨2024, 2, 28, by decide⟩, none, ""⟩
    let late : Marker := { m with warnDate := ⟨262142, 12, 30, by decide⟩ }
    m.expiry 2 = ⟨2024, 3, 1, by decide⟩ ∧
    m.expireDate = none ∧ m.warnDate ≤ m.expiry 2 ∧
    m.warnDate ≤ late.warnDate ∧ m.expiry 2 ≤ late.expiry 2 ∧
    late.expiry 2 = Date.last := by
  intro m late
  obtain ⟨heq, -, -, hwarn, -, hlater⟩ := expiry_eq_iterate_next m 2
  have hlate : m.warnDate ≤ late.warnDate := by decide
  obtain ⟨heq', -⟩ := expiry_eq_iterate_next late 2
  refine ⟨heq.trans (by decide), rfl, hwarn rfl, hlate, hlater _ hlate, heq'.trans (by decide)⟩

end Marker

end Overdue
