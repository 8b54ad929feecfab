/-
Calendar dates.

A date is a year, a month and a day of the Gregorian calendar, carried on before its introduction and
with a year zero. Years are bounded on both sides, so there is a first and a last date. Every date has
a day number, counted from the day before the first of January of the year 1; order, distance and
addition of days are those of day numbers.
-/

set_option autoImplicit false

namespace Overdue.Calendar

/-! ## Years and months -/

/-- Whether a year has a 29th of February. -/
def isLeap (year : Int) : Bool :=
  year % 4 == 0 && (year % 100 != 0 || year % 400 == 0)

/-- The number of days in a year. -/
def daysInYear (year : Int) : Nat := if isLeap year then 366 else 365

/-- The number of days in a month, which is zero if there is no such month. -/
def daysInMonth (year : Int) (month : Nat) : Nat :=
  match month with
  | 1 | 3 | 5 | 7 | 8 | 10 | 12 => 31
  | 4 | 6 | 9 | 11 => 30
  | 2 => if isLeap year then 29 else 28
  | _ => 0

/-- The number of days in a year before the first day of a month. -/
def daysBeforeMonth (year : Int) : Nat → Nat
  | 0 | 1 => 0
  | month + 2 => daysBeforeMonth year (month + 1) + daysInMonth year (month + 1)

/-- The day number of the day before the first of January of a year. -/
def daysBeforeYear (year : Int) : Int :=
  let past := year - 1
  365 * past + past / 4 - past / 100 + past / 400

/-- The year that a day number falls in. An estimate from the mean length of a year is off by one at
most. -/
def yearOfDay (n : Int) : Int :=
  let guess := (n * 400) / 146097 + 1
  if n ≤ daysBeforeYear guess then guess - 1
  else if daysBeforeYear (guess + 1) < n then guess + 1
  else guess

/-! ## Dates -/

/-- The first year that has dates. -/
def firstYear : Int := -262143

/-- The last year that has dates. -/
def lastYear : Int := 262142

/-- Whether a year, a month and a day are those of a date. -/
def IsDate (year : Int) (month day : Nat) : Prop :=
  firstYear ≤ year ∧ year ≤ lastYear ∧ 1 ≤ month ∧ month ≤ 12 ∧ 1 ≤ day ∧
    day ≤ daysInMonth year month

instance (year : Int) (month day : Nat) : Decidable (IsDate year month day) := by
  unfold IsDate; infer_instance

/-- A calendar date. -/
structure Date where
  year : Int
  month : Nat
  day : Nat
  isDate : IsDate year month day
deriving DecidableEq

/-- The days of the week. -/
inductive Weekday where
  | monday | tuesday | wednesday | thursday | friday | saturday | sunday
deriving DecidableEq, Inhabited, Repr

namespace Weekday

/-- The number of days since Monday. -/
def index : Weekday → Nat
  | monday => 0
  | tuesday => 1
  | wednesday => 2
  | thursday => 3
  | friday => 4
  | saturday => 5
  | sunday => 6

/-- The day of the week so many days after a Monday. -/
def ofIndex (n : Nat) : Weekday :=
  match n % 7 with
  | 0 => monday
  | 1 => tuesday
  | 2 => wednesday
  | 3 => thursday
  | 4 => friday
  | 5 => saturday
  | _ => sunday

/-- The number of days since the last time it was the day `start`. -/
def daysSince (day start : Weekday) : Nat := (day.index + 7 - start.index) % 7

/-- The day of the week of a day number. -/
def ofDayNumber (n : Int) : Weekday := ofIndex ((n - 1) % 7).toNat

end Weekday

namespace Date

/-- The date with a given year, month and day, if there is one. -/
def ofParts? (year : Int) (month day : Nat) : Option Date :=
  if h : IsDate year month day then some ⟨year, month, day, h⟩ else none

/-- The last date. -/
def last : Date := ⟨lastYear, 12, 31, by decide⟩

instance : Inhabited Date := ⟨last⟩

/-- The number of a date within its year, from 1 on. -/
def ordinal (d : Date) : Nat := daysBeforeMonth d.year d.month + d.day

/-- The number of a date within all dates. -/
def dayNumber (d : Date) : Int := daysBeforeYear d.year + d.ordinal

/-- The month that the day `ordinal` of a year falls in, looking from `month` on. -/
def monthOfOrdinal (year : Int) (ordinal : Nat) : Nat → Nat → Nat
  | 0, month => month
  | fuel + 1, month =>
    if ordinal ≤ daysBeforeMonth year (month + 1) then month
    else monthOfOrdinal year ordinal fuel (month + 1)

/-- The date that is the day `ordinal` of a year, if there is one. -/
def ofOrdinal? (year : Int) (ordinal : Nat) : Option Date :=
  let month := monthOfOrdinal year ordinal 11 1
  ofParts? year month (ordinal - daysBeforeMonth year month)

/-- The date with a given day number, if there is one. -/
def ofDayNumber? (n : Int) : Option Date :=
  let year := yearOfDay n
  ofOrdinal? year (n - daysBeforeYear year).toNat

/-- The date a number of days later, or the last date if that lies beyond it. -/
def addDays (d : Date) (days : Nat) : Date :=
  (ofDayNumber? (d.dayNumber + days)).getD last

/-! ## Order -/

instance : LT Date := ⟨fun a b => a.dayNumber < b.dayNumber⟩

instance : LE Date := ⟨fun a b => a.dayNumber ≤ b.dayNumber⟩

instance (a b : Date) : Decidable (a < b) := inferInstanceAs (Decidable (a.dayNumber < b.dayNumber))

instance (a b : Date) : Decidable (a ≤ b) := inferInstanceAs (Decidable (a.dayNumber ≤ b.dayNumber))

/-! ## Weeks and quarters -/

/-- The day of the week of a date. -/
def weekday (d : Date) : Weekday := Weekday.ofDayNumber d.dayNumber

/-- The quarter of the year of a date, from 1 on. -/
def quarter (d : Date) : Nat := (d.month - 1) / 3 + 1

/-- The week of the year of a date, where week 1 begins on the first day `start` of the year and the
days before it are in week 0. -/
def weekFrom (start : Weekday) (d : Date) : Nat :=
  (d.ordinal + 6 - d.weekday.daysSince start) / 7

end Date

/-! ## Week years

A week belongs to the year that its Thursday lies in, and the weeks of a year are numbered from 1.
The year of the week can differ from the year of the date, also beyond the years that have dates. -/

/-- A year and a week in it. -/
structure YearWeek where
  year : Int
  week : Nat
deriving DecidableEq, Repr

/-- The week that a day number falls in. -/
def YearWeek.ofDayNumber (n : Int) : YearWeek :=
  let thursday := n + 3 - (Weekday.ofDayNumber n).index
  let year := yearOfDay thursday
  ⟨year, (thursday - daysBeforeYear year - 1).toNat / 7 + 1⟩

/-- The week of a date. -/
def Date.yearWeek (d : Date) : YearWeek := YearWeek.ofDayNumber d.dayNumber

/-- The date on a day of a week, if the year has that week and there is such a date. -/
def Date.ofYearWeek? (w : YearWeek) (weekday : Weekday) : Option Date :=
  let fourth := daysBeforeYear w.year + 4
  let firstMonday := fourth - (Weekday.ofDayNumber fourth).index
  let n := firstMonday + 7 * ((w.week : Int) - 1) + weekday.index
  if YearWeek.ofDayNumber n = w then ofDayNumber? n else none

/-- The date on a day of a week numbered as in `Date.weekFrom`, if there is one. -/
def Date.ofWeekFrom? (start : Weekday) (year : Int) (week : Nat) (weekday : Weekday) :
    Option Date :=
  let first := Weekday.ofDayNumber (daysBeforeYear year + 1)
  let ordinal : Int := 1 + start.daysSince first + ((week : Int) - 1) * 7 + weekday.daysSince start
  if 1 ≤ ordinal then ofOrdinal? year ordinal.toNat else none

end Overdue.Calendar
