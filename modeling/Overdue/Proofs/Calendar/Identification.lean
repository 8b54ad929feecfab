/-
Which fields of a date identify it.

A text is read field by field, and the date is looked for only when all fields are known. So what a
reading finds depends on two things: which fields are known, and that their values are those of a date. A
reading of the second kind is written `Reading.of known d` here. This file says exactly when such a reading
gives back the date: its fields must tell the year and the day in it, or the week and the weekday
(`date_of_eq_ok_iff`). Which of these they do is a matter of the fields alone and not of the date, so a
pattern that identifies one date identifies all of them, with one exception. The last two digits of a year
stand for a year from 1970 to 2069, and the days at the end of 2069 belong to a week of 2070.

A reading that was led astray does not come back: a number that is not the date's is kept to the end, and then
the date does not agree with it (`Agreement.of_set`).
-/
import Mathlib.Tactic.Tauto
import Overdue.Proofs.Calendar.Week

set_option autoImplicit false

namespace Overdue.Calendar

/-! ## Recent dates and their numbers -/

/-- A date whose year is told by its last two digits. -/
def Date.IsRecent (d : Date) : Prop := 1970 ≤ d.year ∧ d.year ≤ 2069

instance (d : Date) : Decidable d.IsRecent := inferInstanceAs (Decidable (_ ∧ _))

/-- The year of the week of a recent date lies within the years that two digits can mean, or one after them. -/
theorem Date.IsRecent.weekYear {d : Date} (h : d.IsRecent) :
    1970 ≤ d.yearWeek.year ∧ d.yearWeek.year ≤ 2070 := by
  have := d.year_yearWeek_le
  exact ⟨Date.le_year_yearWeek h.1, by have := h.2; omega⟩

/-- The number of a field of a date. -/
def Field.numberOf (f : Field) (d : Date) : Nat :=
  match f with
  | year => d.year.toNat
  | century => centuryOf d.year
  | yearOfCentury => yearOfCenturyOf d.year
  | weekYear => d.yearWeek.year.toNat
  | weekYearOfCentury => yearOfCenturyOf d.yearWeek.year
  | quarter => d.quarter
  | month => d.month
  | day => d.day
  | weekFromSunday => d.weekFrom .sunday
  | weekFromMonday => d.weekFrom .monday
  | week => d.yearWeek.week
  | daysFromSunday => d.weekday.daysSince .sunday
  | dayOfWeek => d.weekday.index + 1
  | ordinal => d.ordinal

/-- The number of a field of a recent date has no more digits than the field is wide. -/
theorem Field.numberOf_lt {d : Date} (h : d.IsRecent) (f : Field) :
    f.numberOf d < Nat.pow 10 f.width := by
  obtain ⟨hyear, hyear'⟩ := h
  obtain ⟨hweek, hweek'⟩ := Date.IsRecent.weekYear ⟨hyear, hyear'⟩
  have hmonth := d.month_le
  have hday := d.day_le
  have hordinal := d.ordinal_le
  have hlong := daysInYear_le d.year
  have hsunday := d.weekFrom_le .sunday
  have hmonday := d.weekFrom_le .monday
  have hw := d.week_le
  have hindex := d.weekday.index_lt
  cases f <;>
    simp only [numberOf, width, centuryOf, yearOfCenturyOf, Date.quarter, Weekday.daysSince, Nat.pow_eq] <;>
    omega

/-! ## Known fields -/

/-- The field that an item tells. The day of the week is one field, however it is written. -/
def Item.field? : Item → Option Field
  | literal _ | space _ => none
  | number .daysFromSunday _ | name .weekday _ => some .dayOfWeek
  | name .month _ => some .month
  | number f _ => some f

/-- The value of a field of a date, if the field is one of those that are known. -/
def told {α : Type} (known : List Field) (f : Field) (value : α) : Option α :=
  if f ∈ known then some value else none

/-- What is read of a date when some of its fields are known. -/
def Reading.of (known : List Field) (d : Date) : Reading where
  year := told known .year d.year
  century := told known .century (d.year / 100)
  yearOfCentury := told known .yearOfCentury (d.year % 100)
  weekYear := told known .weekYear d.yearWeek.year
  weekYearOfCentury := told known .weekYearOfCentury (d.yearWeek.year % 100)
  quarter := told known .quarter d.quarter
  month := told known .month d.month
  day := told known .day d.day
  weekFromSunday := told known .weekFromSunday (d.weekFrom .sunday)
  weekFromMonday := told known .weekFromMonday (d.weekFrom .monday)
  week := told known .week d.yearWeek.week
  weekday := told known .dayOfWeek d.weekday
  ordinal := told known .ordinal d.ordinal

section Told

variable {α : Type} {known : List Field} {f g : Field} {value v : α}

theorem told_of_mem (h : f ∈ known) : told known f value = some value := if_pos h

theorem told_of_not_mem (h : f ∉ known) : told known f value = none := if_neg h

theorem told_cons_self : told (f :: known) f value = some value := told_of_mem List.mem_cons_self

theorem told_cons_of_ne (h : g ≠ f) : told (f :: known) g value = told known g value := by
  simp [told, h]

/-- Only what is known is told, and it is told as it is. -/
theorem told_eq_some_iff : told known f value = some v ↔ f ∈ known ∧ v = value := by
  by_cases h : f ∈ known
  · simp [told_of_mem h, h, eq_comm]
  · simp [told_of_not_mem h, h]

/-- What is told of a value agrees with it. -/
theorem agreed_told [DecidableEq α] : agreed (told known f value) value = .ok value := by
  by_cases h : f ∈ known
  · rw [told_of_mem h]
    exact if_pos rfl
  · rw [told_of_not_mem h]
    rfl

/-- What is told of a value fits it. -/
theorem fits_told [DecidableEq α] : fits (told known f value) value = true := by
  by_cases h : f ∈ known
  · rw [told_of_mem h]
    exact decide_eq_true rfl
  · rw [told_of_not_mem h]
    rfl

end Told

/-! ## Adding the fields of a date -/

theorem ok_bind {α β : Type} (a : α) (f : α → Except Misreading β) :
    (Except.ok a >>= f) = f a := rfl

/-- The month of a date can be noted beside what is known of it. -/
theorem Reading.setMonth_of (known : List Field) (d : Date) :
    (Reading.of known d).setMonth d.month = .ok (Reading.of (.month :: known) d) := by
  have h : agreed (Reading.of known d).month d.month = .ok d.month := agreed_told
  rw [Reading.setMonth, h, ok_bind]
  simp [Reading.of, told_cons_self, told_cons_of_ne, pure, Except.pure]

theorem Reading.setWeekday_of (known : List Field) (d : Date) :
    (Reading.of known d).setWeekday d.weekday = .ok (Reading.of (.dayOfWeek :: known) d) := by
  have h : agreed (Reading.of known d).weekday d.weekday = .ok d.weekday := agreed_told
  rw [Reading.setWeekday, h, ok_bind]
  simp [Reading.of, told_cons_self, told_cons_of_ne, pure, Except.pure]

/-- A day of the week is found again by its days since Sunday. -/
theorem ofIndex_daysSince_sunday (w : Weekday) : Weekday.ofIndex (w.daysSince .sunday + 6) = w := by
  cases w <;> rfl

theorem ofIndex_index_add_seven (w : Weekday) : Weekday.ofIndex (w.index + 1 + 6) = w := by
  cases w <;> rfl

/-- A field of the date is added to those that are known. -/
theorem Reading.set_of {d : Date} (h : d.IsRecent) (known : List Field) (f : Field)
    (padding : Padding) :
    (Reading.of known d).set f (f.numberOf d) =
      .ok (Reading.of ((Item.number f padding).field?.toList ++ known) d) := by
  obtain ⟨hweek, hweek'⟩ := h.weekYear
  obtain ⟨hyear, hyear'⟩ := h
  have hyears : yearWithin d.year.toNat = .ok d.year := by
    rw [Int.toNat_of_nonneg (by omega), yearWithin_ok d.isDate.1 d.isDate.2.1]
  have hweekYears : yearWithin d.yearWeek.year.toNat = .ok d.yearWeek.year := by
    rw [Int.toNat_of_nonneg (by omega),
      yearWithin_ok (by rw [firstYear]; omega) (by rw [lastYear]; omega)]
  have hcentury : (centuryOf d.year : Int) = d.year / 100 := by
    rw [centuryOf]
    omega
  have hof : (yearOfCenturyOf d.year : Int) = d.year % 100 := by
    rw [yearOfCenturyOf]
    omega
  have hof' : (yearOfCenturyOf d.yearWeek.year : Int) = d.yearWeek.year % 100 := by
    rw [yearOfCenturyOf]
    omega
  have hmonth : within 1 12 d.month = .ok d.month := within_ok d.isDate.2.2.1 d.month_le
  have hday : within 1 31 d.day = .ok d.day := within_ok d.isDate.2.2.2.2.1 d.day_le
  have hquarter : within 1 4 d.quarter = .ok d.quarter := by
    have := d.month_le
    refine within_ok ?_ ?_ <;> rw [Date.quarter] <;> omega
  have hsunday : within 0 53 (d.weekFrom .sunday) = .ok (d.weekFrom .sunday) :=
    within_ok (Nat.zero_le _) (d.weekFrom_le .sunday)
  have hmonday : within 0 53 (d.weekFrom .monday) = .ok (d.weekFrom .monday) :=
    within_ok (Nat.zero_le _) (d.weekFrom_le .monday)
  have hnumber : within 1 53 d.yearWeek.week = .ok d.yearWeek.week :=
    within_ok d.one_le_week d.week_le
  have hordinal : within 1 366 d.ordinal = .ok d.ordinal :=
    within_ok d.one_le_ordinal (d.ordinal_le.trans (daysInYear_le _))
  have hindex : within 1 7 ((d.weekday.index + 1 : Nat) : Int) = .ok (d.weekday.index + 1) :=
    within_ok (Nat.le_add_left ..) d.weekday.index_lt
  have hsince : within 0 6 (d.weekday.daysSince .sunday) = .ok (d.weekday.daysSince .sunday) :=
    within_ok (Nat.zero_le _) (Nat.le_of_lt_succ (Nat.mod_lt _ (by decide)))
  cases f with
  | month =>
    change (within 1 12 d.month >>= _) = _
    rw [hmonth, ok_bind]
    exact setMonth_of known d
  | daysFromSunday =>
    change (within 0 6 (d.weekday.daysSince .sunday) >>= _) = _
    rw [hsince, ok_bind, ofIndex_daysSince_sunday]
    exact setWeekday_of known d
  | dayOfWeek =>
    change (within 1 7 ((d.weekday.index + 1 : Nat) : Int) >>= _) = _
    rw [hindex, ok_bind, ofIndex_index_add_seven]
    exact setWeekday_of known d
  | _ =>
    -- the number is one that the field can have, and it is the one that is known, if one is
    simp only [Reading.set, Field.numberOf, Reading.of, Item.field?, hyears, hweekYears, hcentury, hof,
      hof', hday, hquarter, hsunday, hmonday, hnumber, hordinal, ok_bind, agreed_told]
    simp [told_cons_self, told_cons_of_ne, pure, Except.pure]

/-- A name of a date can be noted beside what is known of it. -/
theorem Reading.setName_of (known : List Field) (d : Date) (f : NameField) (inFull : Bool) :
    (Reading.of known d).setName f (f.indexOf d) =
      .ok (Reading.of ((Item.name f inFull).field?.toList ++ known) d) := by
  cases f with
  | month =>
    have hmonth : d.month - 1 + 1 = d.month := Nat.sub_add_cancel d.isDate.2.2.1
    change (Reading.of known d).setMonth (d.month - 1 + 1) = _
    rw [hmonth]
    exact setMonth_of known d
  | weekday =>
    change (Reading.of known d).setWeekday (Weekday.ofIndex d.weekday.index) = _
    rw [Weekday.ofIndex_index]
    exact setWeekday_of known d

/-! ## The year -/

/-- The known fields tell the year. -/
def TellsYear (known : List Field) : Prop := .year ∈ known ∨ .yearOfCentury ∈ known

section Identification

variable {known : List Field} {d : Date}

/-- A year that is told goes with its hundreds and its last two digits. -/
theorem fullYear_some {year : Int} (h : 0 ≤ year) {century ofCentury : Option Int}
    (hcentury : ∀ v, century = some v → v = year / 100)
    (hof : ∀ v, ofCentury = some v → v = year % 100) :
    fullYear (some year) century ofCentury = .ok (some year) := by
  cases century with
  | none =>
    cases ofCentury with
    | none => rfl
    | some r => exact if_pos ⟨h, rfl, hof r rfl⟩
  | some q =>
    cases ofCentury with
    | none => exact if_pos ⟨h, hcentury q rfl, rfl⟩
    | some r => exact if_pos ⟨h, hcentury q rfl, hof r rfl⟩

/-- Two digits tell a recent year, with its hundreds or without. -/
theorem fullYear_ofCentury {year : Int} (h : 1970 ≤ year ∧ year ≤ 2069) {century : Option Int}
    (hcentury : ∀ v, century = some v → v = year / 100) :
    fullYear none century (some (year % 100)) = .ok (some year) := by
  cases century with
  | none =>
    change Except.ok (some (year % 100 + if year % 100 < 70 then 2000 else 1900)) = _
    congr 2
    split <;> omega
  | some q =>
    rw [hcentury q rfl]
    change Except.ok (some (year / 100 * 100 + year % 100)) = _
    congr 2
    omega

/-- The year of a recent date can be told from the year, or from its last two digits. -/
theorem fullYear_of_tellsYear (h : d.IsRecent) (hknown : TellsYear known) :
    fullYear (Reading.of known d).year (Reading.of known d).century (Reading.of known d).yearOfCentury =
      .ok (some d.year) := by
  simp only [Reading.of]
  have hcentury : ∀ v, told known .century (d.year / 100) = some v → v = d.year / 100 :=
    fun v hv => (told_eq_some_iff.mp hv).2
  have hof : ∀ v, told known .yearOfCentury (d.year % 100) = some v → v = d.year % 100 :=
    fun v hv => (told_eq_some_iff.mp hv).2
  by_cases hyear : .year ∈ known
  · rw [told_of_mem hyear]
    exact fullYear_some (by have := h.1; omega) hcentury hof
  · rw [told_of_not_mem hyear, told_of_mem (hknown.resolve_left hyear)]
    exact fullYear_ofCentury h hcentury

/-- A century alone is not enough for a year, and without a century nothing is said of it. -/
theorem fullYear_of_not_tellsYear (hknown : ¬ TellsYear known) :
    fullYear (Reading.of known d).year (Reading.of known d).century (Reading.of known d).yearOfCentury =
      if .century ∈ known then .error .insufficient else .ok none := by
  simp only [Reading.of]
  rw [told_of_not_mem (fun h => hknown (.inl h)), told_of_not_mem (fun h => hknown (.inr h)), told]
  split <;> rfl

/-- The year that is meant by its last two digits alone. -/
def meantYear (year : Int) : Int := year % 100 + if year % 100 < 70 then 2000 else 1900

/-- The year of the week, as far as it is told. -/
def toldWeekYear (known : List Field) (d : Date) : Option Int :=
  if .weekYear ∈ known then some d.yearWeek.year
  else told known .weekYearOfCentury (meantYear d.yearWeek.year)

/-- For the years of weeks there are no centuries, so their last two digits are always taken to be recent. -/
theorem fullYear_weekYear (h : d.IsRecent) :
    fullYear (Reading.of known d).weekYear none (Reading.of known d).weekYearOfCentury =
      .ok (toldWeekYear known d) := by
  simp only [Reading.of]
  unfold toldWeekYear
  split
  · rename_i hyear
    rw [told_of_mem hyear]
    exact fullYear_some (by have := h.weekYear; omega) nofun fun v hv => (told_eq_some_iff.mp hv).2
  · rename_i hyear
    rw [told_of_not_mem hyear]
    by_cases hof : .weekYearOfCentury ∈ known
    · rw [told_of_mem hof, told_of_mem hof]
      rfl
    · rw [told_of_not_mem hof, told_of_not_mem hof]
      rfl

/-- A week of the year 2070 begins in 2069, and its year is mistaken for 1970. -/
theorem meantYear_eq_iff (h : d.IsRecent) :
    meantYear d.yearWeek.year = d.yearWeek.year ↔ d.yearWeek.year ≤ 2069 := by
  obtain ⟨hlow, hhigh⟩ := h.weekYear
  rw [meantYear]
  split <;> omega

/-- The fields of a date agree with it. -/
theorem agrees_of (h : d.IsRecent) : (Reading.of known d).agrees d = true := by
  have hyear : 0 ≤ d.year := by
    have := h.1
    omega
  have hweek : 0 ≤ d.yearWeek.year := by
    have := h.weekYear.1
    omega
  simp [Reading.agrees, Reading.of, fitsPart, fits_told, hyear, hweek]

/-! ## The day in a year -/

/-- The known fields tell the day of a year that is told. -/
def TellsDayOfYear (known : List Field) : Prop :=
  (.month ∈ known ∧ .day ∈ known) ∨ .ordinal ∈ known ∨
    ((.weekFromSunday ∈ known ∨ .weekFromMonday ∈ known) ∧ .dayOfWeek ∈ known)

/-- A date is found by its year, its week from some day on, and its day of the week. -/
theorem dateOfWeekFrom_weekFrom (start : Weekday) (d : Date) :
    Reading.dateOfWeekFrom start d.year (d.weekFrom start) d.weekday = .ok d := by
  obtain ⟨e, he⟩ := Date.exists_ofOrdinal? d.isDate.1 d.isDate.2.1 (Nat.le_refl 1)
    (show 1 ≤ daysInYear d.year from d.one_le_ordinal.trans d.ordinal_le)
  rw [Reading.dateOfWeekFrom, he, Date.ofWeekFrom?_weekFrom]
  rfl

/-- The day of the year that is told is that of the date, by whichever fields it is told. -/
theorem dateOfYear_of {x : Except Misreading Date}
    (h : (Reading.of known d).dateOfYear d.year = some x) : x = .ok d := by
  unfold Reading.dateOfYear at h
  split at h
  · rename_i hmonth hday
    rw [(told_eq_some_iff.mp hmonth).2, (told_eq_some_iff.mp hday).2,
      Date.ofParts?_eq_some_iff.mpr ⟨rfl, rfl, rfl⟩] at h
    exact (Option.some.inj h).symm
  · rename_i hordinal _
    rw [(told_eq_some_iff.mp hordinal).2, Date.ofOrdinal?_eq_some_iff.mpr ⟨rfl, rfl⟩] at h
    exact (Option.some.inj h).symm
  · rename_i hweek hday _ _
    rw [(told_eq_some_iff.mp hweek).2, (told_eq_some_iff.mp hday).2, dateOfWeekFrom_weekFrom] at h
    exact (Option.some.inj h).symm
  · rename_i hweek hday _ _ _
    rw [(told_eq_some_iff.mp hweek).2, (told_eq_some_iff.mp hday).2, dateOfWeekFrom_weekFrom] at h
    exact (Option.some.inj h).symm
  · cases h

/-- A date can be found within its year if and only if what is known tells the day of the year. -/
theorem isSome_dateOfYear_iff (known : List Field) (d : Date) :
    ((Reading.of known d).dateOfYear d.year).isSome ↔ TellsDayOfYear known := by
  unfold Reading.dateOfYear
  split
  · rename_i hmonth hday
    exact iff_of_true rfl (.inl ⟨(told_eq_some_iff.mp hmonth).1, (told_eq_some_iff.mp hday).1⟩)
  · rename_i hordinal _
    exact iff_of_true rfl (.inr (.inl (told_eq_some_iff.mp hordinal).1))
  · rename_i hweek hday _ _
    exact iff_of_true rfl (.inr (.inr ⟨.inl (told_eq_some_iff.mp hweek).1, (told_eq_some_iff.mp hday).1⟩))
  · rename_i hweek hday _ _ _
    exact iff_of_true rfl (.inr (.inr ⟨.inr (told_eq_some_iff.mp hweek).1, (told_eq_some_iff.mp hday).1⟩))
  · rename_i h₁ h₂ h₃ h₄
    refine iff_of_false Bool.false_ne_true ?_
    rintro (⟨hmonth, hday⟩ | hordinal | ⟨hsunday | hmonday, hday⟩)
    · exact h₁ _ _ (told_of_mem hmonth) (told_of_mem hday)
    · exact h₂ _ (told_of_mem hordinal)
    · exact h₃ _ _ (told_of_mem hsunday) (told_of_mem hday)
    · exact h₄ _ _ (told_of_mem hmonday) (told_of_mem hday)

/-! ## The week and the weekday -/

/-- The known fields tell a day by its week. -/
def TellsWeek (known : List Field) : Prop :=
  (.weekYear ∈ known ∨ .weekYearOfCentury ∈ known) ∧ .week ∈ known ∧ .dayOfWeek ∈ known

/-- The week and the weekday of a date identify it in no year of weeks but its own. -/
theorem existing_ofYearWeek?_eq_ok_iff {year : Int} :
    existing (Date.ofYearWeek? ⟨year, d.yearWeek.week⟩ d.weekday) = .ok d ↔ year = d.yearWeek.year := by
  constructor
  · intro h
    cases hdate : Date.ofYearWeek? ⟨year, d.yearWeek.week⟩ d.weekday with
    | none =>
      rw [hdate] at h
      cases h
    | some e =>
      rw [hdate] at h
      cases h
      rw [Date.yearWeek_of_ofYearWeek? hdate]
  · rintro rfl
    rw [Date.ofYearWeek?_yearWeek]
    rfl

/-- The year of the week is told by itself or by its last two digits, but these never mean the year 2070. -/
theorem toldWeekYear_eq_some_iff (h : d.IsRecent) :
    toldWeekYear known d = some d.yearWeek.year ↔
      .weekYear ∈ known ∨ .weekYearOfCentury ∈ known ∧ d.yearWeek.year ≤ 2069 := by
  unfold toldWeekYear
  split
  · rename_i hyear
    simp [hyear]
  · rename_i hyear
    rw [told_eq_some_iff, eq_comm, meantYear_eq_iff h]
    simp [hyear]

/-- By its week a date is identified exactly if the week, the weekday and the right year are told. -/
theorem dateOfWeek_of_eq_ok_iff {weekYear : Option Int} :
    (Reading.of known d).dateOfWeek weekYear = .ok d ↔
      weekYear = some d.yearWeek.year ∧ .week ∈ known ∧ .dayOfWeek ∈ known := by
  unfold Reading.dateOfWeek
  split
  · rename_i hweek hday
    obtain ⟨hweek, hweek'⟩ := told_eq_some_iff.mp hweek
    obtain ⟨hday, hday'⟩ := told_eq_some_iff.mp hday
    rw [hweek', hday', existing_ofYearWeek?_eq_ok_iff, Option.some.injEq]
    exact ⟨fun h => ⟨h, hweek, hday⟩, And.left⟩
  · rename_i hmissing
    refine iff_of_false nofun ?_
    rintro ⟨rfl, hweek, hday⟩
    exact hmissing _ _ _ rfl (told_of_mem hweek) (told_of_mem hday)

/-! ## The date -/

/-- A date that agrees with what was read passes the last check. -/
theorem checked_eq_ok_iff {r : Reading} (h : r.agrees d = true) {x : Except Misreading Date} :
    (x >>= fun e => if r.agrees e = true then pure e else throw .contradictory) = .ok d ↔ x = .ok d := by
  cases x with
  | error e => exact iff_of_false nofun nofun
  | ok e =>
    rw [ok_bind]
    split
    · exact Iff.rfl
    · rename_i hnot
      refine iff_of_false nofun ?_
      rintro ⟨⟩
      exact hnot h

/-- Known fields identify the date that they are the fields of exactly if they tell its year and the day
in it, or else its week and weekday, where two digits may be mistaken for the year of the week before. -/
theorem date_of_eq_ok_iff (h : d.IsRecent) :
    (Reading.of known d).date = .ok d ↔
      (TellsYear known ∧ TellsDayOfYear known) ∨
      (TellsWeek known ∧ (.century ∈ known → TellsYear known) ∧
        (.weekYear ∈ known ∨ d.yearWeek.year ≤ 2069)) := by
  have hbyWeek : (Reading.of known d).dateOfWeek (toldWeekYear known d) = .ok d ↔
      TellsWeek known ∧ (.weekYear ∈ known ∨ d.yearWeek.year ≤ 2069) := by
    rw [dateOfWeek_of_eq_ok_iff, toldWeekYear_eq_some_iff h, TellsWeek]
    tauto
  rw [Reading.date]
  -- the year and the day of the year come first; only without a day is the week looked at
  by_cases hyear : TellsYear known
  · rw [fullYear_of_tellsYear h hyear, fullYear_weekYear h, ok_bind, ok_bind, Option.bind_some,
      checked_eq_ok_iff (agrees_of h)]
    by_cases hday : TellsDayOfYear known
    · obtain ⟨x, hx⟩ := Option.isSome_iff_exists.mp ((isSome_dateOfYear_iff known d).mpr hday)
      rw [hx, dateOfYear_of hx]
      exact iff_of_true rfl (.inl ⟨hyear, hday⟩)
    · have hnone := mt (isSome_dateOfYear_iff known d).mp hday
      rw [Option.not_isSome_iff_eq_none.mp hnone, Option.getD_none, hbyWeek]
      simp [hyear, hday]
  · -- without a year the hundreds of one are of no use
    rw [fullYear_of_not_tellsYear hyear]
    split
    · rename_i hcentury
      exact iff_of_false nofun (by simp [hyear, hcentury])
    · rename_i hcentury
      rw [fullYear_weekYear h, ok_bind, ok_bind, Option.bind_none, Option.getD_none,
        checked_eq_ok_iff (agrees_of h), hbyWeek]
      simp [hyear, hcentury]

end Identification

/-! ## Readings that were led astray -/

theorem bind_eq_ok_iff {α β : Type} {x : Except Misreading α} {f : α → Except Misreading β} {b : β} :
    (x >>= f) = .ok b ↔ ∃ a, x = .ok a ∧ f a = .ok b := by
  cases x with
  | error e => exact ⟨nofun, fun ⟨_, h, _⟩ => nomatch h⟩
  | ok a => exact ⟨fun h => ⟨a, rfl, h⟩, fun ⟨_, h, h'⟩ => Except.ok.inj h ▸ h'⟩

/-- A value is agreed on if nothing else is known. -/
theorem agreed_eq_ok_iff {α : Type} [DecidableEq α] {known : Option α} {value v : α} :
    agreed known value = .ok v ↔ v = value ∧ (known = none ∨ known = some v) := by
  cases known with
  | none => simp [agreed, eq_comm]
  | some other =>
    rw [agreed]
    split
    · rename_i h
      simp [h, eq_comm]
    · rename_i h
      refine iff_of_false nofun ?_
      rintro ⟨rfl, h' | h'⟩
      · cases h'
      · exact h (Option.some.inj h')

/-- A number within bounds is kept as it is. -/
theorem eq_of_within {low high n : Nat} {v : Int} (h : within low high v = .ok n) :
    v = n ∧ low ≤ n ∧ n ≤ high := by
  unfold within at h
  split at h
  · cases h
    omega
  · cases h

theorem eq_of_yearWithin {v w : Int} (h : yearWithin v = .ok w) : w = v := by
  unfold yearWithin at h
  split at h
  · cases h
    rfl
  · cases h

theorem eq_of_fits {α : Type} [DecidableEq α] {v value : α} (h : fits (some v) value = true) :
    v = value := of_decide_eq_true h

theorem eq_of_fitsPart {v year part : Int} (h : fitsPart (some v) year part = true) : v = part :=
  eq_of_fits (Bool.and_eq_true_iff.mp h).2

/-- What fits the value that was agreed on fits what was known before. -/
theorem fits_of_agreed {α : Type} [DecidableEq α] {known : Option α} {v value : α}
    (hknown : known = none ∨ known = some v) (h : fits (some v) value = true) :
    fits known value = true := by
  rcases hknown with rfl | rfl
  · rfl
  · exact h

theorem fitsPart_of_agreed {known : Option Int} {v year part : Int}
    (hknown : known = none ∨ known = some v) (h : fitsPart (some v) year part = true) :
    fitsPart known year part = true := by
  rcases hknown with rfl | rfl
  · rfl
  · exact h

/-- A date has all the fields that were read. -/
structure Agreement (r : Reading) (d : Date) : Prop where
  year : fits r.year d.year = true
  century : fitsPart r.century d.year (d.year / 100) = true
  yearOfCentury : fitsPart r.yearOfCentury d.year (d.year % 100) = true
  weekYear : fits r.weekYear d.yearWeek.year = true
  weekYearOfCentury : fitsPart r.weekYearOfCentury d.yearWeek.year (d.yearWeek.year % 100) = true
  quarter : fits r.quarter d.quarter = true
  month : fits r.month d.month = true
  day : fits r.day d.day = true
  weekFromSunday : fits r.weekFromSunday (d.weekFrom .sunday) = true
  weekFromMonday : fits r.weekFromMonday (d.weekFrom .monday) = true
  week : fits r.week d.yearWeek.week = true
  weekday : fits r.weekday d.weekday = true
  ordinal : fits r.ordinal d.ordinal = true

/-- The check of a date against a reading is that they agree. -/
theorem agrees_iff {r : Reading} {d : Date} : r.agrees d = true ↔ Agreement r d := by
  simp only [Reading.agrees, Bool.and_eq_true]
  constructor
  · rintro ⟨⟨⟨⟨⟨⟨⟨⟨⟨⟨⟨⟨h₁, h₂⟩, h₃⟩, h₄⟩, h₅⟩, h₆⟩, h₇⟩, h₈⟩, h₉⟩, h₁₀⟩, h₁₁⟩, h₁₂⟩, h₁₃⟩
    exact ⟨h₁, h₂, h₃, h₄, h₅, h₆, h₇, h₈, h₉, h₁₀, h₁₁, h₁₂, h₁₃⟩
  · rintro ⟨h₁, h₂, h₃, h₄, h₅, h₆, h₇, h₈, h₉, h₁₀, h₁₁, h₁₂, h₁₃⟩
    exact ⟨⟨⟨⟨⟨⟨⟨⟨⟨⟨⟨⟨h₁, h₂⟩, h₃⟩, h₄⟩, h₅⟩, h₆⟩, h₇⟩, h₈⟩, h₉⟩, h₁₀⟩, h₁₁⟩, h₁₂⟩, h₁₃⟩

/-- A date that agrees with what is noted with a month has that month, and agrees with what was noted before. -/
theorem Agreement.of_setMonth {r r' : Reading} {d : Date} {m : Nat} (hset : r.setMonth m = .ok r')
    (h : Agreement r' d) : Agreement r d ∧ m = d.month := by
  obtain ⟨v, hv, heq⟩ := bind_eq_ok_iff.mp hset
  obtain ⟨rfl, hknown⟩ := agreed_eq_ok_iff.mp hv
  cases heq
  exact ⟨{ h with month := fits_of_agreed hknown h.month }, eq_of_fits h.month⟩

/-- A date that agrees with what is noted with a day of the week has that day, and agrees with what was noted before.
-/
theorem Agreement.of_setWeekday {r r' : Reading} {d : Date} {w : Weekday}
    (hset : r.setWeekday w = .ok r') (h : Agreement r' d) : Agreement r d ∧ w = d.weekday := by
  obtain ⟨v, hv, heq⟩ := bind_eq_ok_iff.mp hset
  obtain ⟨rfl, hknown⟩ := agreed_eq_ok_iff.mp hv
  cases heq
  exact ⟨{ h with weekday := fits_of_agreed hknown h.weekday }, eq_of_fits h.weekday⟩

/-- A date that agrees with a reading agrees with what was read before, and the number that was read last
is its own. -/
theorem Agreement.of_set {r r' : Reading} {d : Date} (hd : d.IsRecent) {f : Field} {v : Int}
    (hset : r.set f v = .ok r') (h : Agreement r' d) : Agreement r d ∧ v = f.numberOf d := by
  obtain ⟨hweek, hweek'⟩ := hd.weekYear
  obtain ⟨hyear, hyear'⟩ := hd
  -- a field fills one slot and leaves the others; months and weekdays have slots that names fill, too
  cases f with
  | month =>
    obtain ⟨m, hm, hset⟩ := bind_eq_ok_iff.mp hset
    obtain ⟨hold, rfl⟩ := h.of_setMonth hset
    exact ⟨hold, (eq_of_within hm).1⟩
  | daysFromSunday =>
    obtain ⟨n, hn, hset⟩ := bind_eq_ok_iff.mp hset
    obtain ⟨hold, hday⟩ := h.of_setWeekday hset
    obtain ⟨rfl, -, hle⟩ := eq_of_within hn
    refine ⟨hold, ?_⟩
    have hsince := Weekday.daysSince_eq (Weekday.ofIndex (n + 6)) .sunday
    rw [Weekday.index_ofIndex, show Weekday.sunday.index = 6 from rfl] at hsince
    rw [Field.numberOf, ← hday]
    omega
  | dayOfWeek =>
    obtain ⟨n, hn, hset⟩ := bind_eq_ok_iff.mp hset
    obtain ⟨hold, hday⟩ := h.of_setWeekday hset
    obtain ⟨rfl, hle, hle'⟩ := eq_of_within hn
    refine ⟨hold, ?_⟩
    rw [Field.numberOf, ← hday, Weekday.index_ofIndex]
    omega
  | year | weekYear =>
    obtain ⟨y, hy, hset⟩ := bind_eq_ok_iff.mp hset
    obtain ⟨w, hw, heq⟩ := bind_eq_ok_iff.mp hset
    obtain ⟨rfl, hknown⟩ := agreed_eq_ok_iff.mp hw
    obtain rfl := eq_of_yearWithin hy
    cases heq
    cases h
    refine ⟨?_, ?_⟩
    · constructor <;> first | assumption | exact fits_of_agreed hknown ‹_›
    · have hvalue := eq_of_fits ‹fits (some w) _ = true›
      rw [Field.numberOf]
      omega
  | century | yearOfCentury | weekYearOfCentury =>
    obtain ⟨w, hw, heq⟩ := bind_eq_ok_iff.mp hset
    obtain ⟨rfl, hknown⟩ := agreed_eq_ok_iff.mp hw
    cases heq
    cases h
    refine ⟨?_, ?_⟩
    · constructor <;> first | assumption | exact fitsPart_of_agreed hknown ‹_›
    · have hvalue := eq_of_fitsPart ‹fitsPart (some w) _ _ = true›
      simp only [Field.numberOf, centuryOf, yearOfCenturyOf]
      omega
  | _ =>
    obtain ⟨n, hn, hset⟩ := bind_eq_ok_iff.mp hset
    obtain ⟨w, hw, heq⟩ := bind_eq_ok_iff.mp hset
    obtain ⟨rfl, hknown⟩ := agreed_eq_ok_iff.mp hw
    obtain ⟨rfl, -⟩ := eq_of_within hn
    cases heq
    cases h
    refine ⟨?_, ?_⟩
    · constructor <;> first | assumption | exact fits_of_agreed hknown ‹_›
    · exact congrArg Nat.cast (eq_of_fits ‹fits (some w) _ = true›)

end Overdue.Calendar
