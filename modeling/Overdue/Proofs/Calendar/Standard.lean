/-
The pattern that is used when none is configured.

Every date, also one before the year zero or beyond the year 9999, has a text along this pattern that
holds no white space and is read back as the date. The year comes last, so the digits after its sign are
limited by nothing but the end of the text.
-/
import Overdue.Proofs.Calendar.Numerals

set_option autoImplicit false

namespace Overdue.Calendar

open Overdue.Text

/-! ## The text -/

theorem daysInMonth_le (year : Int) (month : Nat) : daysInMonth year month ≤ 31 := by
  rw [daysInMonth.eq_def]
  repeat' split
  all_goals decide

theorem Date.day_le (d : Date) : d.day ≤ 31 :=
  d.isDate.2.2.2.2.2.trans (daysInMonth_le d.year d.month)

theorem Date.month_le (d : Date) : d.month ≤ 12 := d.isDate.2.2.2.1

/-- Day, month and year with dashes between them. -/
theorem toList_format_standard (d : Date) :
    (DatePattern.standard.format d).toList =
      padded .zero 2 d.day ++ ('-' :: (padded .zero 2 d.month ++ ('-' :: yearText .zero d.year))) := by
  have hday : d.day < 100 := by
    have := d.day_le
    omega
  have hmonth : d.month < 100 := by
    have := d.month_le
    omega
  rw [DatePattern.format_eq, String.toList_ofList, ← twoPlaces_eq_padded hday,
    ← twoPlaces_eq_padded hmonth]
  simp [renderItems, DatePattern.standard, Item.render, Field.render]

/-- There is no white space in a date as it is written in reports. -/
theorem isSolid_format_standard (d : Date) : IsSolid (DatePattern.standard.format d).toList := by
  rw [toList_format_standard]
  have hdash : isSpace '-' = false := by decide
  intro c hc
  rcases List.mem_append.mp hc with h | h
  · exact (isNumeral_padded 2 _).isSolid c h
  · rcases List.mem_cons.mp h with rfl | h
    · exact hdash
    · rcases List.mem_append.mp h with h | h
      · exact (isNumeral_padded 2 _).isSolid c h
      · rcases List.mem_cons.mp h with rfl | h
        · exact hdash
        · exact isSolid_yearText d.year c h

/-- A date is never written as nothing. -/
theorem format_standard_ne_nil (d : Date) : (DatePattern.standard.format d).toList ≠ [] := by
  rw [toList_format_standard]
  exact List.append_ne_nil_of_left_ne_nil (isNumeral_padded 2 _).1 _

/-! ## Items -/

/-- What is read item by item is read by the first one and then by the others. -/
theorem readItems_cons {i : Item} {items : List Item} {r r' : Reading} {cs rest : List Char}
    (h : i.read r cs = .ok (r', rest)) :
    readItems (i :: items) r cs = readItems items r' rest := by
  rw [readItems, h]
  rfl

/-- An item for a number is read if its field can be read and its value noted. -/
theorem Item.read_number {f : Field} {padding : Padding} {r r' : Reading} {cs rest : List Char}
    {v : Int} (hread : f.readValue cs = .ok (v, rest)) (hset : r.set f v = .ok r') :
    (Item.number f padding).read r cs = .ok (r', rest) := by
  rw [Item.read, hread]
  change (r.set f v).bind _ = _
  rw [hset]
  rfl

theorem Item.read_dash (r : Reading) (cs : List Char) :
    (Item.literal ['-']).read r ('-' :: cs) = .ok (r, cs) := rfl

/-! ## Fields -/

theorem within_ok {low high n : Nat} (hlow : low ≤ n) (hhigh : n ≤ high) :
    within low high n = .ok n := by
  rw [within, if_pos ⟨Int.ofNat_le.mpr hlow, Int.ofNat_le.mpr hhigh⟩]
  rfl

theorem yearWithin_ok {year : Int} (hfirst : firstYear ≤ year) (hlast : year ≤ lastYear) :
    yearWithin year = .ok year := by
  -- the years that dates have are fewer than those that fit
  have hbounds : -((Nat.pow 2 31 : Nat) : Int) ≤ firstYear ∧ lastYear < ((Nat.pow 2 31 : Nat) : Int) := by
    decide
  exact if_pos ⟨Int.le_trans hbounds.1 hfirst, Int.lt_of_le_of_lt hlast hbounds.2⟩

/-- A number that is filled up to the two places of its field is read back. -/
theorem Field.readValue_padded {f : Field} {n : Nat} (hwidth : f.width = 2) (hn : n < 100)
    (rest : List Char) : f.readValue (padded .zero 2 n ++ rest) = .ok (n, rest) := by
  have hlength : (padded .zero 2 n).length = f.width := by
    rw [hwidth]
    exact length_padded ((Nat.length_toDigits_le_iff (by decide) (by decide)).mpr hn)
  rw [Field.readValue_append (isNumeral_padded 2 n) (.inl hlength), valueOf_padded]

/-! ## The date -/

/-- Day, month and year are read one after the other. -/
theorem readItems_standard (d : Date) :
    readItems DatePattern.standard.items {} (DatePattern.standard.format d).toList =
      .ok ({ day := some d.day, month := some d.month, year := some d.year }, []) := by
  obtain ⟨hfirst, hlast, hmonth₁, hmonth₂, hday₁, -⟩ := d.isDate
  have hday₂ := d.day_le
  -- the year comes last, so nothing continues it
  have hend : StartsNoDigit [] := by
    intro c hc
    cases hc
  have hday : ∀ rest, (Item.number .day .zero).read {} (padded .zero 2 d.day ++ rest) =
      .ok ({ day := some d.day }, rest) := by
    intro rest
    refine Item.read_number (Field.readValue_padded rfl (by omega) rest) ?_
    rw [Reading.set, within_ok hday₁ hday₂]
    rfl
  have hmonth : ∀ rest, (Item.number .month .zero).read { day := some d.day }
      (padded .zero 2 d.month ++ rest) =
        .ok ({ day := some d.day, month := some d.month }, rest) := by
    intro rest
    refine Item.read_number (Field.readValue_padded rfl (by omega) rest) ?_
    rw [Reading.set, within_ok hmonth₁ hmonth₂]
    rfl
  have hyear : (Item.number .year .zero).read { day := some d.day, month := some d.month }
      (yearText .zero d.year ++ []) =
        .ok ({ day := some d.day, month := some d.month, year := some d.year }, []) := by
    refine Item.read_number (Field.readValue_yearText rfl rfl hend d.year) ?_
    rw [Reading.set, yearWithin_ok hfirst hlast]
    rfl
  rw [toList_format_standard, DatePattern.standard, readItems_cons (hday _),
    readItems_cons (Item.read_dash ..), readItems_cons (hmonth _),
    readItems_cons (Item.read_dash ..), ← List.append_nil (yearText .zero d.year),
    readItems_cons hyear, readItems]

/-- A date is identified by its day, month and year, and agrees with them. -/
theorem Reading.date_of_parts (d : Date) :
    Reading.date { day := some d.day, month := some d.month, year := some d.year } = .ok d := by
  have hexists : Date.ofParts? d.year d.month d.day = some d := dif_pos d.isDate
  have hagrees : Reading.agrees { day := some d.day, month := some d.month, year := some d.year } d
      = true := by
    simp [Reading.agrees, fits, fitsPart]
  -- of the ways to identify a date the first one applies, as all its parts are there
  change (existing (Date.ofParts? d.year d.month d.day)).bind _ = _
  rw [hexists]
  exact if_pos hagrees

/-- Every date is read back from its text. -/
theorem parse_format_standard (d : Date) :
    DatePattern.standard.parse (DatePattern.standard.format d) = .ok d := by
  have hread : DatePattern.standard.read (DatePattern.standard.format d) = .ok d := by
    rw [DatePattern.read, readDate, readItems_standard]
    exact Reading.date_of_parts d
  rw [DatePattern.parse, hread]

end Overdue.Calendar
