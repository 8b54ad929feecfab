/-
The texts that the standard pattern reads.

A date may be written with less care than it is in reports: without zeros in front, with white space in front of
a number, with a sign in front of the year. Which liberties there are is stated here as a grammar (`IsWritten`),
and the pattern is shown to read the texts of this grammar and no others. Nothing may follow the year, a month
or a day of three digits is not one, and a year needs a sign beyond four digits. What the grammar leaves to the
calendar is whether there is such a date, and long runs of digits are ruled out by nothing else.

Each reader is described by an equivalence, from digits up to the whole pattern: what it takes from the front of
a text, and what it leaves.
-/
import Overdue.Proofs.Calendar.DayMonthYear

set_option autoImplicit false

namespace Overdue

open Overdue.Calendar Overdue.Text

namespace Calendar

/-! ## The grammar -/

/-- A text that is a day or a month: one or two digits. -/
def IsPlaces (ds : List Char) (n : Nat) : Prop := IsNumeral ds ∧ ds.length ≤ 2 ∧ valueOf ds = n

/-- A text that is a year: up to four digits, or any number of digits behind a sign. -/
inductive IsYear : List Char → Int → Prop where
  | plain {ds : List Char} : IsNumeral ds → ds.length ≤ 4 → IsYear ds (valueOf ds)
  | plus {ds : List Char} : IsNumeral ds → IsYear ('+' :: ds) (valueOf ds)
  | minus {ds : List Char} : IsNumeral ds → IsYear ('-' :: ds) (-(valueOf ds : Int))

/-- A text that is a day, a month and a year with dashes between them and white space in front of them. -/
def IsWritten (cs : List Char) (year : Int) (month day : Nat) : Prop :=
  ∃ s₁ ds s₂ ms s₃ ys, cs = s₁ ++ ds ++ '-' :: (s₂ ++ ms ++ '-' :: (s₃ ++ ys)) ∧
    IsBlank s₁ ∧ IsPlaces ds day ∧ IsBlank s₂ ∧ IsPlaces ms month ∧ IsBlank s₃ ∧ IsYear ys year

/-! ## Digits -/

theorem startsNoDigit_nil : StartsNoDigit [] := nofun

theorem startsNoDigit_dash (cs : List Char) : StartsNoDigit ('-' :: cs) := by
  rintro _ ⟨⟩
  decide

/-- The digits that are read are all there are at the front of a text, and there is at least one. -/
theorem readDigits_eq_ok_iff {cs rest : List Char} {n : Nat} :
    readDigits cs = .ok (n, rest) ↔
      ∃ ds, cs = ds ++ rest ∧ IsNumeral ds ∧ StartsNoDigit rest ∧ n = valueOf ds := by
  constructor
  · intro h
    obtain ⟨run, after, hsplit⟩ : ∃ run after, splitWhile Char.isDigit cs = (run, after) := ⟨_, _, rfl⟩
    obtain ⟨hcs, hdigits, hstop⟩ := splitWhile_eq_iff.mp hsplit
    rw [readDigits, hsplit] at h
    cases run with
    | nil => cases after <;> cases h
    | cons c run =>
      cases h
      exact ⟨c :: run, hcs, ⟨List.cons_ne_nil _ _, hdigits⟩, hstop, rfl⟩
  · rintro ⟨ds, rfl, hds, hstop, rfl⟩
    exact readDigits_append hds hstop

/-- Digits are taken as far as the width goes, or until there are no more. -/
theorem readNumber_eq_ok_iff {width : Nat} {cs rest : List Char} {n : Nat} :
    readNumber width cs = .ok (n, rest) ↔
      ∃ ds, cs = ds ++ rest ∧ IsNumeral ds ∧
        (ds.length = width ∨ ds.length ≤ width ∧ StartsNoDigit rest) ∧ n = valueOf ds := by
  constructor
  · intro h
    obtain ⟨⟨m, after⟩, hread, heq⟩ := bind_eq_ok_iff.mp h
    cases heq
    obtain ⟨ds, htake, hds, hstop, rfl⟩ := readDigits_eq_ok_iff.mp hread
    have hlength : ds.length + after.length = min width cs.length := by
      rw [← List.length_append, ← htake, List.length_take]
    refine ⟨ds, ?_, hds, ?_, rfl⟩
    · rw [← List.append_assoc, ← htake, List.take_append_drop]
    · cases after with
      | cons c after => exact .inr ⟨by omega, hstop⟩
      | nil =>
        -- all that the width allows are digits: either it is used up, or the text is
        rw [List.length_nil] at hlength
        by_cases hwidth : width ≤ cs.length
        · exact .inl (by omega)
        · rw [List.nil_append, List.drop_of_length_le (by omega)]
          exact .inr ⟨by omega, startsNoDigit_nil⟩
  · rintro ⟨ds, rfl, hds, hstop, rfl⟩
    exact readNumber_append hds hstop

/-! ## Fields -/

/-- Blanks in front of a number are passed over. -/
theorem Field.readValue_blanks (f : Field) {blanks : List Char} (h : IsBlank blanks) (cs : List Char) :
    f.readValue (blanks ++ cs) = f.readValue cs := by
  rw [Field.readValue, trimStart_blanks_append h, ← Field.readValue]

/-- What a field takes from the front of a text: digits as far as its width goes, or a sign, if the
field may have one, and all digits after it. -/
inductive Field.Takes (f : Field) : List Char → Int → List Char → Prop where
  | plain {ds rest : List Char} : IsNumeral ds →
      ds.length = f.width ∨ ds.length ≤ f.width ∧ StartsNoDigit rest → f.Takes ds (valueOf ds) rest
  | plus {ds rest : List Char} : f.isSigned = true → IsNumeral ds → StartsNoDigit rest →
      f.Takes ('+' :: ds) (valueOf ds) rest
  | minus {ds rest : List Char} : f.isSigned = true → IsNumeral ds → StartsNoDigit rest →
      f.Takes ('-' :: ds) (-(valueOf ds : Int)) rest

theorem Field.Takes.isRun {f : Field} {run rest : List Char} {v : Int} (h : f.Takes run v rest) :
    run ≠ [] ∧ IsSolid run := by
  have hsign : ∀ {c : Char} {ds : List Char}, isSpace c = false → IsNumeral ds → IsSolid (c :: ds) := by
    intro c ds hc hds b hb
    rcases List.mem_cons.mp hb with rfl | hb
    · exact hc
    · exact hds.isSolid b hb
  cases h with
  | plain hds _ => exact ⟨hds.1, hds.isSolid⟩
  | plus _ hds _ => exact ⟨List.cons_ne_nil _ _, hsign (by decide) hds⟩
  | minus _ hds _ => exact ⟨List.cons_ne_nil _ _, hsign (by decide) hds⟩

/-- A field takes a number from where the white space ends. -/
theorem Field.readValue_eq_ok_iff {f : Field} {cs rest : List Char} {v : Int} :
    f.readValue cs = .ok (v, rest) ↔ ∃ run, trimStart cs = run ++ rest ∧ f.Takes run v rest := by
  constructor
  · intro h
    rw [Field.readValue.eq_def] at h
    -- with a sign the digits go as far as they can, without one as far as the width
    split at h
    · rename_i hsigned htrim
      obtain ⟨⟨n, after⟩, hread, ⟨⟩⟩ := bind_eq_ok_iff.mp h
      obtain ⟨ds, rfl, hds, hstop, rfl⟩ := readDigits_eq_ok_iff.mp hread
      exact ⟨'-' :: ds, htrim, .minus hsigned hds hstop⟩
    · rename_i hsigned htrim
      obtain ⟨⟨n, after⟩, hread, ⟨⟩⟩ := bind_eq_ok_iff.mp h
      obtain ⟨ds, rfl, hds, hstop, rfl⟩ := readDigits_eq_ok_iff.mp hread
      exact ⟨'+' :: ds, htrim, .plus hsigned hds hstop⟩
    · obtain ⟨⟨n, after⟩, hread, ⟨⟩⟩ := bind_eq_ok_iff.mp h
      obtain ⟨ds, htrim, hds, hstop, rfl⟩ := readNumber_eq_ok_iff.mp hread
      exact ⟨ds, htrim, .plain hds hstop⟩
  · rintro ⟨run, htrim, htakes⟩
    have hself : f.readValue cs = f.readValue (run ++ rest) := by
      rw [← htrim, Field.readValue, Field.readValue, trimStart_trimStart]
    rw [hself]
    cases htakes with
    | plain hds hstop => exact Field.readValue_append hds hstop
    | plus hsigned hds hstop => exact Field.readValue_plus hsigned hds hstop
    | minus hsigned hds hstop => exact Field.readValue_minus hsigned hds hstop

/-- A field without a sign in front of a dash. -/
theorem Field.readValue_eq_ok_iff_dash {f : Field} (hsigned : f.isSigned = false) {cs rest : List Char}
    {v : Int} :
    f.readValue cs = .ok (v, '-' :: rest) ↔
      ∃ blanks ds, cs = blanks ++ ds ++ '-' :: rest ∧ IsBlank blanks ∧ IsNumeral ds ∧
        ds.length ≤ f.width ∧ v = valueOf ds := by
  constructor
  · intro h
    obtain ⟨run, htrim, htakes⟩ := Field.readValue_eq_ok_iff.mp h
    obtain ⟨blanks, rfl, hblanks, -⟩ := trimStart_eq_iff.mp htrim
    cases htakes with
    | plain hds hwidth =>
      exact ⟨blanks, run, (List.append_assoc ..).symm, hblanks, hds, hwidth.elim (·.le) (·.1), rfl⟩
    | plus hsign | minus hsign => simp [hsigned] at hsign
  · rintro ⟨blanks, ds, rfl, hblanks, hds, hwidth, rfl⟩
    rw [List.append_assoc, Field.readValue_blanks f hblanks]
    exact Field.readValue_append hds (.inr ⟨hwidth, startsNoDigit_dash rest⟩)

/-- The year at the end of a text. -/
theorem Field.readValue_year_eq_ok_iff {cs : List Char} {v : Int} :
    Field.year.readValue cs = .ok (v, []) ↔
      ∃ blanks ys, cs = blanks ++ ys ∧ IsBlank blanks ∧ IsYear ys v := by
  constructor
  · intro h
    obtain ⟨run, htrim, htakes⟩ := Field.readValue_eq_ok_iff.mp h
    rw [List.append_nil] at htrim
    obtain ⟨blanks, hcs, hblanks, -⟩ := trimStart_eq_iff.mp htrim
    refine ⟨blanks, run, hcs, hblanks, ?_⟩
    cases htakes with
    | plain hds hwidth => exact .plain hds (hwidth.elim (·.le) (·.1))
    | plus _ hds _ => exact .plus hds
    | minus _ hds _ => exact .minus hds
  · rintro ⟨blanks, ys, rfl, hblanks, hyear⟩
    rw [Field.readValue_blanks _ hblanks, ← List.append_nil ys]
    cases hyear with
    | plain hds hwidth => exact Field.readValue_append hds (.inr ⟨hwidth, startsNoDigit_nil⟩)
    | plus hds => exact Field.readValue_plus rfl hds startsNoDigit_nil
    | minus hds => exact Field.readValue_minus rfl hds startsNoDigit_nil

/-! ## Items -/

/-- An item for a number is read if and only if its field can be read and its value noted. -/
theorem Item.read_number_eq_ok_iff {f : Field} {padding : Padding} {r r' : Reading} {cs rest : List Char} :
    (Item.number f padding).read r cs = .ok (r', rest) ↔
      ∃ v, f.readValue cs = .ok (v, rest) ∧ r.set f v = .ok r' := by
  constructor
  · intro h
    obtain ⟨⟨v, after⟩, hvalue, h⟩ := bind_eq_ok_iff.mp h
    obtain ⟨r'', hset, heq⟩ := bind_eq_ok_iff.mp h
    cases heq
    exact ⟨v, hvalue, hset⟩
  · rintro ⟨v, hvalue, hset⟩
    exact Item.read_number hvalue hset

/-- Items are read one after the other, so if all of them can be read then the first one can. -/
theorem readItems_cons_eq_ok_iff {i : Item} {items : List Item} {r : Reading} {cs : List Char}
    {x : Reading × List Char} :
    readItems (i :: items) r cs = .ok x ↔
      ∃ r' rest, i.read r cs = .ok (r', rest) ∧ readItems items r' rest = .ok x := by
  rw [readItems, bind_eq_ok_iff, Prod.exists]

/-- What is read in front of a dash. -/
theorem readItems_dash_eq_ok_iff {f : Field} {padding : Padding} {items : List Item} {r : Reading}
    {cs : List Char} {x : Reading × List Char} :
    readItems (.number f padding :: .literal ['-'] :: items) r cs = .ok x ↔
      ∃ v rest r', f.readValue cs = .ok (v, '-' :: rest) ∧ r.set f v = .ok r' ∧
        readItems items r' rest = .ok x := by
  constructor
  · intro h
    obtain ⟨r', after, hread, h⟩ := readItems_cons_eq_ok_iff.mp h
    obtain ⟨v, hvalue, hset⟩ := Item.read_number_eq_ok_iff.mp hread
    obtain ⟨r'', rest, hdash, h⟩ := readItems_cons_eq_ok_iff.mp h
    rw [Item.read] at hdash
    split at hdash
    · rename_i hdrop
      cases hdash
      obtain rfl := dropPrefix?_eq_some_iff.mp hdrop
      exact ⟨v, rest, r', hvalue, hset, h⟩
    · cases hdash
  · rintro ⟨v, rest, r', hvalue, hset, h⟩
    rw [readItems_cons (Item.read_number hvalue hset), readItems_cons (Item.read_dash ..), h]

/-! ## The pattern -/

/-- A date that agrees with a reading has the part that was read last, and agrees with what was read before. -/
theorem Agreement.of_set_part {r r' : Reading} {d : Date} {p : Part} {v : Int}
    (hset : r.set p.field v = .ok r') (h : Agreement r' d) : Agreement r d ∧ v = p.number d := by
  cases p with
  | day =>
    obtain ⟨n, hn, hset⟩ := bind_eq_ok_iff.mp hset
    obtain ⟨w, hw, heq⟩ := bind_eq_ok_iff.mp hset
    obtain ⟨rfl, hknown⟩ := agreed_eq_ok_iff.mp hw
    cases heq
    exact ⟨{ h with day := fits_of_agreed hknown h.day },
      (eq_of_within hn).1.trans (congrArg Nat.cast (eq_of_fits h.day))⟩
  | month =>
    obtain ⟨m, hm, hset⟩ := bind_eq_ok_iff.mp hset
    obtain ⟨hold, hmonth⟩ := h.of_setMonth hset
    exact ⟨hold, (eq_of_within hm).1.trans (congrArg Nat.cast hmonth)⟩
  | year =>
    obtain ⟨y, hy, hset⟩ := bind_eq_ok_iff.mp hset
    obtain ⟨w, hw, heq⟩ := bind_eq_ok_iff.mp hset
    obtain ⟨rfl, hknown⟩ := agreed_eq_ok_iff.mp hw
    cases heq
    exact ⟨{ h with year := fits_of_agreed hknown h.year },
      (eq_of_yearWithin hy).symm.trans (eq_of_fits h.year)⟩

/-- The standard pattern reads the texts of the grammar that are those of a date, and no others. -/
theorem readDate_standard_eq_ok_iff {cs : List Char} {d : Date} :
    readDate DatePattern.standard.items cs = .ok d ↔ IsWritten cs d.year d.month d.day := by
  constructor
  · intro h
    obtain ⟨r, hread, hagrees⟩ := agreement_of_readDate h
    obtain ⟨v₁, rest₁, r₁, hday, hset₁, hread⟩ := readItems_dash_eq_ok_iff.mp hread
    obtain ⟨v₂, rest₂, r₂, hmonth, hset₂, hread⟩ := readItems_dash_eq_ok_iff.mp hread
    obtain ⟨r₃, rest₃, hread, hend⟩ := readItems_cons_eq_ok_iff.mp hread
    obtain ⟨v₃, hyear, hset₃⟩ := Item.read_number_eq_ok_iff.mp hread
    cases hend
    -- the date agrees with the year, so it agrees with what was read before it, and so on
    obtain ⟨hagrees, rfl⟩ := hagrees.of_set_part (p := .year) hset₃
    obtain ⟨hagrees, rfl⟩ := hagrees.of_set_part (p := .month) hset₂
    obtain ⟨-, rfl⟩ := hagrees.of_set_part (p := .day) hset₁
    obtain ⟨s₁, ds, rfl, hs₁, hds, hwidth₁, hvalue₁⟩ := (Field.readValue_eq_ok_iff_dash rfl).mp hday
    obtain ⟨s₂, ms, rfl, hs₂, hms, hwidth₂, hvalue₂⟩ := (Field.readValue_eq_ok_iff_dash rfl).mp hmonth
    obtain ⟨s₃, ys, rfl, hs₃, hys⟩ := Field.readValue_year_eq_ok_iff.mp hyear
    exact ⟨s₁, ds, s₂, ms, s₃, ys, rfl, hs₁, ⟨hds, hwidth₁, (Int.ofNat.inj hvalue₁).symm⟩, hs₂,
      ⟨hms, hwidth₂, (Int.ofNat.inj hvalue₂).symm⟩, hs₃, hys⟩
  · rintro ⟨s₁, ds, s₂, ms, s₃, ys, rfl, hs₁, ⟨hds, hwidth₁, hday⟩, hs₂, ⟨hms, hwidth₂, hmonth⟩, hs₃, hys⟩
    have hday : Field.day.readValue (s₁ ++ ds ++ '-' :: (s₂ ++ ms ++ '-' :: (s₃ ++ ys))) =
        .ok (d.day, '-' :: (s₂ ++ ms ++ '-' :: (s₃ ++ ys))) :=
      (Field.readValue_eq_ok_iff_dash rfl).mpr
        ⟨s₁, ds, rfl, hs₁, hds, hwidth₁, congrArg Nat.cast hday.symm⟩
    have hmonth : Field.month.readValue (s₂ ++ ms ++ '-' :: (s₃ ++ ys)) =
        .ok (d.month, '-' :: (s₃ ++ ys)) :=
      (Field.readValue_eq_ok_iff_dash rfl).mpr
        ⟨s₂, ms, rfl, hs₂, hms, hwidth₂, congrArg Nat.cast hmonth.symm⟩
    have hyear := Field.readValue_year_eq_ok_iff.mpr ⟨s₃, ys, rfl, hs₃, hys⟩
    have hread : readItems DatePattern.standard.items {}
        (s₁ ++ ds ++ '-' :: (s₂ ++ ms ++ '-' :: (s₃ ++ ys))) =
          .ok (Reading.of [.year, .month, .day] d, []) := by
      refine readItems_dash_eq_ok_iff.mpr ⟨_, _, _, hday, Reading.set_part [] d .day, ?_⟩
      refine readItems_dash_eq_ok_iff.mpr ⟨_, _, _, hmonth, Reading.set_part _ d .month, ?_⟩
      exact readItems_cons (Item.read_number hyear (Reading.set_part _ d .year))
    rw [readDate, hread]
    have hparts : Reading.of [.year, .month, .day] d = Reading.of [.day, .month, .year] d :=
      Reading.of_congr (by simp; tauto) d
    exact hparts ▸ Reading.date_of_parts d

end Calendar

namespace DatePattern

/-- A pattern has one way to say that a text is no date. -/
theorem parse_eq_error_iff {p : DatePattern} {text : String} {e : FormatError} :
    p.parse text = .error e ↔ e = ⟨text, p.text⟩ ∧ ∀ d, p.parse text ≠ .ok d := by
  rw [parse]
  split
  · rename_i d _
    refine iff_of_false ?_ fun h => h.2 d rfl
    intro h
    cases h
  · rw [Except.error.injEq, eq_comm]
    refine (and_iff_left ?_).symm
    intro d h
    cases h

/-- **The standard pattern reads what is written along its grammar.** A text is a date if and only if it is a
day, a month and a year that are those of a date. Of any other text nothing is said but what it is and along
which pattern it should be a date. -/
theorem parse_standard_iff (t : String) :
    (∀ d : Date, standard.parse t = .ok d ↔ IsWritten t.toList d.year d.month d.day) ∧
    (standard.parse t = .error ⟨t, "%d-%m-%Y"⟩ ↔
      ∀ year month day, IsWritten t.toList year month day → ¬ IsDate year month day) := by
  have hok (d : Date) : standard.parse t = .ok d ↔ IsWritten t.toList d.year d.month d.day :=
    parse_eq_ok_iff.trans readDate_standard_eq_ok_iff
  refine ⟨hok, ?_⟩
  rw [parse_eq_error_iff]
  constructor
  · rintro ⟨-, hnone⟩ year month day hwritten hdate
    exact hnone ⟨year, month, day, hdate⟩ ((hok _).mpr hwritten)
  · intro hnone
    refine ⟨rfl, ?_⟩
    intro d hparse
    exact hnone _ _ _ ((hok d).mp hparse) d.isDate

example : standard.parse "1-\t02-+02024" = .ok ⟨2024, 2, 1, by decide⟩ := by decide

end DatePattern

end Overdue
