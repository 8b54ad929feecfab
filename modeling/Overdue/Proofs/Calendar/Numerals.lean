/-
Numbers that are written in digits and read back.

A field of a date is written by its digits, filled up with zeros to the width of the field. What reads it
back takes digits as long as there are any, or as many as the field is wide, so the value comes back
whenever the next character is no digit or the width is used up. Zeros in front do not change a value.
-/
import Overdue.DatePattern
import Overdue.Proofs.Text.Runs

set_option autoImplicit false

namespace Overdue.Calendar

open Overdue.Text

/-! ## Numerals and their values -/

/-- A text of one digit or more. -/
def IsNumeral (ds : List Char) : Prop := ds ≠ [] ∧ ∀ c ∈ ds, c.isDigit = true

/-- A text that does not go on with a digit. -/
def StartsNoDigit (cs : List Char) : Prop := ∀ c ∈ cs.head?, c.isDigit = false

theorem isSpace_of_isDigit {c : Char} (h : c.isDigit = true) : isSpace c = false := by
  have hc : 48 ≤ c.toNat ∧ c.toNat ≤ 57 := by
    simpa [Char.isDigit, UInt32.le_iff_toNat_le] using h
  -- no range of white space reaches into the digits
  have hoff : ∀ r ∈ spaceRanges, r.2 < 48 ∨ 57 < r.1 := by decide
  by_contra hspace
  obtain ⟨r, hr, hlow, hhigh⟩ := isSpace_iff.mp (Bool.not_eq_false _ ▸ hspace)
  have := hoff r hr
  omega

theorem IsNumeral.isSolid {ds : List Char} (h : IsNumeral ds) : IsSolid ds := by
  intro c hc
  exact isSpace_of_isDigit (h.2 c hc)

/-- Digits in front of a numeral make a numeral. -/
theorem IsNumeral.append {ds es : List Char} (hds : ∀ c ∈ ds, c.isDigit = true)
    (hes : IsNumeral es) : IsNumeral (ds ++ es) := by
  refine ⟨List.append_ne_nil_of_right_ne_nil ds hes.1, ?_⟩
  intro c hc
  rcases List.mem_append.mp hc with h | h
  · exact hds c h
  · exact hes.2 c h

/-- The value of digits is their value to the base ten. -/
theorem valueOf_eq_ofDigitChars (ds : List Char) : valueOf ds = Nat.ofDigitChars 10 ds 0 := by
  rw [valueOf, Nat.ofDigitChars_eq_foldl]
  simp only [Nat.mul_comm]

/-- Zeros in front do not change a value. -/
theorem valueOf_zeros_append (n : Nat) (ds : List Char) :
    valueOf (List.replicate n '0' ++ ds) = valueOf ds := by
  rw [valueOf_eq_ofDigitChars, valueOf_eq_ofDigitChars, Nat.ofDigitChars_append,
    Nat.ofDigitChars_replicate_zero, Nat.mul_zero]

theorem isNumeral_digits (n : Nat) : IsNumeral (digits n) := by
  refine ⟨Nat.toDigits_ne_nil, ?_⟩
  intro c hc
  exact Nat.isDigit_of_mem_toDigits (by decide) (by decide) hc

theorem valueOf_digits (n : Nat) : valueOf (digits n) = n := by
  rw [valueOf_eq_ofDigitChars, digits, Nat.ofDigitChars_ten_toDigits]

/-! ## Filled numbers -/

theorem isDigit_zeros {n : Nat} {c : Char} (h : c ∈ List.replicate n '0') : c.isDigit = true := by
  rw [(List.mem_replicate.mp h).2]
  decide

theorem isNumeral_padded (width n : Nat) : IsNumeral (padded .zero width n) :=
  IsNumeral.append (fun _ => isDigit_zeros) (isNumeral_digits n)

/-- Zeros in front do not change the value. -/
theorem valueOf_padded (width n : Nat) : valueOf (padded .zero width n) = n := by
  rw [padded, Padding.fill, valueOf_zeros_append, valueOf_digits]

/-- A number that fits is as long as its field is wide. -/
theorem length_padded {width n : Nat} (h : (digits n).length ≤ width) :
    (padded .zero width n).length = width := by
  rw [padded, Padding.fill, List.length_append, List.length_replicate]
  omega

theorem digitChar_eq_digitChar {n : Nat} (h : n < 10) : digitChar n = n.digitChar := by
  -- ten cases are few enough to be looked at
  have hall : ∀ m < 10, digitChar m = m.digitChar := by decide
  exact hall n h

/-- A number of two places is the number filled up to two digits. -/
theorem twoPlaces_eq_padded {n : Nat} (h : n < 100) {padding : Padding} :
    twoPlaces padding n = padded padding 2 n := by
  rw [twoPlaces, padded, digits]
  by_cases hsmall : n < 10
  · rw [if_pos (Nat.div_eq_of_lt hsmall), Nat.toDigits_of_lt_base hsmall, Nat.mod_eq_of_lt hsmall,
      digitChar_eq_digitChar hsmall]
    rfl
  · have htens : n / 10 < 10 := by omega
    rw [if_neg (by omega), Nat.toDigits_of_base_le (by decide) (by omega),
      Nat.toDigits_of_lt_base htens, digitChar_eq_digitChar htens,
      digitChar_eq_digitChar (Nat.mod_lt _ (by decide))]
    cases padding <;> rfl

/-! ## Reading back -/

/-- All digits are read where the rest does not go on with one. -/
theorem readDigits_append {ds rest : List Char} (hds : IsNumeral ds) (hrest : StartsNoDigit rest) :
    readDigits (ds ++ rest) = .ok (valueOf ds, rest) := by
  rw [readDigits, splitWhile_append hds.2 hrest]
  cases ds with
  | nil => exact absurd rfl hds.1
  | cons c cs => rfl

/-- The digits of a field are read where they use up its width or the rest does not go on with one. -/
theorem readNumber_append {width : Nat} {ds rest : List Char} (hds : IsNumeral ds)
    (hrest : ds.length = width ∨ ds.length ≤ width ∧ StartsNoDigit rest) :
    readNumber width (ds ++ rest) = .ok (valueOf ds, rest) := by
  have hlength : ds.length ≤ width := by
    rcases hrest with h | h
    · exact h.le
    · exact h.1
  -- what is left of the width does not continue the number: it is empty, or the rest stops it
  have hnext : StartsNoDigit (rest.take (width - ds.length)) := by
    intro c hc
    rcases hrest with h | h
    · rw [h, Nat.sub_self, List.take_zero] at hc
      cases hc
    · refine h.2 c ?_
      rw [List.head?_take] at hc
      split at hc
      · cases hc
      · exact hc
  rw [readNumber, List.take_append, List.take_of_length_le hlength, readDigits_append hds hnext,
    List.drop_append, List.drop_of_length_le hlength]
  change Except.ok _ = _
  rw [List.nil_append, List.take_append_drop]

/-! ## Fields -/

/-- There is no white space to be taken away from a numeral. -/
theorem trimStart_numeral_append {ds rest : List Char} (h : IsNumeral ds) :
    trimStart (ds ++ rest) = ds ++ rest :=
  trimStart_run_append h.1 h.isSolid rest

/-- In front of digits every field is read as one without a sign: a digit is none. -/
theorem Field.readValue_numeral {f : Field} {ds rest : List Char} (hds : IsNumeral ds) :
    f.readValue (ds ++ rest) =
      (readNumber f.width (ds ++ rest)).map fun (n, rest) => ((n : Int), rest) := by
  cases ds with
  | nil => exact absurd rfl hds.1
  | cons c ds =>
    have hdigit := hds.2 c (List.mem_cons_self ..)
    rw [Field.readValue.eq_def, trimStart_numeral_append hds]
    split
    · rename_i hsign
      rw [(List.cons.inj hsign).1] at hdigit
      exact absurd hdigit (by decide)
    · rename_i hsign
      rw [(List.cons.inj hsign).1] at hdigit
      exact absurd hdigit (by decide)
    · rfl

/-- A numeral that fits into a field is its value. -/
theorem Field.readValue_append {f : Field} {ds rest : List Char} (hds : IsNumeral ds)
    (hrest : ds.length = f.width ∨ ds.length ≤ f.width ∧ StartsNoDigit rest) :
    f.readValue (ds ++ rest) = .ok (valueOf ds, rest) := by
  rw [Field.readValue_numeral hds, readNumber_append hds hrest]
  rfl

theorem trimStart_cons {c : Char} {cs : List Char} (h : isSpace c = false) :
    trimStart (c :: cs) = c :: cs :=
  List.dropWhile_cons_of_neg (by rw [h]; exact Bool.false_ne_true)

/-- After a sign all digits are read, however many there are. -/
theorem Field.readValue_minus {f : Field} (hsigned : f.isSigned = true) {ds rest : List Char}
    (hds : IsNumeral ds) (hrest : StartsNoDigit rest) :
    f.readValue ('-' :: (ds ++ rest)) = .ok (-(valueOf ds : Int), rest) := by
  rw [Field.readValue, hsigned, trimStart_cons (by decide)]
  change (readDigits (ds ++ rest)).bind _ = _
  rw [readDigits_append hds hrest]
  rfl

/-- A number may have a plus sign in front, if signs are allowed, and then goes as far as there are digits. -/
theorem Field.readValue_plus {f : Field} (hsigned : f.isSigned = true) {ds rest : List Char}
    (hds : IsNumeral ds) (hrest : StartsNoDigit rest) :
    f.readValue ('+' :: (ds ++ rest)) = .ok (valueOf ds, rest) := by
  rw [Field.readValue, hsigned, trimStart_cons (by decide)]
  change (readDigits (ds ++ rest)).bind _ = _
  rw [readDigits_append hds hrest]
  rfl

/-- A year beyond four digits has a sign, and the zeros stand between the sign and the digits. -/
theorem yearText_signed {year : Int} (h : ¬ (0 ≤ year ∧ year < 10000)) :
    ∃ ds, IsNumeral ds ∧ valueOf ds = year.natAbs ∧
      yearText .zero year = (if year < 0 then '-' else '+') :: ds := by
  rw [yearText, if_neg h]
  refine ⟨_, IsNumeral.append (fun _ => isDigit_zeros) (isNumeral_digits year.natAbs), ?_, rfl⟩
  rw [valueOf_zeros_append, valueOf_digits]

/-- A year is read back, with a sign or without, where the rest does not go on with a digit. -/
theorem Field.readValue_yearText {f : Field} (hsigned : f.isSigned = true) (hwidth : f.width = 4)
    {rest : List Char} (hrest : StartsNoDigit rest) (year : Int) :
    f.readValue (yearText .zero year ++ rest) = .ok (year, rest) := by
  by_cases hyear : 0 ≤ year ∧ year < 10000
  · -- four digits use up the field, so it does not matter what comes next
    have hfit : year.toNat < 10 ^ 4 := by omega
    have hlength := length_padded ((Nat.length_toDigits_le_iff (by decide) (by decide)).mpr hfit)
    rw [yearText, if_pos hyear,
      Field.readValue_append (isNumeral_padded 4 _) (.inl (hlength.trans hwidth.symm)),
      valueOf_padded, Int.toNat_of_nonneg hyear.1]
  · -- behind a sign the field has no width, so the rest has to stop the digits
    obtain ⟨ds, hds, hvalue, htext⟩ := yearText_signed hyear
    rw [htext, List.cons_append]
    by_cases hneg : year < 0
    · rw [if_pos hneg, Field.readValue_minus hsigned hds hrest, hvalue,
        Int.ofNat_natAbs_of_nonpos (Int.le_of_lt hneg), Int.neg_neg]
    · rw [if_neg hneg, Field.readValue_plus hsigned hds hrest, hvalue,
        Int.natAbs_of_nonneg (Int.not_lt.mp hneg)]

/-- There is no white space in a written year. -/
theorem isSolid_yearText (year : Int) : IsSolid (yearText .zero year) := by
  by_cases hyear : 0 ≤ year ∧ year < 10000
  · rw [yearText, if_pos hyear]
    exact (isNumeral_padded 4 _).isSolid
  · obtain ⟨ds, hds, -, htext⟩ := yearText_signed hyear
    rw [htext]
    intro c hc
    rcases List.mem_cons.mp hc with rfl | hmem
    · split <;> decide
    · exact hds.isSolid c hmem

end Overdue.Calendar
