/-
Writing a date along a pattern.

Every item has a text for every date, and a part of a pattern that is no item of a date has none. Numbers of two
places are written by their two digits; the year has four places and a sign in front where it does not fit them.
-/
import Overdue.Calendar.Name

set_option autoImplicit false

namespace Overdue.Calendar

/-! ## Numbers -/

/-- The characters that fill a number up to a width. -/
def Padding.fill (padding : Padding) (missing : Nat) : List Char :=
  match padding with
  | none => []
  | zero => List.replicate missing '0'
  | space => List.replicate missing ' '

/-- The digits of a number. -/
def digits (n : Nat) : List Char := Nat.toDigits 10 n

/-- A number filled up to a width. -/
def padded (padding : Padding) (width n : Nat) : List Char :=
  padding.fill (width - (digits n).length) ++ digits n

/-- The character so many places after the digit zero. -/
def digitChar (n : Nat) : Char := Char.ofNat ('0'.toNat + n)

/-- A number of two places. The tens are one character also where there are more than nine of
them. -/
def twoPlaces (padding : Padding) (n : Nat) : List Char :=
  let ones := [digitChar (n % 10)]
  if n / 10 = 0 then padding.fill 1 ++ ones else digitChar (n / 10) :: ones

/-- A number with a sign, filled up to a width; zeros go after the sign and blanks before it. -/
def signed (padding : Padding) (width : Nat) (v : Int) : List Char :=
  let sign := if v < 0 then '-' else '+'
  let body := digits v.natAbs
  let filling := padding.fill (width - (body.length + 1))
  match padding with
  | .space => filling ++ sign :: body
  | _ => sign :: filling ++ body

/-- A year. -/
def yearText (padding : Padding) (year : Int) : List Char :=
  if 0 ≤ year ∧ year < 10000 then padded padding 4 year.toNat else signed padding 5 year

/-- The hundreds of a year, of which the lowest eight bits are kept. -/
def centuryOf (year : Int) : Nat := (year / 100 % 256).toNat

/-- The last two digits of a year. -/
def yearOfCenturyOf (year : Int) : Nat := (year % 100).toNat

/-- The text of a number. -/
def Field.render (f : Field) (padding : Padding) (d : Date) : List Char :=
  match f with
  | year => yearText padding d.year
  | century => twoPlaces padding (centuryOf d.year)
  | yearOfCentury => twoPlaces padding (yearOfCenturyOf d.year)
  | weekYear => yearText padding d.yearWeek.year
  | weekYearOfCentury => twoPlaces padding (yearOfCenturyOf d.yearWeek.year)
  | quarter => [digitChar d.quarter]
  | month => twoPlaces padding d.month
  | day => twoPlaces padding d.day
  | weekFromSunday => twoPlaces padding (d.weekFrom .sunday)
  | weekFromMonday => twoPlaces padding (d.weekFrom .monday)
  | week => twoPlaces padding d.yearWeek.week
  | daysFromSunday => [digitChar (d.weekday.daysSince .sunday)]
  | dayOfWeek => [digitChar (d.weekday.index + 1)]
  | ordinal => padded padding 3 d.ordinal

/-! ## Items -/

/-- The text of an item. -/
def Item.render (d : Date) : Item → List Char
  | literal text | space text => text
  | number field padding => field.render padding d
  | name field inFull => field.render inFull d

/-- The text of a list of items. -/
def renderItems (items : List Item) (d : Date) : List Char := items.flatMap (Item.render d)

/-! ## Patterns -/

/-- The text of a part of a pattern, if a date has one. -/
def Spec.render? (d : Date) (s : Spec) : Option (List Char) := s.item?.map (Item.render d)

/-- The text of a date along the text of a pattern, if every part of that has one. -/
def Pattern.write? (d : Date) (text : List Char) : Option (List Char) := do
  let specs ← specs? text
  let texts ← specs.mapM (Spec.render? d)
  return texts.flatten

/-- The text of a date along a pattern whose parts are those of a date is that of its items. -/
theorem Pattern.write?_of_specs? {d : Date} {text : List Char} {items : List Item}
    (h : specs? text = some (items.map .item)) : write? d text = some (renderItems items d) := by
  have hrender : Spec.render? d ∘ Spec.item = fun i => pure (Item.render d i) := rfl
  have htexts : (items.map Spec.item).mapM (Spec.render? d) = some (items.map (Item.render d)) := by
    rw [List.mapM_map, hrender, List.mapM_pure]
    rfl
  rw [write?, h, renderItems, List.flatMap]
  simp only [Option.bind_eq_bind, Option.bind_some, htexts]
  rfl

end Overdue.Calendar
