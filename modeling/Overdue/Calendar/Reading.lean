/-
Reading a date along a pattern.

The items are matched one after the other against the text, and what they read is collected. A field
that is read twice must have the same value both times. The fields then have to identify a date, and the
date must agree with every field that was read.
-/
import Overdue.Calendar.Misreading
import Overdue.Calendar.Name
import Overdue.Text.Digit

set_option autoImplicit false

namespace Overdue.Calendar

open Overdue.Text

/-! ## Fields that were read -/

/-- What has been read of a date so far. -/
structure Reading where
  year : Option Int := none
  century : Option Int := none
  yearOfCentury : Option Int := none
  weekYear : Option Int := none
  weekYearOfCentury : Option Int := none
  quarter : Option Nat := none
  month : Option Nat := none
  day : Option Nat := none
  weekFromSunday : Option Nat := none
  weekFromMonday : Option Nat := none
  week : Option Nat := none
  weekday : Option Weekday := none
  ordinal : Option Nat := none
deriving DecidableEq, Inhabited, Repr

/-- A value that must not differ from the one that is known. -/
def agreed {α : Type} [DecidableEq α] (known : Option α) (value : α) : Except Misreading α :=
  match known with
  | none => .ok value
  | some other => if other = value then .ok value else .error .contradictory

/-- A number that must lie between two bounds. -/
def within (low high : Nat) (v : Int) : Except Misreading Nat :=
  if low ≤ v ∧ v ≤ high then .ok v.toNat else .error .outOfRange

/-- A year, which must fit into 32 bits. -/
def yearWithin (v : Int) : Except Misreading Int :=
  if -(Nat.pow 2 31 : Nat) ≤ v ∧ v < (Nat.pow 2 31 : Nat) then .ok v else .error .outOfRange

namespace Reading

/-- Adds the weekday. -/
def setWeekday (r : Reading) (w : Weekday) : Except Misreading Reading := do
  return { r with weekday := some (← agreed r.weekday w) }

/-- Adds the month. -/
def setMonth (r : Reading) (m : Nat) : Except Misreading Reading := do
  return { r with month := some (← agreed r.month m) }

/-- Adds the value of a number, unless the field cannot have it. -/
def set (r : Reading) (f : Field) (v : Int) : Except Misreading Reading :=
  match f with
  | .year => do return { r with year := some (← agreed r.year (← yearWithin v)) }
  | .century => do return { r with century := some (← agreed r.century v) }
  | .yearOfCentury => do return { r with yearOfCentury := some (← agreed r.yearOfCentury v) }
  | .weekYear => do return { r with weekYear := some (← agreed r.weekYear (← yearWithin v)) }
  | .weekYearOfCentury => do
    return { r with weekYearOfCentury := some (← agreed r.weekYearOfCentury v) }
  | .quarter => do return { r with quarter := some (← agreed r.quarter (← within 1 4 v)) }
  | .month => do r.setMonth (← within 1 12 v)
  | .day => do return { r with day := some (← agreed r.day (← within 1 31 v)) }
  | .weekFromSunday => do
    return { r with weekFromSunday := some (← agreed r.weekFromSunday (← within 0 53 v)) }
  | .weekFromMonday => do
    return { r with weekFromMonday := some (← agreed r.weekFromMonday (← within 0 53 v)) }
  | .week => do return { r with week := some (← agreed r.week (← within 1 53 v)) }
  | .daysFromSunday => do r.setWeekday (Weekday.ofIndex ((← within 0 6 v) + 6))
  | .dayOfWeek => do r.setWeekday (Weekday.ofIndex ((← within 1 7 v) + 6))
  | .ordinal => do return { r with ordinal := some (← agreed r.ordinal (← within 1 366 v)) }

/-- Adds the position of a name. -/
def setName (r : Reading) (f : NameField) (i : Nat) : Except Misreading Reading :=
  match f with
  | .month => r.setMonth (i + 1)
  | .weekday => r.setWeekday (Weekday.ofIndex i)

end Reading

/-! ## Items -/

/-- Whether a number may have a sign. -/
def Field.isSigned : Field → Bool
  | year | weekYear => true
  | _ => false

/-- The largest number of digits of a number without a sign. -/
def Field.width : Field → Nat
  | year | weekYear => 4
  | ordinal => 3
  | quarter | daysFromSunday | dayOfWeek => 1
  | _ => 2

/-- Reads the digits at the start of a text, of which there must be one at least. -/
def readDigits (cs : List Char) : Except Misreading (Nat × List Char) :=
  match splitWhile Char.isDigit cs with
  | ([], []) => .error .tooShort
  | ([], _ :: _) => .error .unexpected
  | (ds, rest) => .ok (valueOf ds, rest)

/-- Reads at most so many digits, of which there must be one at least. -/
def readNumber (width : Nat) (cs : List Char) : Except Misreading (Nat × List Char) := do
  let (n, rest) ← readDigits (cs.take width)
  return (n, rest ++ cs.drop width)

/-- Reads the value of a number after white space. A number with a sign has any number of digits. -/
def Field.readValue (f : Field) (cs : List Char) : Except Misreading (Int × List Char) :=
  match f.isSigned, trimStart cs with
  | true, '-' :: cs => do
    let (n, rest) ← readDigits cs
    return (-(n : Int), rest)
  | true, '+' :: cs => do
    let (n, rest) ← readDigits cs
    return (n, rest)
  | _, cs => do
    let (n, rest) ← readNumber f.width cs
    return (n, rest)

/-- The number of bytes of a text. -/
def byteLength (cs : List Char) : Nat := (String.ofList cs).utf8ByteSize

/-- What is wrong with a text that should start with so many bytes and does not have the start that it
should have. -/
def shortOrUnexpected (length : Nat) (cs : List Char) : Misreading :=
  if byteLength cs < length then .tooShort else .unexpected

/-- Reads an item. -/
def Item.read (i : Item) (r : Reading) (cs : List Char) :
    Except Misreading (Reading × List Char) :=
  match i with
  | literal text =>
    match dropPrefix? text cs with
    | some rest => .ok (r, rest)
    | none => .error (shortOrUnexpected (byteLength text) cs)
  | space _ => .ok (r, trimStart cs)
  | number field _ => do
    let (v, rest) ← field.readValue cs
    return (← r.set field v, rest)
  | name field inFull =>
    match field.read inFull cs with
    | some (i, rest) => do return (← r.setName field i, rest)
    | none => .error (shortOrUnexpected NameField.shortLength cs)

/-- Reads a list of items. -/
def readItems : List Item → Reading → List Char → Except Misreading (Reading × List Char)
  | [], r, cs => .ok (r, cs)
  | i :: items, r, cs => do
    let (r, rest) ← i.read r cs
    readItems items r rest

/-! ## The date that was read -/

/-- The year that a year, its hundreds and its last two digits identify, if any of them is known. The
hundreds alone identify none, and two digits alone are a year from 1970 to 2069. -/
def fullYear (year century ofCentury : Option Int) : Except Misreading (Option Int) :=
  match year, century, ofCentury with
  | year, none, none => .ok year
  | some y, q, r =>
    if 0 ≤ y ∧ q.getD (y / 100) = y / 100 ∧ r.getD (y % 100) = y % 100 then .ok (some y)
    else .error .contradictory
  | none, some q, some r => .ok (some (q * 100 + r))
  | none, none, some r => .ok (some (r + if r < 70 then 2000 else 1900))
  | none, some _, none => .error .insufficient

/-- Whether a value is the one that was read, if one was read. -/
def fits {α : Type} [DecidableEq α] (known : Option α) (value : α) : Bool :=
  match known with
  | none => true
  | some k => k = value

/-- Whether the hundreds or the last two digits of a year are what was read; a year before zero has
none. -/
def fitsPart (known : Option Int) (year part : Int) : Bool :=
  known.isNone || (0 ≤ year && fits known part)

/-- A date that must exist. -/
def existing (d? : Option Date) : Except Misreading Date :=
  match d? with
  | some d => .ok d
  | none => .error .outOfRange

namespace Reading

/-- Whether a date has all the fields that were read. -/
def agrees (r : Reading) (d : Date) : Bool :=
  let w := d.yearWeek
  fits r.year d.year &&
  fitsPart r.century d.year (d.year / 100) &&
  fitsPart r.yearOfCentury d.year (d.year % 100) &&
  fits r.weekYear w.year &&
  fitsPart r.weekYearOfCentury w.year (w.year % 100) &&
  fits r.quarter d.quarter &&
  fits r.month d.month &&
  fits r.day d.day &&
  fits r.weekFromSunday (d.weekFrom .sunday) &&
  fits r.weekFromMonday (d.weekFrom .monday) &&
  fits r.week w.week &&
  fits r.weekday d.weekday &&
  fits r.ordinal d.ordinal

/-- The date on a day of a week of a year. A year without the day contradicts it. -/
def dateOfWeekFrom (start : Weekday) (year : Int) (week : Nat) (weekday : Weekday) :
    Except Misreading Date := do
  let _ ← existing (Date.ofOrdinal? year 1)
  match Date.ofWeekFrom? start year week weekday with
  | some d => return d
  | none => throw .contradictory

/-- The date that a year and further fields identify, if they are enough: month and day, else the day
of the year, else a week of the year and the weekday. -/
def dateOfYear (r : Reading) (year : Int) : Option (Except Misreading Date) :=
  match r.month, r.day, r.ordinal, r.weekFromSunday, r.weekFromMonday, r.weekday with
  | some m, some d, _, _, _, _ => some (existing (Date.ofParts? year m d))
  | _, _, some o, _, _, _ => some (existing (Date.ofOrdinal? year o))
  | _, _, _, some w, _, some d => some (dateOfWeekFrom .sunday year w d)
  | _, _, _, _, some w, some d => some (dateOfWeekFrom .monday year w d)
  | _, _, _, _, _, _ => none

/-- The date that the year of the week, the week and the weekday identify. -/
def dateOfWeek (r : Reading) (weekYear : Option Int) : Except Misreading Date :=
  match weekYear, r.week, r.weekday with
  | some y, some w, some d => existing (Date.ofYearWeek? ⟨y, w⟩ d)
  | _, _, _ => .error .insufficient

/-- The date that was read, if the fields identify one and agree with it. -/
def date (r : Reading) : Except Misreading Date := do
  let year ← fullYear r.year r.century r.yearOfCentury
  let weekYear ← fullYear r.weekYear none r.weekYearOfCentury
  let d ← (year.bind r.dateOfYear).getD (r.dateOfWeek weekYear)
  if r.agrees d then return d else throw .contradictory

end Reading

/-- The date that a text is along a list of items, if all of it is one. -/
def readDate (items : List Item) (text : List Char) : Except Misreading Date := do
  match ← readItems items {} text with
  | (r, []) => r.date
  | (_, _ :: _) => throw .tooLong

end Overdue.Calendar
