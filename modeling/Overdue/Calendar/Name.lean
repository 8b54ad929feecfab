/-
The names of months and weekdays.

A name is written in full or by its first three letters. Reading takes letters in either case; where a
name may stand in full, the three letters are enough, and the rest of the name is taken along if all of
it is there.
-/
import Overdue.Calendar.Date
import Overdue.Calendar.Pattern

set_option autoImplicit false

namespace Overdue.Calendar

namespace NameField

/-- The names of a field, in the order of their numbers. -/
def names : NameField → List (List Char)
  | month =>
    ["January", "February", "March", "April", "May", "June", "July", "August", "September",
      "October", "November", "December"].map String.toList
  | weekday =>
    ["Monday", "Tuesday", "Wednesday", "Thursday", "Friday", "Saturday", "Sunday"].map
      String.toList

/-- The number of letters that tell the names apart. -/
def shortLength : Nat := 3

/-- The position of the name of a date. -/
def indexOf (f : NameField) (d : Date) : Nat :=
  match f with
  | month => d.month - 1
  | weekday => d.weekday.index

/-- The name of a date. -/
def render (f : NameField) (inFull : Bool) (d : Date) : List Char :=
  let name := f.names.getD (f.indexOf d) []
  if inFull then name else name.take shortLength

/-- The rest of a text after a given start, where letters match in either case. -/
def dropLetters? : List Char → List Char → Option (List Char)
  | [], cs => some cs
  | _ :: _, [] => none
  | p :: ps, c :: cs => if p.toLower = c.toLower then dropLetters? ps cs else none

/-- Reads one of the names from a given position on. -/
def readFrom (inFull : Bool) : Nat → List (List Char) → List Char → Option (Nat × List Char)
  | _, [], _ => none
  | i, name :: names, cs =>
    match dropLetters? (name.take shortLength) cs with
    | none => readFrom inFull (i + 1) names cs
    | some rest =>
      if inFull then some (i, (dropLetters? (name.drop shortLength) rest).getD rest)
      else some (i, rest)

/-- Reads a name: its position, and the rest of the text. -/
def read (f : NameField) (inFull : Bool) (cs : List Char) : Option (Nat × List Char) :=
  readFrom inFull 0 f.names cs

end NameField

end Overdue.Calendar
