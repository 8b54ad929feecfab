/-
Why a text is not a date.

Reading a date along a pattern stops at the first thing that is wrong, and these are the kinds of things
that can be wrong.
-/

set_option autoImplicit false

namespace Overdue.Calendar

/-- A reason why a text is not a date along a pattern. -/
inductive Misreading where
  /-- A number is not one that the field can have, or there is no such date. -/
  | outOfRange
  /-- The fields contradict each other. -/
  | contradictory
  /-- The fields do not identify a date. -/
  | insufficient
  /-- The text differs from what the pattern asks for. -/
  | unexpected
  /-- The text ends before the pattern does. -/
  | tooShort
  /-- The pattern ends before the text does. -/
  | tooLong
deriving DecidableEq, Inhabited, Repr

/-- What is said about a reason. -/
def Misreading.message : Misreading → String
  | outOfRange => "input is out of range"
  | contradictory => "no possible date and time matching input"
  | insufficient => "input is not enough for unique date and time"
  | unexpected => "input contains invalid characters"
  | tooShort => "premature end of input"
  | tooLong => "trailing input"

end Overdue.Calendar
