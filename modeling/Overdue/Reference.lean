/-
The reference date of a run.

It is given as a text in the date pattern of the run. A text that is blank or missing asks for the
current day.
-/
import Overdue.Error
import Overdue.Text.Space

set_option autoImplicit false

namespace Overdue

open Overdue.Calendar Overdue.Text

/-- The date that a reference text asks for. -/
inductive Reference where
  | given (date : Date)
  | today
deriving DecidableEq

namespace Reference

/-- The reference that an optional text asks for. -/
def ofText (pattern : DatePattern) (text : Option String) : Except RunError Reference :=
  match text.map fun t => trim t.toList with
  | none | some [] => .ok today
  | some t =>
    match pattern.parse (String.ofList t) with
    | .ok d => .ok (given d)
    | .error e => .error (RunError.ofReference e)

/-- The date of a reference on a given day. -/
def date (day : Date) : Reference → Date
  | given d => d
  | today => day

end Reference

end Overdue
