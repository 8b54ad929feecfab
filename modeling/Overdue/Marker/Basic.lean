/-
Markers with dates.

The date tokens of a marker are read by the pattern of the run. A marker with a token that is not a date
is an error, and the first such token counts. A marker without an `expires:` clause expires a number of
days after its warn date.
-/
import Overdue.DatePattern
import Overdue.Marker.Shape

set_option autoImplicit false

namespace Overdue

open Overdue.Calendar Overdue.Text

/-- A marker: its keyword, its tag, the date from which it is reported, the date after which it is
expired if it has one of its own, and its message. -/
structure Marker where
  kind : MarkerKind
  tag : Option String
  warnDate : Date
  expireDate : Option Date
  message : String
deriving DecidableEq

namespace Marker

/-- The tag of a marker without the white space around it; a blank tag is none. -/
def tagOf (tag : Option (List Char)) : Option String :=
  match tag.map trim with
  | none | some [] => none
  | some t => some (String.ofList t)

/-- The marker of a given shape. -/
def ofShape (pattern : DatePattern) (s : Shape) : Except FormatError Marker := do
  let warn ← pattern.parse (String.ofList s.warn)
  let expire ← s.expire.mapM fun token => pattern.parse (String.ofList token)
  return ⟨s.kind, tagOf s.tag, warn, expire, String.ofList s.message⟩

/-- The first marker in a comment, if it has one. -/
def parse (pattern : DatePattern) (raw : String) : Except FormatError (Option Marker) :=
  match shape? raw.toList with
  | none => .ok none
  | some s =>
    match ofShape pattern s with
    | .ok m => .ok (some m)
    | .error e => .error e

/-- The date after which a marker is expired. -/
def expiry (m : Marker) (defaultDays : Nat) : Date :=
  m.expireDate.getD (m.warnDate.addDays defaultDays)

end Marker

end Overdue
