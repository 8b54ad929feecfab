/-
Markers located in source files.

A remark is a marker together with the file and line where it stands and the declaration that it
belongs to. Its expire date is always settled, so nothing later has to know the configured number of
days. A comment without a marker gives no remark, and neither does one whose marker has a malformed
date; no comment has a say in what another one gives.
-/
import Overdue.Marker.Basic
import Overdue.Path
import Overdue.Source

set_option autoImplicit false

namespace Overdue

open Overdue.Calendar

/-- A marker located in a source file. -/
structure Remark where
  file : Path
  line : Nat
  declaration : String
  kind : MarkerKind
  tag : Option String
  warnDate : Date
  expireDate : Date
  message : String
deriving DecidableEq

/-- How a run reads the markers of a file: the pattern of their dates, and the number of days after
which a marker without a date of its own expires. -/
structure MarkerRules where
  pattern : DatePattern
  expiryDays : Nat
deriving DecidableEq

namespace Remark

/-- The remark for a marker in a comment. -/
def ofMarker (rules : MarkerRules) (file : Path) (declarations : List Declaration) (c : Comment)
    (m : Marker) : Remark where
  file := file
  line := c.line
  declaration := Declaration.ownerOf c.start declarations
  kind := m.kind
  tag := m.tag
  warnDate := m.warnDate
  expireDate := m.expiry rules.expiryDays
  message := m.message

/-- The remark that a comment gives, if it has a marker with proper dates. -/
def ofComment? (rules : MarkerRules) (file : Path) (declarations : List Declaration)
    (c : Comment) : Option Remark :=
  match Marker.parse rules.pattern c.text with
  | .ok (some m) => some (ofMarker rules file declarations c m)
  | .ok none | .error _ => none

end Remark

/-- The remarks of a source file, in the order of its comments. -/
def Source.remarks (rules : MarkerRules) (file : Path) (s : Source) : List Remark :=
  s.comments.filterMap (Remark.ofComment? rules file s.declarations)

end Overdue
