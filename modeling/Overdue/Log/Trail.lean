/-
The events that each part of a scan gives rise to.

They are read off what the parts produce, so nothing that a scan produces depends on its log.
-/
import Overdue.Log.Event
import Overdue.Reference
import Overdue.Scan

set_option autoImplicit false

namespace Overdue

open Overdue.Calendar Overdue.Log Overdue.Text

/-! ## Dates -/

/-- The event for a text that is not a date in a pattern. -/
def DatePattern.events (p : DatePattern) (input : String) : List Event :=
  match p.read input with
  | .ok _ => []
  | .error reason => [.dateMisread input p reason]

/-- The events for the text of a reference date on a given day. -/
def Reference.events (pattern : DatePattern) (text : Option String) (day : Date) : List Event :=
  match Reference.ofText pattern text with
  | .ok (.given d) => [.referenceGiven d]
  | .ok .today => [.referenceToday day]
  | .error _ => pattern.events (String.ofList (trim (text.getD "").toList))

/-! ## Walks -/

/-- The event for something that a walk came upon. -/
def Visit.event? : Visit → Option Event
  | file _ => none
  | unreadable p fault => some (.directoryUnreadable p fault)
  | broken p fault => some (.directoryBroken p fault)
  | unknown p fault => some (.entryUnknown p fault)
  | excluded p => some (.directoryExcluded p)
  | linked p => some (.directoryLinked p)
  | unsupported p => some (.rootUnsupported p)

/-! ## Files -/

/-- The events for a comment. -/
def Comment.events (rules : MarkerRules) (file : Path) (declarations : List Declaration)
    (c : Comment) : List Event :=
  match Marker.parse rules.pattern c.text with
  | .ok none => []
  | .ok (some _) => [.markerFound file c.line (Declaration.ownerOf c.start declarations)]
  | .error e => rules.pattern.events e.input ++ [.markerRejected file c.line e]

/-- The events while a file is scanned. -/
def Inspection.events (rules : MarkerRules) (i : Inspection) : List Event :=
  .fileStarted i.path ::
    match i.result with
    | .ok source => source.comments.flatMap (Comment.events rules i.path source.declarations)
    | .error _ => []

/-- The events at the end of a scan. -/
def Report.events (r : Report) : List Event :=
  r.errors.map .fileSkipped ++ [.scanComplete r.filesScanned r.remarks.length r.errors.length]

/-- The events of a whole scan. -/
def Survey.events (rules : MarkerRules) (s : Survey) : List Event :=
  s.visits.filterMap Visit.event? ++ [.filesCollected s.inspections.length] ++
    s.inspections.flatMap (Inspection.events rules) ++ (s.report rules).events

end Overdue
