/-
What a run found.

A verdict holds the report of a scan against a reference date. The classification, the findings and the
exit status all follow from it; how it is written out does not matter to them.
-/
import Overdue.Classification
import Overdue.Scan

set_option autoImplicit false

namespace Overdue

open Overdue.Calendar

/-- What a run found. -/
structure Verdict where
  reference : Date
  report : Report
  failOnExpired : Bool
deriving DecidableEq

namespace Verdict

/-- The remarks of the report at the reference date. -/
def classification (v : Verdict) : Classification := Classification.of v.report.remarks v.reference

/-- The reported remarks. -/
def findings (v : Verdict) : List Finding := v.classification.findings v.report.remarks

/-- Whether the run fails because of what it found. -/
def fails (v : Verdict) : Bool := v.failOnExpired && v.classification.anyExpired

end Verdict

end Overdue
