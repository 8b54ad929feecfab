/-
Verdicts for programs.

A document holds texts, so the path of a file has a place in it only if it is a text.
-/
import Overdue.Json
import Overdue.Verdict.Basic

set_option autoImplicit false

namespace Overdue

/-- A finding as a document. -/
def Finding.document (f : Finding) : Json :=
  .object [
    ("status", .text f.status.label),
    ("file", .ofText? f.file.text?),
    ("line", .number f.line),
    ("declaration", .text f.declaration),
    ("kind", .text f.kind.label),
    ("tag", .ofOption f.tag),
    ("stale_date", .text f.staleDate),
    ("expires", .text f.expires),
    ("message", .text f.message)]

/-- The error of a file as a document. -/
def ScanError.document (e : ScanError) : Json :=
  .object [
    ("path", .ofText? e.path.text?),
    ("kind", .text e.kind.key),
    ("message", .text e.message)]

/-- A verdict as a document. -/
def Verdict.document (v : Verdict) : Json :=
  .object [
    ("reference_date", .text v.reference.canonical),
    ("findings", .list (v.findings.map Finding.document)),
    ("any_expired", .truth v.classification.anyExpired),
    ("files_scanned", .number v.report.filesScanned),
    ("errors", .list (v.report.errors.map ScanError.document))]

end Overdue
