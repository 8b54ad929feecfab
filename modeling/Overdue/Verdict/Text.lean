/-
Verdicts for people.

Each finding is a line. A summary with the numbers of stale and expired remarks follows, and then the
files that could not be scanned, of which only the first few are listed.
-/
import Overdue.Styled
import Overdue.Verdict.Basic

set_option autoImplicit false

namespace Overdue

/-- A path the way it was typed, without the current directory in front. -/
def Path.display (p : Path) : String := p.dropCurrent.text

/-! ## Findings -/

namespace Finding

/-- The style of a finding's status. -/
def statusStyle (f : Finding) : Style :=
  match f.status with
  | .expired => Style.bold.also .red
  | _ => Style.bold.also .yellow

/-- The marker's keyword with its tag. -/
def keyword (f : Finding) : String :=
  match f.tag with
  | some tag => s!"{f.kind.label}({tag})"
  | none => f.kind.label

/-- The line for a finding. -/
def styled (f : Finding) : Styled :=
  [f.statusStyle.paint f.status.label, plain s!": {f.file.display}:{f.line} [",
    Style.cyan.paint f.declaration, plain s!"] {f.keyword} ",
    Style.dim.paint ("stale:" ++ f.staleDate), plain " ",
    Style.dim.paint ("expires:" ++ f.expires), plain s!" {f.message}\n"]

end Finding

/-! ## Summaries -/

/-- The number of files that are listed when they could not be scanned. -/
def listedErrors : Nat := 5

/-- The line for a file that could not be scanned. -/
def ScanError.styled (e : ScanError) : Styled :=
  [plain "  ", (if e.kind.isInputError then Style.yellow else Style.red).paint "•",
    plain s!" {e.path.display}: {e.message}\n"]

/-- The lines for the files that could not be scanned. -/
def ScanError.styledList (errors : List ScanError) : Styled :=
  if errors = [] then []
  else
    [plain "\n", (Style.bold.also .yellow).paint "Skipped files", plain s!" ({errors.length}):\n"] ++
      (errors.take listedErrors).flatMap styled ++
      if listedErrors < errors.length then
        [plain s!"  ... and {errors.length - listedErrors} more\n"]
      else []

namespace Verdict

/-- The word at the head of the summary. -/
def headline (v : Verdict) : Piece :=
  if 0 < v.classification.count .expired then (Style.bold.also .red).paint "Found"
  else if 0 < v.classification.count .stale then (Style.bold.also .yellow).paint "Found"
  else (Style.bold.also .green).paint "Clean"

/-- The summary. -/
def summary (v : Verdict) : Styled :=
  let stale := v.classification.count .stale
  let expired := v.classification.count .expired
  (if 0 < stale + expired then [plain "\n"] else []) ++
    [v.headline,
      plain s!": {stale} stale, {expired} expired ({v.report.filesScanned} files scanned)\n"] ++
    (if v.report.directoriesSkipped = [] then []
    else
      [Style.yellow.paint "Skipped",
        plain s!": {v.report.directoriesSkipped.length} directories (unreadable)\n"]) ++
    ScanError.styledList v.report.errors

/-- A verdict for people. -/
def text (v : Verdict) : Styled := v.findings.flatMap Finding.styled ++ v.summary

end Verdict

end Overdue
