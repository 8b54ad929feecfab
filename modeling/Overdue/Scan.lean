/-
Scans of files.

Each file is inspected by itself: its language must be known, its bytes must be a text, and the text must
follow the grammar. A report takes the files in their order and lists the remarks of those that pass
and one error for each that does not.
-/
import Overdue.Remark
import Overdue.Config.Layer
import Overdue.Discovery

set_option autoImplicit false

namespace Overdue

/-- Everything that a scan of files produced. -/
structure Report where
  filesScanned : Nat
  remarks : List Remark
  errors : List ScanError
  directoriesSkipped : List (Path × IoFault)
deriving DecidableEq

/-- How a configuration reads markers. -/
def Config.markerRules (c : Config) : MarkerRules := ⟨c.datePattern, c.defaultExpiryDays⟩

/-! ## Inspections -/

/-- The language and the text of a file, or what keeps it from being scanned. -/
def textOf (fs : FileSystem) (path : Path) : Except ScanError (Language × String) :=
  match path.language? with
  | none => .error (.unsupportedLanguage path)
  | some language =>
    match fs.read path with
    | .error fault => .error (.ioError path fault.message)
    | .ok bytes =>
      match String.fromUTF8? bytes with
      | none => .error (.encodingError path)
      | some text => .ok (language, text)

/-- What the text of a file contributes, or what keeps it from being scanned. -/
def sourceOf (path : Path) : Except SyntaxError Source → Except ScanError Source
  | .ok source => .ok source
  | .error e => .error (.parseFailed path e.message)

/-- What a file contributes, or what keeps it from being scanned. -/
def inspect (fs : FileSystem) (path : Path) : Except ScanError Source :=
  match textOf fs path with
  | .error e => .error e
  | .ok (language, text) => sourceOf path (Source.read language text)

/-- A file and what its inspection gave. -/
structure Inspection where
  path : Path
  result : Except ScanError Source

namespace Inspection

/-- The inspection of a file. -/
def of (fs : FileSystem) (path : Path) : Inspection := ⟨path, inspect fs path⟩

/-- The remarks of a file. -/
def remarks (rules : MarkerRules) (i : Inspection) : List Remark :=
  match i.result with
  | .ok source => source.remarks rules i.path
  | .error _ => []

/-- The error of a file. -/
def error? (i : Inspection) : Option ScanError :=
  match i.result with
  | .ok _ => none
  | .error e => some e

end Inspection

/-! ## Reports -/

namespace Report

/-- The report on inspected files. -/
def ofInspections (rules : MarkerRules) (inspections : List Inspection)
    (skipped : List (Path × IoFault)) : Report where
  filesScanned := inspections.length
  remarks := inspections.flatMap (Inspection.remarks rules)
  errors := inspections.filterMap Inspection.error?
  directoriesSkipped := skipped

end Report

/-- The report on a list of files. -/
def scanFiles (fs : FileSystem) (config : Config) (paths : List Path) : Report :=
  .ofInspections config.markerRules (paths.map (Inspection.of fs)) []

/-! ## Scans from a root -/

/-- All that a scan from a root came upon: the walk, and the inspections of the files that it found. -/
structure Survey where
  visits : List Visit
  inspections : List Inspection

namespace Survey

/-- The survey of a walk. -/
def ofVisits (fs : FileSystem) (visits : List Visit) : Survey where
  visits := visits
  inspections := (Discovery.ofVisits visits).files.map (Inspection.of fs)

/-- The survey of everything under a root, which must be there. -/
def of (fs : FileSystem) (config : Config) (root : Path) : Except RunError Survey :=
  (visitsFrom fs config.excludes root).map (ofVisits fs)

/-- The report on a survey. -/
def report (rules : MarkerRules) (s : Survey) : Report :=
  .ofInspections rules s.inspections (Discovery.ofVisits s.visits).skipped

end Survey

/-- The report on all files under a root, which must be there. -/
def scan (fs : FileSystem) (config : Config) (root : Path) : Except RunError Report :=
  (Survey.of fs config root).map (Survey.report config.markerRules)

end Overdue
