/-
Events of a run.

An event is something that a run came upon and that its log may tell about. Each has a level, the part of
the program that it concerns, a message and fields. A log line shows all but the part, which only
serves to select events.
-/
import Overdue.Error
import Overdue.FileSystem
import Overdue.Styled
import Overdue.Text.Quoted

set_option autoImplicit false

namespace Overdue.Log

open Overdue.Calendar Overdue.Text

/-! ## Levels -/

/-- How much an event matters. -/
inductive Level where
  | error
  | warn
  | info
  | debug
  | trace
deriving DecidableEq, Inhabited, Repr

namespace Level

/-- All levels, the weightiest first. -/
def all : List Level := [error, warn, info, debug, trace]

/-- The place of a level, from one for the weightiest. -/
def rank : Level → Nat
  | error => 1
  | warn => 2
  | info => 3
  | debug => 4
  | trace => 5

/-- The level as a word. -/
def name : Level → String
  | error => "error"
  | warn => "warn"
  | info => "info"
  | debug => "debug"
  | trace => "trace"

/-- The level in five columns. -/
def column : Level → String
  | error => "ERROR"
  | warn => " WARN"
  | info => " INFO"
  | debug => "DEBUG"
  | trace => "TRACE"

/-- The style of a level. -/
def style : Level → Style
  | error => .red
  | warn => .yellow
  | info => .green
  | debug => .blue
  | trace => .purple

end Level

/-! ## Events -/

/-- Something that a run came upon. -/
inductive Event where
  /-- A configuration file that was named. -/
  | configurationNamed (path : Path)
  /-- A configuration file that was found. -/
  | configurationFound (path : Path)
  /-- A text that is no date. -/
  | dateMisread (input : String) (pattern : DatePattern) (reason : Misreading)
  /-- A reference date that was given. -/
  | referenceGiven (date : Date)
  /-- The current day as the reference date. -/
  | referenceToday (date : Date)
  /-- A root that is a file of no known language. -/
  | rootUnsupported (path : Path)
  /-- A directory that could not be read. -/
  | directoryUnreadable (path : Path) (fault : IoFault)
  /-- A directory that could not be read to its end. -/
  | directoryBroken (path : Path) (fault : IoFault)
  /-- An entry that did not tell what it is. -/
  | entryUnknown (path : Path) (fault : IoFault)
  /-- A link to a directory. -/
  | directoryLinked (path : Path)
  /-- A directory that was left out. -/
  | directoryExcluded (path : Path)
  /-- The end of the walk, with the number of files. -/
  | filesCollected (count : Nat)
  /-- The start of the scan of a file. -/
  | fileStarted (path : Path)
  /-- A marker with a malformed date. -/
  | markerRejected (file : Path) (line : Nat) (error : FormatError)
  /-- A marker with proper dates. -/
  | markerFound (file : Path) (line : Nat) (declaration : String)
  /-- A file that was not scanned. -/
  | fileSkipped (error : ScanError)
  /-- The end of the scan. -/
  | scanComplete (files remarks errors : Nat)
deriving DecidableEq

namespace Event

/-- How much an event matters. -/
def level : Event → Level
  | dateMisread .. => .trace
  | directoryUnreadable .. | directoryBroken .. | entryUnknown .. | markerRejected ..
  | fileSkipped _ => .warn
  | scanComplete .. => .info
  | configurationNamed _ | configurationFound _ | referenceGiven _ | referenceToday _
  | rootUnsupported _ | directoryLinked _ | directoryExcluded _ | filesCollected _
  | fileStarted _ | markerFound .. => .debug

/-- The part of the program that an event concerns, by the name that selects it. -/
def topic : Event → String
  | configurationNamed _ => "stalewatch::cli::scan"
  | configurationFound _ | referenceGiven _ | referenceToday _ => "stalewatch::config"
  | dateMisread .. => "stalewatch::date"
  | rootUnsupported _ | directoryUnreadable .. | directoryBroken .. | entryUnknown ..
  | directoryLinked _ | directoryExcluded _ => "stalewatch::discovery"
  | markerRejected .. | markerFound .. => "stalewatch::scan"
  | filesCollected _ | fileStarted _ | fileSkipped _ | scanComplete .. => "stalewatch"

/-- What is said about an event. -/
def message : Event → String
  | configurationNamed _ | configurationFound _ => "Loading configuration file"
  | dateMisread .. => "Date parse failed"
  | referenceGiven _ => "Reference date override used"
  | referenceToday _ => "Using current date"
  | rootUnsupported _ => "Scan root is not a supported source file"
  | directoryUnreadable .. => "Cannot read directory, skipping"
  | directoryBroken .. => "Failed to read directory entry, skipping"
  | entryUnknown .. => "Failed to read file type, skipping"
  | directoryLinked _ => "Skipping symlinked directory"
  | directoryExcluded _ => "Excluding directory"
  | filesCollected _ => "Source files collected"
  | fileStarted _ => "Scanning file"
  | markerRejected .. => "Invalid marker date, skipping marker"
  | markerFound .. => "Annotation found"
  | fileSkipped _ => "Skipping file"
  | scanComplete .. => "Scan complete"

/-- The particulars of an event, by name. -/
def fields : Event → List (String × String)
  | configurationNamed p | configurationFound p => [("path", p.text)]
  | dateMisread input pattern reason =>
    [("input", quoted input), ("pattern", pattern.text), ("error", reason.message)]
  | referenceGiven d | referenceToday d => [("date", d.toString)]
  | rootUnsupported p | fileStarted p => [("file", p.text)]
  | directoryUnreadable p fault | directoryBroken p fault =>
    [("directory", p.text), ("error", fault.message)]
  | entryUnknown p fault => [("path", p.text), ("error", fault.message)]
  | directoryLinked p | directoryExcluded p => [("directory", p.text)]
  | filesCollected n => [("count", n.repr)]
  | markerRejected file line e =>
    [("file", file.text), ("line", line.repr), ("input", e.input), ("expected", e.expected)]
  | markerFound file line declaration =>
    [("file", file.text), ("line", line.repr), ("decl", declaration)]
  | fileSkipped e =>
    [("file", e.path.text), ("error", e.message), ("kind", e.kind.description)]
  | scanComplete files remarks errors =>
    [("files", files.repr), ("annotations", remarks.repr), ("skipped", errors.repr)]

/-- A particular as it stands in a log line. -/
def renderField (field : String × String) : Styled :=
  [plain " ", Style.italic.paint field.1, Style.dim.paint "=", plain field.2]

/-- The log line of an event at a point in time. -/
def line (time : String) (e : Event) : Styled :=
  [Style.dim.paint time, plain " ", e.level.style.paint e.level.column, plain " ", plain e.message]
    ++ e.fields.flatMap renderField ++ [plain "\n"]

end Event

end Overdue.Log
