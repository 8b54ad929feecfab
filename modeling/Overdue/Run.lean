/-
A run of the program.

The arguments say how a scan is to go. The configuration comes from a file, if there is one, with the
arguments on top of it; then the reference date is settled, and the scan goes from the root. What goes
wrong on the way ends the run. A verdict is written as text or as a document, which may fail in its turn, and
the events on the way are logged as far as the filter lets them.

The log and messages about errors are taken to be written. What the language runtime says of its own accord when
text cannot be written is left out.
-/
import Overdue.CommandLine.Help
import Overdue.CommandLine.Settings
import Overdue.Config.File
import Overdue.Log.Filter
import Overdue.Log.Trail
import Overdue.Text.Control
import Overdue.Verdict.Document
import Overdue.Verdict.Text

set_option autoImplicit false

namespace Overdue

open Overdue.Calendar Overdue.CommandLine Overdue.Log

/-! ## What a run depends on -/

/-- The variables of the environment that a run looks at. -/
structure Environment where
  /-- The reference date, in case that no argument gives one. -/
  date : Option String := none
  /-- The filter of the log, which goes before all arguments. -/
  log : Option String := none
  /-- A text here keeps colors away. -/
  noColor : Option String := none
  /-- A zero here keeps colors away, too. -/
  color : Option String := none
  /-- A text here asks for colors wherever the output goes. -/
  forceColor : Option String := none
  /-- Whether the output goes to a terminal. -/
  terminal : Bool := false
deriving DecidableEq, Inhabited, Repr

/-- Where the output of a run goes. -/
structure Outlet where
  /-- How many characters are taken, and why there are no more of them, unless everything is taken. -/
  limit : Option (Nat × IoFault) := none
deriving DecidableEq, Inhabited, Repr

/-- All that a run depends on besides its arguments. -/
structure World where
  files : FileSystem
  environment : Environment
  today : Date
  /-- The point in time that log lines show. -/
  time : String
  outlet : Outlet := {}

namespace Environment

/-- Whether a variable has a text. -/
def isFilled : Option String → Bool
  | some text => text != ""
  | none => false

/-- Whether colors are asked for wherever a verdict goes. A zero does not ask for them. -/
def forcesColor (e : Environment) : Bool :=
  match e.forceColor with
  | some text => text != "0"
  | none => false

/-- Whether colors are kept away from the log and from what is said about arguments. -/
def barsColor (e : Environment) : Bool := isFilled e.noColor

/-- Whether a terminal is to show colors. -/
def showsColor (e : Environment) : Bool := e.terminal && e.color != some "0"

/-- How the styles of a verdict and of errors are written. -/
def verdictColoring (e : Environment) : Coloring :=
  if e.forcesColor || (e.noColor.isNone && e.showsColor) then .joined else .off

/-- How the styles of the log are written. -/
def logColoring (e : Environment) : Coloring := if e.barsColor then .off else .joined

/-- What is written of help and of errors in the arguments. Without colors nothing is left of control
sequences, be they from styles or from the arguments. -/
def usageText (e : Environment) (t : Styled) : String :=
  let text := Coloring.stacked.render t
  if !e.barsColor && (isFilled e.forceColor || e.showsColor) then text else Text.withoutControls text

end Environment

/-! ## Configuration -/

/-- Where the configuration of a run stands besides its arguments. -/
inductive ConfigSource where
  /-- In a file that was named. -/
  | named (path : Path)
  /-- In the file of the directory. -/
  | found (path : Path)
  | nowhere
deriving DecidableEq, Inhabited, Repr

namespace ConfigSource

/-- The directory that is searched for a configuration file: the root, or the directory of the root if
that is a file. -/
def directory (fs : FileSystem) (root : Path) : Path :=
  if fs.isFile root then
    match root.parent? with
    | some parent => if parent.bytes = [] then ⟨"."⟩ else parent
    | none => ⟨"."⟩
  else root

/-- Where the configuration stands for given settings. -/
def of (fs : FileSystem) (s : Settings) : ConfigSource :=
  match s.config with
  | some path => named ⟨path⟩
  | none =>
    match LayerFile.find? fs (directory fs (scanRoot s.path)) with
    | some path => found path
    | none => nowhere

/-- The layers that stand there. -/
def layers (fs : FileSystem) : ConfigSource → Except RunError (List ConfigLayer)
  | named path | found path => (LayerFile.load fs path).map ([·])
  | nowhere => .ok []

/-- The events when the layers are read. -/
def events : ConfigSource → List Event
  | named path => [.configurationNamed path]
  | found path => [.configurationFound path]
  | nowhere => []

end ConfigSource

/-- The layer that arguments make. A switch can turn failing on, not off. -/
def CommandLine.Settings.layer (s : Settings) : ConfigLayer where
  dateFormat := s.dateFormat
  defaultExpiryDays := s.defaultExpiryDays
  exclude := s.exclude.map parseExcludes
  failOnExpired := if s.failOnExpired then some true else none

/-- The configuration for given settings. -/
def configFor (fs : FileSystem) (s : Settings) : Except RunError Config := do
  let layers ← (ConfigSource.of fs s).layers fs
  (Config.ofLayers (layers ++ [s.layer])).mapError RunError.ofPattern

/-! ## Scanning -/

/-- How a scan went: what it came upon, and how it ended. -/
structure Attempt where
  events : List Event
  result : Except RunError Verdict

/-- The scan for given settings. -/
def attempt (w : World) (s : Settings) : Attempt :=
  let reading := (ConfigSource.of w.files s).events
  match configFor w.files s with
  | .error e => ⟨reading, .error e⟩
  | .ok config =>
    let dating := Reference.events config.datePattern s.today w.today
    match Reference.ofText config.datePattern s.today with
    | .error e => ⟨reading ++ dating, .error e⟩
    | .ok reference =>
      match Survey.of w.files config (scanRoot s.path) with
      | .error e => ⟨reading ++ dating, .error e⟩
      | .ok survey =>
        ⟨reading ++ dating ++ survey.events config.markerRules,
          .ok ⟨reference.date w.today, survey.report config.markerRules, config.failOnExpired⟩⟩

/-! ## Output -/

/-- What a run leaves behind. -/
structure Output where
  exit : Nat
  stdout : String
  stderr : String
deriving DecidableEq, Inhabited, Repr

/-- The message about an error that ends a run. -/
def RunError.styled (e : RunError) : Styled :=
  [(Style.bold.also .red).paint "error", plain (": " ++ e.message ++ "\n")] ++
    match e.cause? with
    | some cause => [plain "  ", Style.dim.paint "caused by", plain (": " ++ cause ++ "\n")]
    | none => []

/-- How a run that scans ended. -/
inductive Ending where
  /-- It came to its end, and failed because of what it found, or not. -/
  | scanned (fails : Bool)
  /-- An error kept it from its end. -/
  | failed (error : RunError)
  /-- It broke down while text was written. -/
  | crashed
deriving DecidableEq, Inhabited, Repr

/-- The exit status that tells how a run ended: two if an error kept it from its end, one if it failed because of
what it found, and zero otherwise. -/
def exitStatus : Ending → Nat
  | .scanned fails => if fails then 1 else 0
  | .failed _ => 2
  | .crashed => 101

namespace Outlet

/-- What is taken of a text. -/
def taken (o : Outlet) (text : String) : String :=
  match o.limit with
  | none => text
  | some (room, _) => String.ofList (text.toList.take room)

/-- The characters of a text up to its last line feed. -/
def fullLines (text : List Char) : List Char := (text.reverse.dropWhile (· != '\n')).reverse

/-- Why not all of a text is taken. The text goes out line by line, and what is behind the last line feed goes out
when nobody asks any more. -/
def fault? (o : Outlet) (text : String) : Option IoFault :=
  match o.limit with
  | none => none
  | some (room, fault) => if room < (fullLines text.toList).length then some fault else none

end Outlet

/-- The error for a document with a path that is no text. -/
def RunError.pathNotText : RunError := io "path contains invalid UTF-8 characters"

/-- What a verdict looks like in the form that is asked for. -/
def Verdict.written (v : Verdict) (e : Environment) (s : Settings) : String :=
  if s.json then v.document.pretty else e.verdictColoring.render v.text

/-- How a run ends that comes to a verdict: the verdict has to be written. -/
def Verdict.ending (v : Verdict) (w : World) (s : Settings) : Ending :=
  match w.outlet.fault? (v.written w.environment s) with
  | some fault => if s.json then .failed (.io fault.message) else .crashed
  | none => if s.json && !v.document.isWritable then .failed .pathNotText else .scanned v.fails

/-- How a run ends, by what its scan comes to. -/
def ending (w : World) (s : Settings) : Except RunError Verdict → Ending
  | .ok v => v.ending w s
  | .error e => .failed e

/-- What is written about what a scan comes to. -/
def standardOutput (w : World) (s : Settings) : Except RunError Verdict → String
  | .ok v => w.outlet.taken (v.written w.environment s)
  | .error _ => ""

/-- What is written about an error that ended a run. -/
def errorOutput (e : Environment) : Ending → String
  | .failed error => e.verdictColoring.render error.styled
  | .scanned _ | .crashed => ""

/-- The filter that the verbosity of the arguments stands for. -/
def verbosityFilter : Nat → String
  | 0 => "warn"
  | 1 => "info"
  | 2 => "debug"
  | _ => "trace"

/-- The filter of the log, and what is said about pieces of it that are not in order. The environment
goes before the arguments if all its directives are in order. -/
def logFilter (e : Environment) (s : Settings) : Filter × List String :=
  match e.log.bind Filter.parse? with
  | some f => (f, [])
  | none => Filter.parseSome (s.logLevel.getD (verbosityFilter s.verbosity))

/-- What is logged of events. -/
def logOutput (w : World) (s : Settings) (events : List Event) : String :=
  let (filter, complaints) := logFilter w.environment s
  String.join (complaints.map (· ++ "\n")) ++
    String.join ((events.filter filter.tells).map fun e =>
      w.environment.logColoring.render (e.line w.time))

/-- A run that scans. -/
def runScan (w : World) (s : Settings) : Output :=
  let a := attempt w s
  let ending := ending w s a.result
  { exit := exitStatus ending
    stdout := standardOutput w s a.result
    stderr := logOutput w s a.events ++ errorOutput w.environment ending }

/-- A run with given arguments. -/
def run (w : World) (arguments : List String) : Output :=
  match Settings.ofArguments w.environment.date arguments with
  | .ok s => runScan w s
  | .error .help => ⟨0, w.outlet.taken (w.environment.usageText (helpText w.environment.date)), ""⟩
  | .error .version => ⟨0, w.outlet.taken versionLine, ""⟩
  | .error (.error e) => ⟨2, "", w.environment.usageText e.message⟩

end Overdue
