/-
The parameters of the command line.

A parameter is the path to scan, an option that takes a value, or a switch. The table below is the only
place that knows their names; reading arguments, help and error messages all go by it.
-/
import Overdue.Styled

set_option autoImplicit false

namespace Overdue.CommandLine

/-- Something that arguments can set or ask for. -/
inductive Parameter where
  | path
  | today
  | exclude
  | failOnExpired
  | defaultExpiryDays
  | dateFormat
  | config
  | logLevel
  | verbose
  | json
  | help
  | version
deriving DecidableEq, Inhabited, Repr

namespace Parameter

/-- The parameters that settle how a scan goes, in the order in which they are listed. -/
def settings : List Parameter :=
  [path, today, exclude, failOnExpired, defaultExpiryDays, dateFormat, config, logLevel, verbose, json]

/-- All parameters that have a name, in the order in which they are listed. -/
def named : List Parameter := settings.tail ++ [help, version]

/-- The name of a parameter, if it has one. The path is known by its place. -/
def long? : Parameter → Option String
  | path => none
  | today => some "today"
  | exclude => some "exclude"
  | failOnExpired => some "fail-on-expired"
  | defaultExpiryDays => some "default-expiry-days"
  | dateFormat => some "date-format"
  | config => some "config"
  | logLevel => some "log-level"
  | verbose => some "verbose"
  | json => some "json"
  | help => some "help"
  | version => some "version"

/-- The letter of a parameter, if it has one. -/
def short? : Parameter → Option Char
  | verbose => some 'v'
  | help => some 'h'
  | version => some 'V'
  | _ => none

/-- What the value of a parameter is called, if it takes one. -/
def valueName? : Parameter → Option String
  | path => some "PATH"
  | today => some "DATE"
  | exclude => some "LIST"
  | defaultExpiryDays => some "N"
  | dateFormat => some "PATTERN"
  | config => some "FILE"
  | logLevel => some "LEVEL"
  | failOnExpired | verbose | json | help | version => none

/-- What a parameter is for. -/
def description : Parameter → String
  | path => "File or directory to scan; a trailing \x60/...\x60 is accepted"
  | today => "Reference date (defaults to today), in the configured date format"
  | exclude => "Comma-separated path substrings to skip"
  | failOnExpired => "Exit with status 1 when an expired marker is found"
  | defaultExpiryDays => "Days between the stale date and expiry when \x60expires:\x60 is absent"
  | dateFormat => "chrono strftime pattern for marker dates (default: %d-%m-%Y)"
  | config => "Configuration file (defaults to .stalewatch.yaml in the scan root)"
  | logLevel => "Log level (trace, debug, info, warn, error)"
  | verbose => "Verbose output (can be repeated: -v, -vv, -vvv)"
  | json => "Print findings as JSON"
  | help => "Print help"
  | version => "Print version"

/-- Whether a parameter takes a value. -/
def takesValue (p : Parameter) : Bool := p.valueName?.isSome

/-- The parameter with a name. -/
def ofLong? (name : String) : Option Parameter := named.find? (·.long? == some name)

/-- The parameter with a letter. -/
def ofShort? (c : Char) : Option Parameter := named.find? (·.short? == some c)

/-- The name of a parameter as it is written in arguments. -/
def flag (p : Parameter) : String :=
  match p.long? with
  | some name => "--" ++ name
  | none => ""

/-- What follows the name of a parameter where it is described. -/
def suffix (p : Parameter) : String :=
  match p.long?, p.valueName? with
  | some _, some value => " <" ++ value ++ ">"
  | none, some value => "[" ++ value ++ "]"
  | _, none => if p = verbose then "..." else ""

/-- A parameter as it is described. -/
def label (p : Parameter) : String := p.flag ++ p.suffix

/-- A parameter as it is described, with its name in heavy letters. -/
def styledLabel (p : Parameter) : Styled :=
  (if p.flag = "" then [] else [Style.bold.paint p.flag]) ++ [plain p.suffix]

end Parameter

/-- The name under which the program runs. -/
def programName : String := "stalewatch"

end Overdue.CommandLine
