/-
The help text.

It lists all parameters with what they are for. Descriptions start in one column, two blanks behind the
longest name of the section, and keep to it if they go on in another line.
-/
import Overdue.CommandLine.UsageError

set_option autoImplicit false

namespace Overdue.CommandLine

/-- What the program does. -/
def purpose : String := "Finds TODO/FIXME markers whose stale or expiry date has passed"

/-- The version of the program. -/
def versionNumber : String := "0.1.0"

/-- The line that tells the version. -/
def versionLine : String := programName ++ " " ++ versionNumber ++ "\n"

/-- The variable of the environment that can give the reference date. -/
def dateVariable : String := "STALEWATCH_DATE"

namespace Parameter

/-- What else there is to say on a parameter, given the reference date in the environment. -/
def remark (date : Option String) : Parameter → String
  | path => " [default: .]"
  | today => " [env: " ++ dateVariable ++ "=" ++ date.getD "" ++ "]"
  | _ => ""

/-- The column of a parameter's letter. -/
def letterColumn (p : Parameter) : Styled :=
  match p.short? with
  | some c => [Style.bold.paint (String.ofList ['-', c]), plain ", "]
  | none => if p.long?.isSome then [plain "    "] else []

/-- So many blanks. -/
def blanks (count : Nat) : List Char := List.replicate count ' '

/-- A text whose lines after the first one begin in a column. -/
def indented (column : Nat) (text : String) : String :=
  String.ofList (text.toList.flatMap fun c => if c = '\n' then c :: blanks column else [c])

/-- The column where descriptions start, in a section whose longest name has a given length. -/
def descriptionColumn (longest : Nat) (p : Parameter) : Nat :=
  2 + (if p.long?.isSome then 4 else 0) + longest + 2

/-- The line of help on a parameter, in a section whose longest name has a given length. -/
def helpLine (date : Option String) (longest : Nat) (p : Parameter) : Styled :=
  plain "  " :: p.letterColumn ++ p.styledLabel ++
    [plain (String.ofList (blanks (longest - p.label.length + 2))),
      plain (indented (p.descriptionColumn longest) (p.description ++ p.remark date)), plain "\n"]

end Parameter

/-- A section of the help text. -/
def helpSection (date : Option String) (title : String) (parameters : List Parameter) : Styled :=
  let longest := (parameters.map fun p => p.label.length).foldl max 0
  [(Style.bold.also .underline).paint (title ++ ":"), plain "\n"] ++
    parameters.flatMap (Parameter.helpLine date longest)

/-- The help text, given the reference date in the environment. -/
def helpText (date : Option String) : Styled :=
  [plain (purpose ++ "\n\n")] ++ Usage.line {} ++ [plain "\n\n"] ++
    helpSection date "Arguments" [.path] ++ [plain "\n"] ++
    helpSection date "Options" Parameter.named

end Overdue.CommandLine
