/-
Errors in the arguments.

Each error says what is wrong with an argument. Where another use of the arguments would be right, the
message shows it: a similar name, the way to pass the argument as a value, or the general usage.
-/
import Overdue.CommandLine.Parameter

set_option autoImplicit false

namespace Overdue.CommandLine

/-! ## Usage -/

/-- The parameters that a usage line shows. Without any it is the general usage. -/
structure Usage where
  shown : List Parameter := []
  /-- Whether one entry that names all settings stands for those that are shown. -/
  joined : Bool := false
deriving DecidableEq, Inhabited, Repr

namespace Usage

/-- The path where it stands in the arguments. -/
def givenPath : String := "<" ++ Parameter.path.valueName?.getD "" ++ ">"

/-- The entry that names all settings. -/
def anySetting : String :=
  "<" ++ "|".intercalate (Parameter.path.valueName?.getD "" :: Parameter.settings.tail.map Parameter.label)
    ++ ">"

/-- What follows the program's name in a usage line. -/
def arguments (u : Usage) : Styled :=
  if u.shown = [] then [plain (" [OPTIONS] " ++ Parameter.path.label)]
  else if u.joined then
    (u.shown.filter (· ∉ Parameter.settings)).flatMap (fun p => plain " " :: p.styledLabel) ++
      [plain (" " ++ anySetting)]
  else
    (u.shown.filter (· ≠ .path)).flatMap (fun p => plain " " :: p.styledLabel) ++
      [plain (" " ++ if .path ∈ u.shown then givenPath else Parameter.path.label)]

/-- The usage line. -/
def line (u : Usage) : Styled :=
  [(Style.bold.also .underline).paint "Usage:", plain " ", Style.bold.paint programName] ++ u.arguments

end Usage

/-! ## Errors -/

/-- Why a text is not a number in the range of a parameter. -/
inductive NumberFault where
  | empty
  | noDigit
  | tooLarge
  | tooSmall
  | outside (value : Int) (low high : Int)
deriving DecidableEq, Inhabited, Repr

/-- What is said about a fault. -/
def NumberFault.message : NumberFault → String
  | empty => "cannot parse integer from empty string"
  | noDigit => "invalid digit found in string"
  | tooLarge => "number too large to fit in target type"
  | tooSmall => "number too small to fit in target type"
  | outside value low high => s!"{value} is not in {low}..={high}"

/-- What may have been meant by an argument. -/
inductive Advice where
  | none
  /-- A parameter with a similar name. -/
  | similar (p : Parameter)
  /-- A path, which would have to stand behind two hyphens. -/
  | value
deriving DecidableEq, Inhabited, Repr

/-- What is wrong with the arguments. -/
inductive UsageError where
  /-- An argument that has no meaning where it stands. -/
  | unexpected (argument : String) (advice : Advice) (usage : Usage)
  /-- A value for a parameter that takes none. -/
  | surplusValue (p : Parameter) (value : String) (usage : Usage)
  /-- No value for a parameter that takes one. -/
  | missingValue (p : Parameter)
  /-- A value that is not a number in range. -/
  | invalidNumber (p : Parameter) (value : String) (fault : NumberFault)
  /-- A second value for a parameter that takes one, or a second use of a switch. -/
  | repeated (p : Parameter)
deriving DecidableEq, Inhabited, Repr

namespace UsageError

/-- A text that is wrong, in quotes. -/
def wrong (text : String) : Styled := [plain "'", Style.yellow.paint text, plain "'"]

/-- A text that would be right, in quotes. -/
def right (text : String) : Styled := [plain "'", Style.green.paint text, plain "'"]

/-- The parameter that something is wrong with, in quotes. -/
def concerned (p : Parameter) : Styled := [plain "'", Style.bold.paint p.label, plain "'"]

/-- What is wrong. -/
def statement : UsageError → Styled
  | unexpected argument _ _ => plain "unexpected argument " :: wrong argument ++ [plain " found"]
  | surplusValue p value _ =>
    plain "unexpected value " :: wrong value ++ plain " for " :: concerned p ++
      [plain " found; no more were expected"]
  | missingValue p =>
    plain "a value is required for " :: wrong p.label ++ [plain " but none was supplied"]
  | invalidNumber p value fault =>
    plain "invalid value " :: wrong value ++ plain " for " :: concerned p ++
      [plain (": " ++ fault.message)]
  | repeated p => plain "the argument " :: wrong p.label ++ [plain " cannot be used multiple times"]

/-- A piece of advice, in a paragraph of its own. -/
def tip (advice : Styled) : Styled := [plain "\n\n  ", Style.green.paint "tip:", plain " "] ++ advice

/-- What may have been meant. -/
def tips : UsageError → Styled
  | unexpected _ (.similar p) _ => tip (plain "a similar argument exists: " :: right p.flag)
  | unexpected argument .value _ =>
    tip (plain "to pass " :: wrong argument ++ plain " as a value, use " :: right ("-- " ++ argument))
  | _ => []

/-- The usage that an error shows. -/
def usage? : UsageError → Option Usage
  | unexpected _ _ usage | surplusValue _ _ usage => some usage
  | repeated _ => some {}
  | missingValue _ | invalidNumber .. => none

/-- The whole message. -/
def message (e : UsageError) : Styled :=
  [(Style.bold.also .red).paint "error:", plain " "] ++ e.statement ++ e.tips ++
    (match e.usage? with
    | some usage => plain "\n\n" :: usage.line
    | none => []) ++
    [plain "\n\nFor more information, try '", Style.bold.paint Parameter.help.flag, plain "'.\n"]

end UsageError

end Overdue.CommandLine
