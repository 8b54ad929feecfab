/-
Errors of a run and of single files.

An error of the run ends it: the configuration is not valid, or the scan root is not there. An error of
a file costs the run only that file.
-/
import Overdue.DatePattern
import Overdue.Path

set_option autoImplicit false

namespace Overdue

/-! ## Errors of the run -/

/-- An error that ends the run. -/
inductive RunError where
  /-- The file system did not do what was asked. -/
  | io (reason : String)
  /-- A grammar could not be used. -/
  | parser (reason : String)
  /-- The configuration, the date pattern or the reference date is not valid. -/
  | config (reason : String)
deriving DecidableEq, Inhabited, Repr

namespace RunError

/-- What is said about an error. -/
def message : RunError → String
  | io reason => "I/O error: " ++ reason
  | parser reason => "parser error: " ++ reason
  | config reason => "configuration error: " ++ reason

/-- What lies behind an error, if that is said apart. -/
def cause? : RunError → Option String
  | io reason => some reason
  | parser _ | config _ => none

/-- The error for a pattern that is not accepted. -/
def ofPattern (e : PatternError) : RunError := config e.message

/-- The error for a reference date that is not a date. -/
def ofReference (e : FormatError) : RunError :=
  config s!"invalid reference date '{e.input}' (expected format {e.expected}); use --date-format to change it"

end RunError

/-! ## Errors of files -/

/-- What kept a file from being scanned. -/
inductive ScanErrorKind where
  | parseFailed
  | unsupportedLanguage
  | encodingError
  | ioError
deriving DecidableEq, Inhabited, Repr

namespace ScanErrorKind

/-- The kind in words. -/
def description : ScanErrorKind → String
  | parseFailed => "parse failed"
  | unsupportedLanguage => "unsupported language"
  | encodingError => "encoding error"
  | ioError => "I/O error"

/-- The kind as a key in a report. -/
def key : ScanErrorKind → String
  | parseFailed => "parse_failed"
  | unsupportedLanguage => "unsupported_language"
  | encodingError => "encoding_error"
  | ioError => "io_error"

/-- Whether the file itself is at fault, and not the reading of it. -/
def isInputError : ScanErrorKind → Bool
  | parseFailed | unsupportedLanguage | encodingError => true
  | ioError => false

end ScanErrorKind

/-- An error that costs the run one file. -/
structure ScanError where
  path : Path
  kind : ScanErrorKind
  message : String
deriving DecidableEq, Inhabited, Repr

namespace ScanError

/-- A file whose text does not follow the grammar. -/
def parseFailed (path : Path) (message : String) : ScanError := ⟨path, .parseFailed, message⟩

/-- A file of no known language. -/
def unsupportedLanguage (path : Path) : ScanError :=
  ⟨path, .unsupportedLanguage,
    "unsupported extension: " ++ (path.extension?.map RawText.shown).getD "none"⟩

/-- A file whose bytes are not a text. -/
def encodingError (path : Path) : ScanError := ⟨path, .encodingError, "file is not valid UTF-8"⟩

/-- A file that could not be read. -/
def ioError (path : Path) (reason : String) : ScanError := ⟨path, .ioError, reason⟩

/-- The whole error in one line. -/
def description (e : ScanError) : String :=
  s!"{e.path.text}: {e.message} ({e.kind.description})"

end ScanError

end Overdue
