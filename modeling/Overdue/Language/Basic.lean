/-
The languages whose sources are scanned.

A language is recognised by the extension of a file name, in upper or lower case.
-/

set_option autoImplicit false

namespace Overdue

/-- A language whose sources are scanned. -/
inductive Language where
  | go
  | rust
deriving DecidableEq, Inhabited, Repr

namespace Language

/-- All languages. -/
def known : List Language := [go, rust]

/-- The name of a language. -/
def name : Language → String
  | go => "go"
  | rust => "rust"

/-- The extensions of the files of a language. -/
def extensions : Language → List String
  | go => ["go"]
  | rust => ["rs"]

/-- The language of files with an extension. Extensions are compared in lower case; no character
beyond the basic ones has one of theirs as its lower case. -/
def ofExtension? (extension : String) : Option Language :=
  known.find? fun l => l.extensions.contains extension.toLower

end Language

end Overdue
