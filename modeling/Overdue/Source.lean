/-
What a source text contributes to a scan: its declarations and its comments.

A text is parsed by the grammar of its language. A text that is not derived by the grammar contributes
nothing but the line where it first goes wrong, and a text without a tree not even that. The parser gives up on a tree
only at the bound on its turns, and then a failure of the parser is reported and no line.
-/
import Overdue.Language.Basic
import Overdue.Language.GoDeclarations
import Overdue.Language.GoGrammar
import Overdue.Language.RustDeclarations
import Overdue.Language.RustGrammar
import Overdue.Syntax.Error
import Overdue.Syntax.Walk

set_option autoImplicit false

namespace Overdue

open Overdue.Syntax

/-- A comment: the offset of its first byte, its line from 1 on, and its text with the marks that
make it a comment. -/
structure Comment where
  start : Nat
  line : Nat
  text : String
deriving DecidableEq, Inhabited, Repr

/-- The declarations and comments of a source text, each in order. -/
structure Source where
  declarations : List Declaration
  comments : List Comment
deriving DecidableEq, Inhabited, Repr

/-- Why a text contributes nothing. -/
inductive SyntaxError where
  /-- The grammar does not derive the text: the line near which it goes wrong. -/
  | near (line : Nat)
  /-- There is no tree of the text. -/
  | noTree (language : Language)
deriving DecidableEq, Inhabited, Repr

/-- What is said about a text that contributes nothing. -/
def SyntaxError.message : SyntaxError → String
  | near line => "syntax error near line " ++ toString line
  | noTree language => "parser error: failed to parse " ++ language.name ++ " source"

namespace Language

/-- The tables of a language. -/
def tables : Language → Tables
  | go => Go.tables.get
  | rust => Rust.tables.get

/-- The kinds of the comments of a language. -/
def commentKinds : Language → List String
  | go => Go.commentKinds
  | rust => Rust.commentKinds

/-- The declarations in a tree. -/
def declarations : Language → ByteArray → Node → List Declaration
  | go => Go.declarations
  | rust => Rust.declarations

end Language

namespace Source

/-- The comments in a tree. -/
def commentsOf (kinds : List String) (source : ByteArray) (root : Node) : List Comment :=
  (Walk.find (fun n => kinds.contains n.kind) root).filterMap fun n =>
    (n.text? source).map fun text => ⟨n.start, n.row + 1, text⟩

/-- What a tree contributes. -/
def ofTree (language : Language) (source : ByteArray) (root : Node) : Source :=
  { declarations := language.declarations source root
    comments := commentsOf language.commentKinds source root }

/-- What a text contributes by given tables of its language, or why it contributes nothing. An error that
does not show in the tree is reported on the first line. -/
def readWith (tables : Tables) (language : Language) (text : String) : Except SyntaxError Source :=
  match parse tables text with
  | none => .error (.noTree language)
  | some root =>
    if root.hasError then .error (.near (root.firstErrorLine.getD 1))
    else .ok (ofTree language text.toUTF8 root)

/-- What a text contributes, or why it contributes nothing. -/
def read (language : Language) (text : String) : Except SyntaxError Source :=
  readWith language.tables language text

end Source

/-! ## Readers -/

/-- A reader of texts, which keeps the tables of every language that it has met. -/
structure Reader where
  prepared : List (Language × Tables) := []

namespace Reader

/-- The tables of a language, and the reader that keeps them. -/
def tablesFor (r : Reader) (language : Language) : Tables × Reader :=
  match r.prepared.lookup language with
  | some tables => (tables, r)
  | none => (language.tables, ⟨(language, language.tables) :: r.prepared⟩)

/-- What a text contributes, or why it contributes nothing, and the reader for the next text. -/
def read (r : Reader) (language : Language) (text : String) : Except SyntaxError Source × Reader :=
  let (tables, r) := r.tablesFor language
  (Source.readWith tables language text, r)

end Reader

end Overdue
