/-
The vocabulary in which the grammar of a programming language is written down.

A grammar is a list of definitions. A definition either describes a token, by the characters that
make it up, or gives a rule: a small expression over tokens and other definitions with sequence,
choice and repetition. On top of that, a rule says three things about the tree that is built for it:
which of its parts can be asked for by name (`field`), which parts show under another kind than their
own (`shownAs`), and, where the grammar alone would be ambiguous, which reading binds tighter
(`prec`).

Nothing is parsed here. `Syntax.Production` turns a grammar into flat productions, and
`Syntax.Automaton` reads those.
-/
import Overdue.Syntax.Pattern

set_option autoImplicit false

namespace Overdue.Syntax

/-! ## Tokens -/

/-- How a token is described. -/
inductive Shape where
  /-- By its text. -/
  | spelled (text : String)
  /-- By a pattern. -/
  | pattern (pattern : Pattern)
deriving DecidableEq, Hashable, Inhabited

/-- A token: what it looks like, and what decides between it and others. -/
structure Lexeme where
  shape : Shape
  /-- The token may not be preceded by blanks. -/
  immediate : Bool := false
  /-- Among tokens that fit, one of higher priority wins even if it is shorter. -/
  priority : Int := 0
deriving DecidableEq, Hashable, Inhabited

/-! ## Rules -/

/-- Which way a chain of equally strong operators leans. -/
inductive Assoc where
  | left
  | right
deriving DecidableEq, Hashable, Repr

/-- The right-hand side of a definition. -/
inductive Rule where
  /-- Nothing at all. -/
  | blank
  /-- A token without a definition of its own. -/
  | token (lexeme : Lexeme)
  /-- Another definition. -/
  | ref (name : String)
  /-- One after the other. -/
  | seq (first second : Rule)
  /-- Either of the two. -/
  | choice (first second : Rule)
  /-- The body, once or more often. -/
  | repeat1 (body : Rule)
  /-- How tightly the body binds, and which way it leans. -/
  | prec (level : Int) (assoc : Option Assoc) (body : Rule)
  /-- A preference between two readings that both fit the whole text. -/
  | favour (weight : Int) (body : Rule)
  /-- A part that can be asked for by name. -/
  | field (name : String) (body : Rule)
  /-- A part that shows in the tree under another kind. -/
  | shownAs (kind : String) (named : Bool) (body : Rule)
deriving DecidableEq, Hashable, Inhabited

namespace Rule

/-- A token that is always spelled this way. -/
def text (spelling : String) : Rule := token { shape := .spelled spelling }

/-- The rules of a list, one after the other. -/
def all : List Rule → Rule
  | [] => blank
  | [r] => r
  | r :: rs => seq r (all rs)

/-- Any one of the rules of a list. -/
def any : List Rule → Rule
  | [] => blank
  | [r] => r
  | r :: rs => choice r (any rs)

/-- Any one of the spellings of a list. -/
def texts (spellings : List String) : Rule :=
  any (spellings.map text)

/-- The body or nothing. -/
def opt (body : Rule) : Rule :=
  choice body blank

/-- The body any number of times. -/
def many (body : Rule) : Rule :=
  opt (repeat1 body)

/-- The body once or more often, with a separator between two of them. -/
def sepBy1 (separator body : Rule) : Rule :=
  seq body (many (seq separator body))

/-- The body any number of times, with a separator between two of them. -/
def sepBy (separator body : Rule) : Rule :=
  opt (sepBy1 separator body)

/-- A rule between braces. -/
def braces (inner : Rule) : Rule :=
  all [text "\x7b", inner, text "\x7d"]

/-- The tokens that occur in a rule, from left to right. -/
def lexemes : Rule → List Lexeme
  | blank | ref _ => []
  | token t => [t]
  | seq a b | choice a b => a.lexemes ++ b.lexemes
  | repeat1 a | prec _ _ a | favour _ a | field _ a | shownAs _ _ a => a.lexemes

/-- The bodies of the repetitions in a rule, the inner ones before the outer ones. -/
def repeated : Rule → List Rule
  | blank | ref _ | token _ => []
  | seq a b | choice a b => a.repeated ++ b.repeated
  | repeat1 a => a.repeated ++ [a]
  | prec _ _ a | favour _ a | field _ a | shownAs _ _ a => a.repeated

end Rule

/-- A definition of a grammar. -/
inductive Definition where
  | rule (body : Rule)
  | token (lexeme : Lexeme)

/-! ## Tokens beyond patterns -/

/-- A token that a scanner found. -/
structure Scanned where
  /-- Which of the scanner's tokens it is. -/
  token : Nat
  /-- How many characters before the token are blank. -/
  skipped : Nat
  /-- How many characters the token has. -/
  length : Nat
  /-- What the scanner remembers after the token. -/
  memory : Nat

/-- A scanner finds tokens that no pattern describes, such as comments that nest. It is told which of
its tokens can come next and what it remembered last, and looks at the text ahead. -/
abbrev Scanner := (Nat → Bool) → Nat → List Char → Option Scanned

/-! ## Grammars -/

/-- A grammar: its definitions in order, the first of them being the whole text. -/
structure Grammar where
  definitions : List (String × Definition)
  /-- The tokens of the scanner. -/
  scannerTokens : List String
  scanner : Scanner
  /-- The definitions that may stand anywhere, such as comments. -/
  extras : List String
  /-- The token that keywords are special cases of. -/
  word : String
  /-- The rules that are replaced by their bodies wherever they are used. -/
  inlined : List String
  /-- The rules that only group others, but are kept as a level of their own. -/
  groups : List String

/-- A definition whose name starts with an underscore does not show in the tree. -/
def isHidden (name : String) : Bool :=
  name.startsWith "_"

end Overdue.Syntax
