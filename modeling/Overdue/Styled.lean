/-
Styled text.

Everything that a run writes for people is a list of pieces, each with a style. Whether the styles show
depends on where the text goes, so they are written out last: not at all, as one control sequence for
all codes of a style, or as one control sequence for each code.
-/

set_option autoImplicit false

namespace Overdue

/-! ## Styles -/

/-- The codes by which a terminal is told how to show a text. Without codes it is shown plain. -/
structure Style where
  codes : List Nat
deriving DecidableEq, Inhabited, Repr

namespace Style

/-- No style. -/
def plain : Style := ⟨[]⟩

/-- Heavy letters. -/
def bold : Style := ⟨[1]⟩

/-- Faint letters. -/
def dim : Style := ⟨[2]⟩

/-- Slanted letters. -/
def italic : Style := ⟨[3]⟩

/-- Underlined letters. -/
def underline : Style := ⟨[4]⟩

/-- Red letters. -/
def red : Style := ⟨[31]⟩

/-- Green letters. -/
def green : Style := ⟨[32]⟩

/-- Yellow letters. -/
def yellow : Style := ⟨[33]⟩

/-- Blue letters. -/
def blue : Style := ⟨[34]⟩

/-- Purple letters. -/
def purple : Style := ⟨[35]⟩

/-- Cyan letters. -/
def cyan : Style := ⟨[36]⟩

/-- Two styles together. -/
def also (s t : Style) : Style := ⟨s.codes ++ t.codes⟩

end Style

/-! ## Text in pieces -/

/-- A text in one style. -/
structure Piece where
  style : Style
  text : String
deriving DecidableEq, Inhabited, Repr

/-- A text of which each piece has a style. -/
abbrev Styled := List Piece

/-- How styles are written out. -/
inductive Coloring where
  /-- Not at all. -/
  | off
  /-- One control sequence with all codes of a style. If the text itself ends all styles, its own begins
  again behind that. -/
  | joined
  /-- One control sequence for each code of a style. -/
  | stacked
deriving DecidableEq, Inhabited, Repr

/-- A text in a style. -/
def Style.paint (style : Style) (text : String) : Piece := ⟨style, text⟩

/-- A text without style. -/
def plain (text : String) : Piece := ⟨.plain, text⟩

/-- The control sequence for a code, or for several that are separated by semicolons. -/
def controlSequence (code : String) : String := "\x1b[" ++ code ++ "m"

namespace Coloring

/-- What is written to begin a style. -/
def opening (c : Coloring) (s : Style) : String :=
  match c with
  | off => ""
  | joined => controlSequence (";".intercalate (s.codes.map Nat.repr))
  | stacked => String.join (s.codes.map fun code => controlSequence code.repr)

/-- What is written to end all styles. -/
def closing : String := controlSequence "0"

/-- A text with an addition behind each place where it ends all styles. -/
def resume (addition : List Char) : List Char → List Char
  | '\x1b' :: '[' :: '0' :: 'm' :: cs => '\x1b' :: '[' :: '0' :: 'm' :: addition ++ resume addition cs
  | c :: cs => c :: resume addition cs
  | [] => []

/-- The text of a piece as it is written between the beginning and the end of its style. -/
def body (c : Coloring) (p : Piece) : String :=
  match c with
  | joined => String.ofList (resume (c.opening p.style).toList p.text.toList)
  | off | stacked => p.text

/-- A piece as it is written. -/
def renderPiece (c : Coloring) (p : Piece) : String :=
  if c = off ∨ p.style = Style.plain then p.text else c.opening p.style ++ c.body p ++ closing

/-- A text as it is written. -/
def render (c : Coloring) (t : Styled) : String := String.join (t.map c.renderPiece)

end Coloring

end Overdue
