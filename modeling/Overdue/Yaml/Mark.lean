/-
Places in a configuration text, and what can be wrong there.

A fault names what is wrong and where, and may name what was being read and where that began. A place is
left out of the message if it is the start of the text, and the second one also if it is the first one.
-/

set_option autoImplicit false

namespace Overdue.Yaml

/-- A place in a text: the number of characters before it, its line and its column, all from zero. -/
structure Mark where
  index : Nat := 0
  line : Nat := 0
  column : Nat := 0
deriving DecidableEq, Inhabited, Repr

namespace Mark

/-- Whether a place is the first column of the first line. -/
def isStart (m : Mark) : Bool := m.line == 0 && m.column == 0

/-- Whether two places are the same line and column. -/
def isSamePlace (m n : Mark) : Bool := m.line == n.line && m.column == n.column

/-- The place in words, in front of which a message may stand; the start of the text is not named. -/
def suffix (m : Mark) : String :=
  if m.isStart then "" else s!" at line {m.line + 1} column {m.column + 1}"

end Mark

/-- What is wrong with a text. -/
structure Fault where
  problem : String
  mark : Mark := {}
  /-- The number of bytes before the problem, where there is no mark. -/
  offset : Nat := 0
  /-- What was being read, and where that began. -/
  context : Option (String × Mark) := none
deriving DecidableEq, Inhabited, Repr

/-- What is said about a fault. -/
def Fault.message (f : Fault) : String :=
  let place :=
    if f.mark.isStart && f.offset != 0 then s!" at position {f.offset}" else f.mark.suffix
  let context :=
    match f.context with
    | none => ""
    | some (text, mark) =>
      if mark.isSamePlace f.mark then ", " ++ text else ", " ++ text ++ mark.suffix
  f.problem ++ place ++ context

end Overdue.Yaml
