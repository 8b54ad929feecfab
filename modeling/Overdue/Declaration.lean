/-
Declarations, and which one a position belongs to.

A position belongs to the first declaration that covers it; a position that none covers belongs to the
first declaration that starts after it, since a comment documents what follows it. The order is that
of the list. This finds the nearest declaration, it does not analyse scopes.
-/

set_option autoImplicit false

namespace Overdue

/-- A named part of a source text: the bytes from `start` up to but not including `stop`. -/
structure Declaration where
  name : String
  start : Nat
  stop : Nat
deriving DecidableEq, Inhabited, Repr

namespace Declaration

/-- The name for positions that belong to no declaration. -/
def unknown : String := "<unknown>"

/-- Whether a declaration covers a position. -/
def contains (d : Declaration) (position : Nat) : Bool :=
  d.start ≤ position && position < d.stop

/-- The name of the declaration that a position belongs to. -/
def ownerOf (position : Nat) (declarations : List Declaration) : String :=
  match declarations.find? (·.contains position) with
  | some d => d.name
  | none =>
    match declarations.find? fun d => position < d.start with
    | some d => d.name
    | none => unknown

end Declaration

end Overdue
