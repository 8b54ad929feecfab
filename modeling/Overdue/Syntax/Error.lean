/-
Where a text first goes wrong.

A node is at fault if it stands for text that fits nowhere or for a token that is not there. The
search for the first such node goes through the tree from left to right and leaves out the nodes
without errors in them.
-/
import Overdue.Syntax.Node

set_option autoImplicit false

namespace Overdue.Syntax

/-- Whether a node itself is at fault. -/
def NodeInfo.isFaulty (n : NodeInfo) : Bool := n.isError || n.isMissing

namespace Node

mutual

/-- The line of the first node at fault in a tree, looking only where there are errors. -/
def firstErrorLine : Node → Option Nat
  | ⟨info, children⟩ =>
    if info.isFaulty then some (info.row + 1)
    else if !info.hasError then none
    else firstErrorLines children

/-- The line of the first node at fault in a list of trees. -/
def firstErrorLines : List Node → Option Nat
  | [] => none
  | n :: ns =>
    match firstErrorLine n with
    | some line => some line
    | none => firstErrorLines ns

end

end Node

end Overdue.Syntax
