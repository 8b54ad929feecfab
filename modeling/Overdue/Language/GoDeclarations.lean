/-
The declarations of a Go file.

Only what stands at the top level counts. A function or method goes by its own name; a group of types,
constants or variables goes by the name of its first member. Imports and the package clause have no
name.
-/
import Overdue.Declaration
import Overdue.Syntax.Node

set_option autoImplicit false

namespace Overdue.Language.Go

open Overdue.Syntax

/-- The kinds of the members of a group. -/
def specKinds : List String := ["type_spec", "type_alias", "const_spec", "var_spec"]

mutual

/-- The name of the first member in a node: its own if it is a member, else that of the first member
among its named children. -/
def specName? (source : ByteArray) : Node → Option String
  | ⟨info, children⟩ =>
    if specKinds.contains info.kind then Node.name? source ⟨info, children⟩
    else firstSpecName? source children

/-- The name of the first member among the named nodes of a list. -/
def firstSpecName? (source : ByteArray) : List Node → Option String
  | [] => none
  | n :: ns =>
    if n.named then
      match specName? source n with
      | some name => some name
      | none => firstSpecName? source ns
    else firstSpecName? source ns

end

/-- The name that a top-level node goes by, if it is a declaration. -/
def declaredName? (source : ByteArray) (n : Node) : Option String :=
  if n.kind = "function_declaration" ∨ n.kind = "method_declaration" then n.name? source
  else if n.kind = "type_declaration" ∨ n.kind = "const_declaration"
      ∨ n.kind = "var_declaration" then
    firstSpecName? source n.children
  else none

/-- The declarations of a file, in order. -/
def declarations (source : ByteArray) (root : Node) : List Declaration :=
  root.namedChildren.filterMap fun n =>
    (declaredName? source n).map fun name => ⟨name, n.start, n.stop⟩

/-- The kinds of the comments of a file. -/
def commentKinds : List String := ["comment"]

end Overdue.Language.Go
