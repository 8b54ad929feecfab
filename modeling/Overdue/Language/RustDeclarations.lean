/-
The declarations of a Rust file.

Items go by their names. An `impl`, `trait` or `mod` contributes its members instead of itself, at any
depth, so that a position in a method belongs to the method; one without named members stands for
itself.
-/
import Overdue.Declaration
import Overdue.Syntax.Node

set_option autoImplicit false

namespace Overdue.Language.Rust

open Overdue.Syntax

/-- The kinds of items that only stand for themselves. -/
def plainKinds : List String := ["function_item", "function_signature_item", "struct_item",
  "enum_item", "union_item", "const_item", "static_item", "type_item", "associated_type",
  "macro_definition"]

/-- The kinds of items that contribute their members. -/
def containerKinds : List String := ["trait_item", "mod_item", "impl_item"]

/-- The name of the type that an `impl` is for, without its arguments. -/
def implementedType? (source : ByteArray) (n : Node) : Option String :=
  match n.child? "type" with
  | none => none
  | some type =>
    if type.kind = "generic_type" then (type.child? "type").bind (·.text? source)
    else type.text? source

/-- The name that a container goes by when it stands for itself. -/
def containerName? (source : ByteArray) (n : Node) : Option String :=
  if n.kind = "impl_item" then implementedType? source n else n.name? source

/-- Adds a node to the declarations found so far, if it has a name. -/
def addNamed (n : Node) (name? : Option String) (found : Array Declaration) : Array Declaration :=
  match name? with
  | some name => found.push ⟨name, n.start, n.stop⟩
  | none => found

mutual

/-- Adds what an item contributes to the declarations found so far. -/
def collectItem (source : ByteArray) : Node → Array Declaration → Array Declaration
  | ⟨info, children⟩, found =>
    if plainKinds.contains info.kind then
      addNamed ⟨info, children⟩ (Node.name? source ⟨info, children⟩) found
    else if containerKinds.contains info.kind then
      let before := found.size
      let found := collectBodies source children found
      if found.size > before then found
      else addNamed ⟨info, children⟩ (containerName? source ⟨info, children⟩) found
    else found

/-- Adds what the items among some nodes contribute. -/
def collectItems (source : ByteArray) : List Node → Array Declaration → Array Declaration
  | [], found => found
  | n :: ns, found =>
    collectItems source ns (if n.named then collectItem source n found else found)

/-- Adds what the items in the bodies among some nodes contribute. -/
def collectBodies (source : ByteArray) : List Node → Array Declaration → Array Declaration
  | [], found => found
  | ⟨info, children⟩ :: ns, found =>
    collectBodies source ns
      (if info.named && info.kind == "declaration_list" then collectItems source children found
       else found)

end

/-- The declarations of a file, in order. -/
def declarations (source : ByteArray) (root : Node) : List Declaration :=
  (collectItems source root.children #[]).toList

/-- The kinds of the comments of a file. -/
def commentKinds : List String := ["line_comment", "block_comment"]

end Overdue.Language.Rust
