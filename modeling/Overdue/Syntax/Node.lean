/-
Syntax trees laid over their text.

A node has a kind, the bytes that it spans, the row that it starts on, and its children in the order of
the text. Only what shows is there: rules that merely group others are replaced by their children. A
node is laid out by walking over the text from left to right and spending it on the leaves one after
the other, so siblings are in order and apart, and lie within their parent, by construction.
-/
import Overdue.Syntax.Parser

set_option autoImplicit false

namespace Overdue.Syntax

/-! ## Nodes -/

/-- What a node of a syntax tree says of itself. -/
structure NodeInfo where
  kind : String
  /-- Whether the node stands for something the grammar has a name for, rather than for a spelling. -/
  named : Bool
  /-- The name under which the parent knows the node. -/
  field : Option String
  /-- The offset of the first byte. -/
  start : Nat
  /-- The offset after the last byte. -/
  stop : Nat
  /-- The row of the first byte, from 0. -/
  row : Nat
  /-- Whether the node is text that fits nowhere. -/
  isError : Bool
  /-- Whether the node is a token that is not in the text. -/
  isMissing : Bool
  /-- Whether there was an error anywhere in the node. -/
  hasError : Bool
deriving Inhabited

/-- A node of a syntax tree. -/
structure Node extends NodeInfo where
  children : List Node
deriving Inhabited

/-! ## Laying a tree over its text -/

/-- Where laying out has come to: the nodes so far, the last one first; the place in the text; and the
place of the first leaf. -/
structure Layout where
  nodes : List Node
  place : Cursor
  first : Option Cursor

/-- The kind of a label, and whether it is named. -/
def Label.display (t : Tables) : Label → Display
  | .token i =>
    match t.tokens[i]? with
    | some info => ⟨info.kind, info.named⟩
    | none => ⟨"", false⟩
  | .rule i _ =>
    let info := t.rules.getD i default
    ⟨info.kind, info.named⟩
  | .error => ⟨"ERROR", true⟩
  | .skipped => ⟨"ERROR", false⟩

/-- The places of the production that a label was derived by. -/
def Label.steps (t : Tables) : Label → List Step
  | .rule _ p => ((t.productions[p]?).map (·.steps)).getD []
  | _ => []

mutual

/-- Lays a tree over the text at a place. `display` is the kind its parent gives it, `field` the name
its parent knows it by. A tree that does not show passes its own nodes on. -/
def layTree (t : Tables) (display : Option Display) (field : Option String) :
    Tree → Layout → Layout
  | .node s parts, before =>
    let shown := display.isSome || s.visible
    let inner : Layout := match parts with
      | [] =>
        let start := before.place.advance s.padding
        { nodes := [], place := start.advance s.size, first := some start }
      | _ :: _ =>
        layParts t (if shown then none else field) (s.label.steps t) parts
          { nodes := [], place := before.place, first := none }
    let first := inner.first.getD before.place
    let nodes :=
      if shown then
        let d := display.getD (s.label.display t)
        { kind := d.kind, named := d.named, field, start := first.bytes, stop := inner.place.bytes
          row := first.row, isError := s.label == .error, isMissing := s.missing
          hasError := s.cost > 0, children := inner.nodes.reverse } :: before.nodes
      else inner.nodes ++ before.nodes
    { nodes, place := inner.place, first := before.first.or inner.first }

/-- Lays trees over the text, one after the other. Trees that may stand anywhere take no place of the
production; `field` is the name for those whose place has none. -/
def layParts (t : Tables) (field : Option String) : List Step → List Tree → Layout → Layout
  | _, [], before => before
  | steps, tree :: rest, before =>
    if tree.extra then layParts t field steps rest (layTree t none none tree before)
    else
      match steps with
      | [] => layParts t field [] rest (layTree t none field tree before)
      | step :: steps =>
        layParts t field steps rest
          (layTree t step.display (step.field.or field) tree before)

end

/-- The syntax tree of a text. -/
def parse (t : Tables) (text : String) : Option Node :=
  let chars := text.toList
  match parseTree t chars with
  | none => none
  | some tree =>
    (layTree t none none tree { nodes := [], place := ⟨0, 0, chars⟩, first := none }).nodes.head?

/-! ## Reading a tree -/

namespace Node

/-- The first child that is known by a name. -/
def child? (n : Node) (field : String) : Option Node :=
  n.children.find? fun c => c.field == some field

/-- The children that the grammar has names for. -/
def namedChildren (n : Node) : List Node :=
  n.children.filter (·.named)

mutual

/-- The number of nodes in a tree. -/
def weight : Node → Nat
  | ⟨_, children⟩ => 1 + weights children

/-- The number of nodes in a list of trees. -/
def weights : List Node → Nat
  | [] => 0
  | n :: ns => n.weight + weights ns

end

/-- The text of a node, if its span is a text at all. -/
def text? (source : ByteArray) (n : Node) : Option String :=
  String.fromUTF8? (source.extract n.start n.stop)

/-- The text of the child known as `name`. -/
def name? (source : ByteArray) (n : Node) : Option String :=
  (n.child? "name").bind (·.text? source)

end Node

end Overdue.Syntax
