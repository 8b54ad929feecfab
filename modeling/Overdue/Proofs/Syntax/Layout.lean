/-
Nodes in the order of the text.

Laying a tree over its text spends the text on the leaves from left to right. So the nodes that come out
stand one behind the other, children lie within their parent, and all of it ends where the tree ends.
Nothing here depends on the tables or on how the tree was found: any tree at all is laid out this way.

A list of nodes is laid out between two offsets (`Node.AreLaid`) if each starts where the last one stopped
or later, and its children are laid out between its own start and stop.
-/
import Overdue.Syntax.Node

set_option autoImplicit false

namespace Overdue.Syntax

/-! ## Nodes that are laid out -/

mutual

/-- The children of a node, and theirs, stand in order within their parents. -/
def Node.IsLaid : Node → Prop
  | ⟨info, children⟩ => Node.AreLaid info.start info.stop children

/-- Nodes stand in order between two offsets. -/
def Node.AreLaid (start stop : Nat) : List Node → Prop
  | [] => start ≤ stop
  | n :: ns => start ≤ n.start ∧ n.IsLaid ∧ Node.AreLaid n.stop stop ns

end

namespace Node

theorem isLaid_iff (n : Node) : n.IsLaid ↔ AreLaid n.start n.stop n.children := by
  obtain ⟨info, children⟩ := n
  rw [IsLaid]

mutual

/-- A node that lies in place does not stop before it starts. -/
theorem IsLaid.start_le_stop (n : Node) (h : n.IsLaid) : n.start ≤ n.stop := by
  obtain ⟨info, children⟩ := n
  rw [IsLaid] at h
  exact AreLaid.start_le_stop children h

/-- Nodes that lie in place do not stop before they start. -/
theorem AreLaid.start_le_stop {start stop : Nat} (ns : List Node) (h : AreLaid start stop ns) :
    start ≤ stop := by
  cases ns with
  | nil => exact h
  | cons n ns =>
    rw [AreLaid] at h
    obtain ⟨hstart, hn, hns⟩ := h
    have hspan := IsLaid.start_le_stop n hn
    have hrest := AreLaid.start_le_stop ns hns
    omega

end

theorem areLaid_singleton {n : Node} (h : n.IsLaid) : AreLaid n.start n.stop [n] := by
  rw [AreLaid, AreLaid]
  exact ⟨Nat.le_refl _, h, Nat.le_refl _⟩

/-- Nodes behind others lie in place, with a gap or none between them. -/
theorem AreLaid.append {start middle middle' stop : Nat} {ns ms : List Node}
    (hns : AreLaid start middle ns) (hgap : middle ≤ middle') (hms : AreLaid middle' stop ms) :
    AreLaid start stop (ns ++ ms) := by
  induction ns generalizing start with
  | nil =>
    have hstart : start ≤ middle := hns
    cases ms with
    | nil =>
      have hstop : middle' ≤ stop := hms
      exact Nat.le_trans hstart (Nat.le_trans hgap hstop)
    | cons m ms =>
      rw [AreLaid] at hms
      rw [List.nil_append, AreLaid]
      exact ⟨by omega, hms.2⟩
  | cons n ns ih =>
    rw [AreLaid] at hns
    rw [List.cons_append, AreLaid]
    exact ⟨hns.1, hns.2.1, ih hns.2.2⟩

/-- Each of some nodes in order is laid out itself and lies between the two offsets. -/
theorem AreLaid.of_mem {start stop : Nat} {ns : List Node} (h : AreLaid start stop ns) {n : Node}
    (hn : n ∈ ns) : n.IsLaid ∧ start ≤ n.start ∧ n.stop ≤ stop := by
  induction ns generalizing start with
  | nil => cases hn
  | cons m ms ih =>
    rw [AreLaid] at h
    obtain ⟨hstart, hm, hms⟩ := h
    rcases List.mem_cons.mp hn with rfl | hn
    · exact ⟨hm, hstart, AreLaid.start_le_stop ms hms⟩
    · obtain ⟨hlaid, hlower, hupper⟩ := ih hms hn
      have hspan := IsLaid.start_le_stop m hm
      exact ⟨hlaid, by omega, hupper⟩

end Node

/-! ## Laying out -/

/-- What laying trees over a text from a place on adds to what there was: nodes in order, from the first
leaf up to where it comes to. -/
structure Layout.Extends (before after : Layout) (nodes : List Node) (first : Cursor) : Prop where
  nodes_eq : after.nodes = nodes.reverse ++ before.nodes
  first_eq : after.first = before.first.or (some first)
  place_le : before.place.bytes ≤ first.bytes
  laid : Node.AreLaid first.bytes after.place.bytes nodes

/-- What extends a layout further extends it. -/
theorem Layout.Extends.trans {l₁ l₂ l₃ : Layout} {ns ms : List Node} {c d : Cursor}
    (h₁ : Layout.Extends l₁ l₂ ns c) (h₂ : Layout.Extends l₂ l₃ ms d) :
    Layout.Extends l₁ l₃ (ns ++ ms) c where
  nodes_eq := by rw [h₂.nodes_eq, h₁.nodes_eq, List.reverse_append, List.append_assoc]
  first_eq := by rw [h₂.first_eq, h₁.first_eq, Option.or_assoc, Option.some_or]
  place_le := h₁.place_le
  laid := h₁.laid.append h₂.place_le h₂.laid

/-- A tree shows as one node over what was laid out for it, or passes that on. -/
theorem Layout.Extends.enclose {before inner after : Layout} {ns : List Node} {c : Cursor}
    {info : NodeInfo} {shown : Bool} (h : Layout.Extends ⟨[], before.place, none⟩ inner ns c)
    (hafter : after =
      { nodes := if shown then ⟨info, inner.nodes.reverse⟩ :: before.nodes
          else inner.nodes ++ before.nodes
        place := inner.place, first := before.first.or inner.first })
    (hstart : info.start = (inner.first.getD before.place).bytes)
    (hstop : info.stop = inner.place.bytes) :
    ∃ nodes first, Layout.Extends before after nodes first := by
  have hnodes : inner.nodes = ns.reverse := by rw [h.nodes_eq, List.append_nil]
  have hfirst : inner.first = some c := by rw [h.first_eq, Option.none_or]
  rw [hfirst, Option.getD_some] at hstart
  subst hafter
  -- Both ways the leaves are the same; only who holds their nodes differs.
  cases shown with
  | false => exact ⟨ns, c, by rw [hnodes]; rfl, by rw [hfirst], h.place_le, h.laid⟩
  | true =>
    refine ⟨[⟨info, ns⟩], c, by rw [hnodes, List.reverse_reverse]; rfl, by rw [hfirst], h.place_le, ?_⟩
    have hnode : Node.IsLaid ⟨info, ns⟩ := by
      rw [Node.isLaid_iff, hstart, hstop]
      exact h.laid
    rw [← hstart, ← hstop]
    exact Node.areLaid_singleton hnode

/-- Trees are laid out one after the other, each under the display of its place, if it has one, and under
some name. -/
theorem layParts_cons (t : Tables) (field : Option String) (steps : List Step) (tree : Tree)
    (rest : List Tree) (before : Layout) :
    ∃ display field' steps', layParts t field steps (tree :: rest) before =
      layParts t field steps' rest (layTree t display field' tree before) ∧
      (display = none ∨ ∃ step ∈ steps, step.display = display) ∧ ∀ step ∈ steps', step ∈ steps := by
  cases steps with
  | nil =>
    simp only [layParts]
    split <;> exact ⟨_, _, _, rfl, .inl rfl, fun _ h => h⟩
  | cons step steps =>
    simp only [layParts]
    split
    · exact ⟨_, _, _, rfl, .inl rfl, fun _ h => h⟩
    · exact ⟨_, _, _, rfl, .inr ⟨step, List.mem_cons_self, rfl⟩, fun _ h => List.mem_cons_of_mem step h⟩

mutual

/-- Every tree adds nodes in order. -/
theorem layTree_extends (t : Tables) (display : Option Display) (field : Option String) (tree : Tree)
    (before : Layout) :
    ∃ nodes first, Layout.Extends before (layTree t display field tree before) nodes first := by
  obtain ⟨s, parts⟩ := tree
  cases parts with
  | nil =>
    -- A leaf takes its padding and its size off the text and has no nodes inside.
    let start := before.place.advance s.padding
    have hleaf : Layout.Extends ⟨[], before.place, none⟩ ⟨[], start.advance s.size, some start⟩ [] start :=
      ⟨rfl, rfl, Nat.le_add_right .., Nat.le_add_right ..⟩
    exact hleaf.enclose (by rw [layTree]) rfl rfl
  | cons part parts =>
    obtain ⟨ns, first, hparts⟩ := layParts_extends t (if display.isSome || s.visible then none else field)
      (s.label.steps t) (part :: parts) (List.cons_ne_nil _ _) ⟨[], before.place, none⟩
    exact hparts.enclose (by rw [layTree]) rfl rfl

/-- So do trees one after the other. -/
theorem layParts_extends (t : Tables) (field : Option String) (steps : List Step) (parts : List Tree)
    (hparts : parts ≠ []) (before : Layout) :
    ∃ nodes first, Layout.Extends before (layParts t field steps parts before) nodes first := by
  cases parts with
  | nil => exact absurd rfl hparts
  | cons tree rest =>
    obtain ⟨display, field', steps', hlay, -⟩ := layParts_cons t field steps tree rest before
    obtain ⟨ns, c, htree⟩ := layTree_extends t display field' tree before
    rw [hlay]
    -- The last tree is a case of its own, since no trees at all have no first leaf.
    by_cases hrest : rest = []
    · rw [hrest, layParts]
      exact ⟨ns, c, htree⟩
    · obtain ⟨ms, d, hms⟩ :=
        layParts_extends t field steps' rest hrest (layTree t display field' tree before)
      exact ⟨ns ++ ms, c, htree.trans hms⟩

end

/-! ## Where a tree ends -/

mutual

/-- The number of bytes that a tree takes when it is laid out. -/
def Tree.span : Tree → Nat
  | .node s parts =>
    match parts with
    | [] => s.padding.bytes + s.size.bytes
    | part :: parts => part.span + Tree.spans parts

/-- The number of bytes that trees take one after the other. -/
def Tree.spans : List Tree → Nat
  | [] => 0
  | tree :: rest => tree.span + Tree.spans rest

end

/-- A node spans what its parts do. -/
theorem Tree.span_node (s : Summary) {parts : List Tree} (h : parts ≠ []) :
    (Tree.node s parts).span = Tree.spans parts := by
  cases parts with
  | nil => exact absurd rfl h
  | cons part parts => rw [Tree.span, Tree.spans]

mutual

/-- Laying out a tree goes on by its span. -/
theorem place_layTree (t : Tables) (display : Option Display) (field : Option String) (tree : Tree)
    (before : Layout) :
    (layTree t display field tree before).place.bytes = before.place.bytes + tree.span := by
  obtain ⟨s, parts⟩ := tree
  cases parts with
  | nil =>
    rw [layTree, Tree.span]
    exact Nat.add_assoc ..
  | cons part parts =>
    rw [layTree, Tree.span_node s (List.cons_ne_nil _ _)]
    exact place_layParts t _ _ (part :: parts) _

/-- Laying out parts goes on by their span. -/
theorem place_layParts (t : Tables) (field : Option String) (steps : List Step) (parts : List Tree)
    (before : Layout) :
    (layParts t field steps parts before).place.bytes = before.place.bytes + Tree.spans parts := by
  cases parts with
  | nil =>
    rw [layParts, Tree.spans]
    rfl
  | cons tree rest =>
    obtain ⟨display, field', steps', hlay, -⟩ := layParts_cons t field steps tree rest before
    rw [hlay, place_layParts t field steps' rest, place_layTree t display field' tree, Tree.spans,
      Nat.add_assoc]

end

/-- The last of some nodes that are laid out from the start of a text is laid out, and ends within what
their tree takes. -/
theorem head?_layTree {t : Tables} {tree : Tree} {start : Cursor} {root : Node} (hstart : start.bytes = 0)
    (h : (layTree t none none tree ⟨[], start, none⟩).nodes.head? = some root) :
    root.IsLaid ∧ root.stop ≤ tree.span := by
  -- The root is the node that was laid out last, so it comes first in the reversed list.
  obtain ⟨nodes, first, hlaid⟩ := layTree_extends t none none tree ⟨[], start, none⟩
  have hplace := place_layTree t none none tree ⟨[], start, none⟩
  rw [hlaid.nodes_eq, List.append_nil] at h
  obtain ⟨hroot, -, hstop⟩ := hlaid.laid.of_mem (List.mem_reverse.mp (List.mem_of_head? h))
  rw [hplace] at hstop
  dsimp only at hstop
  exact ⟨hroot, by omega⟩

theorem parse_of_none {t : Tables} {text : String} (h : parseTree t text.toList = none) :
    parse t text = none := by
  unfold parse
  dsimp only
  rw [h]

/-- What is parsed is the layout of the tree. -/
theorem parse_of_some {t : Tables} {text : String} {tree : Tree}
    (h : parseTree t text.toList = some tree) :
    parse t text = (layTree t none none tree ⟨[], ⟨0, 0, text.toList⟩, none⟩).nodes.head? := by
  unfold parse
  dsimp only
  rw [h]

/-- The root of a syntax tree is laid out, and ends within what its tree takes. -/
theorem parse_eq_some {t : Tables} {text : String} {root : Node} (h : parse t text = some root) :
    ∃ tree, parseTree t text.toList = some tree ∧ root.IsLaid ∧ root.stop ≤ tree.span := by
  cases htree : parseTree t text.toList with
  | none =>
    rw [parse_of_none htree] at h
    cases h
  | some tree =>
    rw [parse_of_some htree] at h
    obtain ⟨hroot, hstop⟩ := head?_layTree rfl h
    exact ⟨tree, rfl, hroot, hstop⟩

end Overdue.Syntax
