/-
Nodes and the trees that they show.

A tree that fits at a place is laid out from there, and every node that comes out shows one of the trees in it:
it starts where the first leaf of that tree starts and stops where the tree ends, and the place from which
that tree is laid out is a place of the text where it fits. So offsets and rows of nodes are those of the text
(`exists_shown_of_parse`).
-/
import Overdue.Proofs.Syntax.Reading
import Overdue.Proofs.Syntax.Traversal

set_option autoImplicit false

namespace Overdue.Syntax

variable {lore : Lore}

/-! ## Trees in trees -/

/-- A tree is in another one if it is that tree itself or in one of its parts. -/
inductive Tree.Has : Tree → Tree → Prop
  | self (t : Tree) : Has t t
  | part {t p u : Tree} (hp : p ∈ t.parts) (h : Has p u) : Has t u

mutual

/-- Where the first leaf of a tree starts that is laid out from a place. -/
def Tree.startAt : Tree → Cursor → Cursor
  | .node s parts, c => Tree.startOf s.padding parts c

/-- Where the first leaf of some parts starts; without parts, where a leaf with a padding starts. -/
def Tree.startOf (padding : Extent) : List Tree → Cursor → Cursor
  | [], c => c.advance padding
  | part :: _, c => part.startAt c

end

mutual

/-- A tree that fits in the text starts in the text. -/
theorem Tree.FitsAt.startAt_isIn {text : List Char} (t : Tree) {c : Cursor} (h : t.FitsAt lore c)
    (hc : c.IsIn text) : (t.startAt c).IsIn text := by
  obtain ⟨s, parts⟩ := t
  rw [Tree.startAt]
  cases parts with
  | nil =>
    rw [Tree.fitsAt_leaf] at h
    rw [Tree.startOf]
    exact hc.advance h.1
  | cons part parts =>
    rw [Tree.FitsAt] at h
    rw [Tree.startOf]
    exact Tree.FitsAt.startAt_isIn part h.1 hc

end

/-! ## Nodes that show trees -/

/-- The kind of a node is that of a label, or one under which some production shows a symbol. -/
def Tables.ShowsAs (t : Tables) (label : Label) (kind : String) : Prop :=
  kind = (label.display t).kind ∨
    ∃ p ∈ t.productions, ∃ step ∈ p.steps, ∃ d, step.display = some d ∧ kind = d.kind

/-- A node shows a tree that is laid out from a place. -/
structure Node.Shows (t : Tables) (n : Node) (u : Tree) (c : Cursor) : Prop where
  kind : t.ShowsAs u.label n.kind
  start : n.start = (u.startAt c).bytes
  row : n.row = (u.startAt c).row
  stop : n.stop = (c.advance u.total).bytes

/-- Every node in a tree of nodes shows one of the trees in a tree, laid out from a place in the text where
that tree fits. -/
def Node.IsOver (t : Tables) (lore : Lore) (text : List Char) (tree : Tree) (n : Node) : Prop :=
  ∀ m, n.Has m → ∃ u c, tree.Has u ∧ c.IsIn text ∧ u.FitsAt lore c ∧ m.Shows t u c

/-- A node over a part is over the whole. -/
theorem Node.IsOver.of_part {t : Tables} {text : List Char} {tree part : Tree} {n : Node}
    (h : n.IsOver t lore text part) (hpart : part ∈ tree.parts) : n.IsOver t lore text tree := by
  intro m hm
  obtain ⟨u, c, hu, hrest⟩ := h m hm
  exact ⟨u, c, .part hpart hu, hrest⟩

/-- What is laid out is displayed as some production says, if it is displayed as something else than it is. -/
def Tables.Displays (t : Tables) (display : Option Display) : Prop :=
  ∀ d, display = some d → ∃ p ∈ t.productions, ∃ step ∈ p.steps, step.display = some d

/-- What a step displays the tables display. -/
theorem Tables.displays_of_mem_steps {t : Tables} {label : Label} {step : Step} (h : step ∈ label.steps t) :
    t.Displays step.display := by
  intro d hd
  rw [Label.steps.eq_def] at h
  split at h
  · rename_i production
    cases hp : t.productions[production]? with
    | none =>
      rw [hp] at h
      cases h
    | some p =>
      rw [hp] at h
      exact ⟨p, Array.mem_of_getElem? hp, step, h, hd⟩
  · cases h

/-! ## Laying out -/

/-- What laying out a tree from a place comes to: it ends where the tree ends, the first leaf is that of the
tree unless there was one before, and all new nodes are over the tree. -/
structure Layout.Lays (t : Tables) (lore : Lore) (text : List Char) (tree : Tree) (start : Cursor)
    (total : Extent) (before after : Layout) : Prop where
  place : after.place = before.place.advance total
  first : after.first = before.first.or (some start)
  nodes : ∀ n ∈ after.nodes, n ∈ before.nodes ∨ n.IsOver t lore text tree

variable {t : Tables} {text : List Char}

/-- A tree shows as one node over what was laid out for it, or passes that on. -/
theorem Layout.Lays.enclose {s : Summary} {parts : List Tree} {display : Option Display}
    {field : Option String} {before inner : Layout} {c : Cursor} (hc : before.place = c)
    (hplace : c.IsIn text) (hfit : (Tree.node s parts).FitsAt lore c) (hdisplay : t.Displays display)
    (h : Layout.Lays t lore text (.node s parts) (Tree.startOf s.padding parts c) (s.padding + s.size)
      ⟨[], before.place, none⟩ inner) (shown : Bool) :
    Layout.Lays t lore text (.node s parts) (Tree.startOf s.padding parts c) (s.padding + s.size) before
      { nodes :=
          if shown then
            let d := display.getD (s.label.display t)
            { kind := d.kind, named := d.named, field, start := (inner.first.getD before.place).bytes
              stop := inner.place.bytes, row := (inner.first.getD before.place).row
              isError := s.label == .error, isMissing := s.missing, hasError := s.cost > 0
              children := inner.nodes.reverse } :: before.nodes
          else inner.nodes ++ before.nodes
        place := inner.place, first := before.first.or inner.first } := by
  have hfirst : inner.first = some (Tree.startOf s.padding parts c) := by rw [h.first, Option.none_or]
  have hinner (n : Node) (hn : n ∈ inner.nodes) : n.IsOver t lore text (.node s parts) :=
    (h.nodes n hn).resolve_left nofun
  refine ⟨h.place, by rw [hfirst], fun n hn => ?_⟩
  dsimp only at hn
  cases shown with
  -- without a node of its own, the tree shows what was laid out inside of it
  | false =>
    rcases List.mem_append.mp hn with hn | hn
    · exact .inr (hinner n hn)
    · exact .inl hn
  | true =>
    rcases List.mem_cons.mp hn with rfl | hn
    · -- The new node shows the tree itself, and what is inside of it was laid out before.
      refine .inr fun m hm => ?_
      cases hm with
      | self =>
        refine ⟨.node s parts, c, .self _, hplace, hfit, ?_, ?_, ?_, ?_⟩
        -- a node has the kind that the step displays, or else that of its label
        · cases hd : display with
          | none => exact .inl rfl
          | some d =>
            obtain ⟨p, hp, step, hstep, hshown⟩ := hdisplay d hd
            exact .inr ⟨p, hp, step, hstep, d, hshown, rfl⟩
        · rw [hfirst, Tree.startAt, Option.getD_some]
        · rw [hfirst, Tree.startAt, Option.getD_some]
        · rw [h.place, hc]
          rfl
      | child hchild hm => exact hinner _ (List.mem_reverse.mp hchild) m hm
    · exact .inl hn

mutual

/-- A tree that fits is laid out over its text. -/
theorem layTree_lays (display : Option Display) (field : Option String) (tree : Tree) (before : Layout)
    (hdisplay : t.Displays display) (hplace : before.place.IsIn text)
    (hfit : tree.FitsAt lore before.place) :
    Layout.Lays t lore text tree (tree.startAt before.place) tree.total before
      (layTree t display field tree before) := by
  obtain ⟨s, parts⟩ := tree
  rw [Tree.startAt]
  -- a tree without parts is a leaf and starts where its padding ends
  cases parts with
  | nil =>
    have hleaf : Layout.Lays t lore text (.node s []) (Tree.startOf s.padding [] before.place)
        (s.padding + s.size) ⟨[], before.place, none⟩
        ⟨[], (before.place.advance s.padding).advance s.size, some (before.place.advance s.padding)⟩ :=
      ⟨(Cursor.advance_add ..).symm, by rw [Tree.startOf]; rfl, nofun⟩
    rw [layTree]
    exact hleaf.enclose rfl hplace hfit hdisplay _
  | cons part parts =>
    have hparts := layParts_lays (if display.isSome || s.visible then none else field) (s.label.steps t)
      (part :: parts) (List.cons_ne_nil _ _) s.padding ⟨[], before.place, none⟩ (.node s (part :: parts))
      (fun _ h => h) (fun step hstep => Tables.displays_of_mem_steps hstep) hplace hfit.parts
    have htotal : s.padding + s.size = Tree.totals (part :: parts) := by
      rw [Tree.FitsAt] at hfit
      exact hfit.2.2.1
    rw [← htotal] at hparts
    rw [layTree]
    exact hparts.enclose rfl hplace hfit hdisplay _

/-- So are trees one after the other. -/
theorem layParts_lays (field : Option String) (steps : List Step) (parts : List Tree) (hne : parts ≠ [])
    (padding : Extent) (before : Layout) (tree : Tree) (htree : ∀ p ∈ parts, p ∈ tree.parts)
    (hsteps : ∀ step ∈ steps, t.Displays step.display) (hplace : before.place.IsIn text)
    (hfit : Tree.FitAt lore parts before.place) :
    Layout.Lays t lore text tree (Tree.startOf padding parts before.place) (Tree.totals parts) before
      (layParts t field steps parts before) := by
  cases parts with
  | nil => exact absurd rfl hne
  | cons part parts =>
    obtain ⟨display, field', steps', hlay, hdisplay, hsub⟩ := layParts_cons t field steps part parts before
    rw [Tree.FitAt] at hfit
    have hshown : t.Displays display := by
      rcases hdisplay with rfl | ⟨step, hstep, rfl⟩
      · exact nofun
      · exact hsteps step hstep
    have hfirst := layTree_lays display field' part before hshown hplace hfit.1
    have hover (n : Node) (h : n.IsOver t lore text part) : n.IsOver t lore text tree :=
      h.of_part (htree part List.mem_cons_self)
    rw [hlay, Tree.startOf, Tree.totals]
    -- The last tree is a case of its own, since no trees at all have no first leaf.
    by_cases hrest : parts = []
    · rw [hrest, layParts, Tree.totals]
      exact ⟨hfirst.place, hfirst.first, fun n hn => (hfirst.nodes n hn).imp_right (hover n)⟩
    · have hnext := hfit.1.isIn part hplace
      have hfits := hfit.2
      rw [← hfirst.place] at hnext hfits
      have hlater := layParts_lays field steps' parts hrest padding (layTree t display field' part before) tree
        (fun p hp => htree p (List.mem_cons_of_mem part hp)) (fun step hstep => hsteps step (hsub step hstep))
        hnext hfits
      refine ⟨?_, ?_, fun n hn => ?_⟩
      · rw [hlater.place, hfirst.place, Cursor.advance_add]
      · rw [hlater.first, hfirst.first, Option.or_assoc, Option.some_or]
      · rcases hlater.nodes n hn with hn | hn
        · exact (hfirst.nodes n hn).imp_right (hover n)
        · exact .inr hn

end

/-- Every node of the syntax tree of a text shows a tree that fits in the text where it is laid out. -/
theorem exists_shown_of_parse (hlore : lore.Holds) {text : String} {root : Node}
    (h : parse lore.tables text = some root) :
    ∃ tree, parseTree lore.tables text.toList = some tree ∧ root.IsOver lore.tables lore text.toList tree := by
  cases htree : parseTree lore.tables text.toList with
  | none =>
    rw [parse_of_none htree] at h
    cases h
  | some tree =>
    rw [parse_of_some htree] at h
    have hlays := layTree_lays (t := lore.tables) none none tree ⟨[], Cursor.atStart text.toList, none⟩ nofun
      (Cursor.isIn_atStart text.toList) (parseTree_fitsAt hlore htree)
    exact ⟨tree, rfl, (hlays.nodes root (List.mem_of_head? h)).resolve_left nofun⟩

end Overdue.Syntax
