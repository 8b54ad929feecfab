/-
The walk that collects comments.

The walk goes to the first child of a node unless the node is a comment, else to its next sibling, else it climbs
until there is a sibling or the root is left. Three things are said of it here, for every tree and all kinds of
comments. It comes to an end after at most as many turns as the tree has nodes (`Walk.Trail`). It collects what a
plain recursion over the tree collects (`Node.picked`). And that is one comment for each node of a kind that is not
inside another one, in the order of the text (`Node.IsOutermost`).
-/
import Overdue.Proofs.Syntax.Address
import Overdue.Proofs.Syntax.Traversal
import Overdue.Source

set_option autoImplicit false

namespace Overdue.Syntax

/-! ## Nodes that are not inside picked ones -/

namespace Node

theorem pickedAll_eq_flatMap (pick : Node → Bool) (ns : List Node) : pickedAll pick ns = ns.flatMap (picked pick) := by
  induction ns with
  | nil => simp [pickedAll]
  | cons n ns ih => simp [pickedAll, ih]

/-- The recursion picks each node that is not inside a picked one, once and in order. -/
theorem listing_picked (pick : Node → Bool) (root : Node) : Listing (root.IsOutermost pick) (root.picked pick) := by
  induction root using forall_of_children with
  | h root ih =>
    by_cases hpick : pick root
    · rw [picked_of_pick hpick]
      exact Listing.root (isOutermost_self hpick) fun a n hn => hn.eq_nil hpick
    · rw [picked_of_not_pick hpick, pickedAll_eq_flatMap]
      refine Listing.flatMap (fun i c hc => ?_) fun a n hn => hn.exists_child hpick
      refine (ih c (List.mem_of_getElem? hc)).congr fun a n => ?_
      exact (isOutermost_cons_iff hpick hc a n).symm

end Node

/-! ## The turns of a walk -/

namespace Walk

variable {pick : Node → Bool}

/-- One turn: on to the first child of a node that is not picked, or else to what comes after the node. -/
def turn? (pick : Node → Bool) (w : Walk) : Option Walk :=
  if pick w.here then w.next? else w.firstChild?.or w.next?

/-- The places that a walk comes to, from one to the next until there is none. -/
inductive Trail (pick : Node → Bool) : Walk → List Walk → Prop
  | last {w : Walk} (h : w.turn? pick = none) : Trail pick w [w]
  | more {w w' : Walk} {ws : List Walk} (h : w.turn? pick = some w') (hws : Trail pick w' ws) : Trail pick w (w :: ws)

/-- Each turn of the walk makes what is left lighter. -/
theorem weight_turn {w w' : Walk} (h : w.turn? pick = some w') : w'.weight < w.weight := by
  unfold turn? at h
  split at h
  · exact weight_next h
  · rcases Option.or_eq_some_iff.mp h with h | ⟨-, h⟩
    · exact weight_firstChild h
    · exact weight_next h

/-- Collecting takes the node of each place, if it is picked, and goes on turn by turn. -/
theorem collect_turn (w : Walk) (found : List Node) :
    w.collect pick found =
      match w.turn? pick with
      | some w' => w'.collect pick (if pick w.here then w.here :: found else found)
      | none => if pick w.here then w.here :: found else found := by
  rw [collect, turn?]
  by_cases hpick : pick w.here
  · simp only [if_pos hpick]
    cases w.next? <;> rfl
  · simp only [if_neg hpick]
    cases w.firstChild? with
    | none => cases w.next? <;> rfl
    | some w' => rfl

/-- A walk comes to its end within as many turns as there are nodes ahead, and has then collected the picked ones
among the nodes that it came to. -/
theorem exists_trail (pick : Node → Bool) (w : Walk) (found : List Node) :
    ∃ ws, Trail pick w ws ∧ ws.length ≤ w.weight ∧
      w.collect pick found = ((ws.map here).filter pick).reverse ++ found := by
  have hweight : 1 ≤ w.weight := by
    have := one_le_weight w.here
    rw [weight]
    omega
  rw [collect_turn]
  cases hturn : w.turn? pick with
  | none =>
    refine ⟨[w], .last hturn, hweight, ?_⟩
    by_cases hpick : pick w.here <;> simp [hpick]
  | some w' =>
    have hless := weight_turn hturn
    obtain ⟨ws, htrail, hlength, hcollect⟩ := exists_trail pick w' (if pick w.here then w.here :: found else found)
    refine ⟨w :: ws, .more hturn htrail, by rw [List.length_cons]; omega, ?_⟩
    dsimp only
    rw [hcollect]
    by_cases hpick : pick w.here <;> simp [hpick]
termination_by w.weight

theorem weight_ofRoot (root : Node) : (ofRoot root).weight = root.weight := by
  simp [weight, ofRoot, Node.weights, weightAbove]

end Walk

end Overdue.Syntax

namespace Overdue

open Overdue.Syntax

/-! ## Comments -/

/-- The comment that a node is, if its span is a text at all. -/
def Comment.ofNode? (source : ByteArray) (n : Node) : Option Comment :=
  (n.text? source).map fun text => ⟨n.start, n.row + 1, text⟩

/-- The walk collects the comments that the recursion over the tree collects: one for each node of the given kinds
that is not inside another such node, in the order of the text. It ends within as many turns as there are nodes. -/
theorem Source.commentsOf_complete (kinds : List String) (source : ByteArray) (root : Node) :
    let pick := fun n : Node => kinds.contains n.kind
    commentsOf kinds source root = (root.picked pick).filterMap (Comment.ofNode? source) ∧
    Listing (fun a c => ∃ n, root.IsOutermost pick a n ∧ Comment.ofNode? source n = some c)
      (commentsOf kinds source root) ∧
    ∃ trail, Walk.Trail pick (.ofRoot root) trail ∧ trail.length ≤ root.weight ∧
      commentsOf kinds source root = ((trail.map Walk.here).filter pick).filterMap (Comment.ofNode? source) := by
  intro pick
  have hrecursive : commentsOf kinds source root = (root.picked pick).filterMap (Comment.ofNode? source) := by
    rw [commentsOf, Walk.find_eq_picked]
    rfl
  refine ⟨hrecursive, ?_, ?_⟩
  · rw [hrecursive]
    exact (root.listing_picked pick).filterMap fun a n m hn hm => hn.unique hm
  · obtain ⟨trail, htrail, hlength, hcollect⟩ := Walk.exists_trail pick (.ofRoot root) []
    rw [Walk.weight_ofRoot] at hlength
    refine ⟨trail, htrail, hlength, ?_⟩
    have hfind : Walk.find pick root = (trail.map Walk.here).filter pick := by
      rw [Walk.find, hcollect, List.append_nil, List.reverse_reverse]
    rw [← hfind]
    rfl

end Overdue
