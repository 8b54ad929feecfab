/-
What a walk over a tree collects.

`Walk.find` goes through a tree place by place, with no more to remember than the siblings to the right of a
place and of what is above it. What it collects is said here without a walk: the nodes that a test picks, and
of the others those that are picked among their children, from left to right (`Node.picked`). The walk is
related to that by what it has still to visit from a place on (`Walk.ahead`): every step of it takes what it
collects off that list, so at the end nothing is left.

In a tree that is laid out, the nodes that are picked stand one behind the other.
-/
import Overdue.Proofs.Syntax.Layout
import Overdue.Syntax.Walk

set_option autoImplicit false

namespace Overdue.Syntax

/-! ## The nodes that a test picks -/

namespace Node

mutual

/-- The nodes of a tree that a test picks, without those inside of picked ones. -/
def picked (pick : Node → Bool) : Node → List Node
  | ⟨info, children⟩ => if pick ⟨info, children⟩ then [⟨info, children⟩] else pickedAll pick children

/-- The nodes that a test picks in trees one after the other. -/
def pickedAll (pick : Node → Bool) : List Node → List Node
  | [] => []
  | n :: ns => n.picked pick ++ pickedAll pick ns

end

variable {pick : Node → Bool}

theorem picked_of_pick {n : Node} (h : pick n) : n.picked pick = [n] := by
  obtain ⟨info, children⟩ := n
  rw [picked, if_pos h]

/-- In a node that is not picked there is what is picked in its children. -/
theorem picked_of_not_pick {n : Node} (h : ¬pick n) : n.picked pick = pickedAll pick n.children := by
  obtain ⟨info, children⟩ := n
  rw [picked, if_neg h]

/-- A node is in a tree if it is the tree itself or in one of its children. -/
inductive Has : Node → Node → Prop
  | self (n : Node) : Has n n
  | child {n c m : Node} (hc : c ∈ n.children) (h : Has c m) : Has n m

mutual

/-- What is picked is in the tree, and passes the test. -/
theorem has_of_mem_picked (n : Node) {m : Node} (h : m ∈ n.picked pick) : n.Has m ∧ pick m := by
  obtain ⟨info, children⟩ := n
  rw [picked] at h
  split at h
  · rename_i hpick
    obtain rfl := List.mem_singleton.mp h
    exact ⟨.self _, hpick⟩
  · obtain ⟨c, hc, hhas, hpick⟩ := exists_has_of_mem_pickedAll children h
    exact ⟨.child hc hhas, hpick⟩

/-- What is picked in a list is in one of its nodes. -/
theorem exists_has_of_mem_pickedAll (ns : List Node) {m : Node} (h : m ∈ pickedAll pick ns) :
    ∃ n ∈ ns, n.Has m ∧ pick m := by
  cases ns with
  | nil =>
    rw [pickedAll] at h
    cases h
  | cons n ns =>
    rw [pickedAll] at h
    rcases List.mem_append.mp h with h | h
    · exact ⟨n, List.mem_cons_self, has_of_mem_picked n h⟩
    · obtain ⟨c, hc, hm⟩ := exists_has_of_mem_pickedAll ns h
      exact ⟨c, List.mem_cons_of_mem n hc, hm⟩

end

/-! ## Nodes that are laid out -/

mutual

/-- What is picked in a tree that is laid out lies within it, each node behind the last. -/
theorem IsLaid.picked (pick : Node → Bool) (n : Node) (h : n.IsLaid) :
    (∀ m ∈ n.picked pick, m.IsLaid ∧ n.start ≤ m.start ∧ m.stop ≤ n.stop) ∧
      (n.picked pick).Pairwise fun a b => a.stop ≤ b.start := by
  obtain ⟨info, children⟩ := n
  rw [Node.picked]
  split
  · refine ⟨fun m hm => ?_, List.pairwise_singleton _ _⟩
    obtain rfl := List.mem_singleton.mp hm
    exact ⟨h, Nat.le_refl _, Nat.le_refl _⟩
  · rw [IsLaid] at h
    exact AreLaid.pickedAll pick children h

/-- What is picked of nodes in place lies in place. -/
theorem AreLaid.pickedAll (pick : Node → Bool) {start stop : Nat} (ns : List Node)
    (h : AreLaid start stop ns) :
    (∀ m ∈ Node.pickedAll pick ns, m.IsLaid ∧ start ≤ m.start ∧ m.stop ≤ stop) ∧
      (Node.pickedAll pick ns).Pairwise fun a b => a.stop ≤ b.start := by
  cases ns with
  | nil =>
    rw [Node.pickedAll]
    exact ⟨nofun, .nil⟩
  | cons n ns =>
    rw [AreLaid] at h
    obtain ⟨hstart, hn, hns⟩ := h
    obtain ⟨hfirst, hfirsts⟩ := IsLaid.picked pick n hn
    obtain ⟨hrest, hrests⟩ := AreLaid.pickedAll pick ns hns
    have hspan := IsLaid.start_le_stop n hn
    have hstop := AreLaid.start_le_stop ns hns
    rw [Node.pickedAll]
    refine ⟨fun m hm => ?_, List.pairwise_append.mpr ⟨hfirsts, hrests, fun a ha b hb => ?_⟩⟩
    · rcases List.mem_append.mp hm with hm | hm
      · obtain ⟨hlaid, hlower, hupper⟩ := hfirst m hm
        exact ⟨hlaid, by omega, by omega⟩
      · obtain ⟨hlaid, hlower, hupper⟩ := hrest m hm
        exact ⟨hlaid, by omega, hupper⟩
    · exact Nat.le_trans (hfirst a ha).2.2 (hrest b hb).2.1

end

end Node

/-! ## Walking -/

namespace Walk

variable {pick : Node → Bool}

/-- What is picked in the siblings above, the nearest ones first. -/
def aheadAbove (pick : Node → Bool) : List (List Node) → List Node
  | [] => []
  | ns :: above => Node.pickedAll pick ns ++ aheadAbove pick above

/-- What is picked from a place on. -/
def ahead (pick : Node → Bool) (w : Walk) : List Node :=
  w.here.picked pick ++ (Node.pickedAll pick w.right ++ aheadAbove pick w.above)

/-- Climbing passes over nothing: what is ahead after it was ahead before. -/
theorem ahead_climb (ns : List Node) (above : List (List Node)) :
    ((climb ns above).map (ahead pick)).getD [] = Node.pickedAll pick ns ++ aheadAbove pick above := by
  fun_induction climb ns above with
  | case1 n ns above => rw [Option.map_some, Option.getD_some, ahead, Node.pickedAll, List.append_assoc]
  | case2 =>
    rw [Node.pickedAll, aheadAbove]
    rfl
  | case3 up above ih => rw [ih, Node.pickedAll, aheadAbove, List.nil_append]

/-- What comes after a node is what is picked to its right, and then above it. -/
theorem ahead_next (pick : Node → Bool) (w : Walk) :
    ((w.next?).map (ahead pick)).getD [] = Node.pickedAll pick w.right ++ aheadAbove pick w.above :=
  ahead_climb w.right w.above

/-- Going to the first child of a node that is not picked passes over nothing. -/
theorem ahead_firstChild {w w' : Walk} (h : w.firstChild? = some w') (hpick : ¬pick w.here) :
    w'.ahead pick = w.ahead pick := by
  unfold firstChild? at h
  split at h
  · cases h
  · rename_i c cs hchildren
    cases h
    rw [ahead, ahead, Node.picked_of_not_pick hpick, hchildren, Node.pickedAll, aheadAbove, List.append_assoc]

/-- A node without children that is not picked adds nothing. -/
theorem ahead_of_firstChild_none {w : Walk} (h : w.firstChild? = none) (hpick : ¬pick w.here) :
    w.ahead pick = ((w.next?).map (ahead pick)).getD [] := by
  unfold firstChild? at h
  split at h
  · rename_i hchildren
    rw [ahead_next, ahead, Node.picked_of_not_pick hpick, hchildren, Node.pickedAll, List.nil_append]
  · cases h

/-- A walk collects what is ahead of it. -/
theorem collect_eq (w : Walk) (found : List Node) :
    w.collect pick found = (w.ahead pick).reverse ++ found := by
  fun_induction collect pick w found with
  | case1 w found hpick w' hnext ih =>
    have hahead := ahead_next pick w
    rw [hnext, Option.map_some, Option.getD_some] at hahead
    rw [ih, hahead, ahead, Node.picked_of_pick hpick, List.singleton_append, List.reverse_cons, List.append_assoc,
      List.singleton_append]
  | case2 w found hpick hnext =>
    have hahead := ahead_next pick w
    rw [hnext] at hahead
    rw [ahead, Node.picked_of_pick hpick, ← hahead]
    rfl
  | case3 w found hpick w' hchild ih => rw [ih, ahead_firstChild hchild hpick]
  | case4 w found hpick hchild w' hnext ih =>
    rw [ih, ahead_of_firstChild_none hchild hpick, hnext]
    rfl
  | case5 w found hpick hchild hnext =>
    rw [ahead_of_firstChild_none hchild hpick, hnext]
    rfl

/-- A walk over a tree finds the nodes that are picked, in their order. -/
theorem find_eq_picked (pick : Node → Bool) (root : Node) : find pick root = root.picked pick := by
  rw [find, collect_eq, List.append_nil, List.reverse_reverse, ahead, ofRoot, Node.pickedAll, aheadAbove,
    List.append_nil, List.append_nil]

end Walk

end Overdue.Syntax
