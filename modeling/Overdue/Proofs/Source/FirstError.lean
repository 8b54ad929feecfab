/-
Where a text is said to go wrong.

The search for the first node at fault leaves out every node that is not marked as one with errors in it. A full
search looks at all nodes of the tree, each before those inside it (`Node.preorder`). The two find the same node if
the marks are right, that is, if a node is marked exactly when it is at fault or some node inside it is. Inside a node
at fault the marks do not matter, as both searches are over before they come there.

So in a tree with right marks the search finds a line exactly if the root is marked, and a reader never has to fall
back on the first line. Of the trees that are made, those with a missing token that does not show may have
other marks.
-/
import Overdue.Proofs.Scan.Schedule
import Overdue.Proofs.Source.Comments
import Overdue.Proofs.Syntax.Address

set_option autoImplicit false

namespace Overdue.Syntax.Node

/-! ## All nodes of a tree -/

mutual

/-- The nodes of a tree, each before those inside it, from left to right. -/
def preorder : Node → List Node
  | ⟨info, children⟩ => ⟨info, children⟩ :: preorderAll children

/-- The nodes of trees one after the other. -/
def preorderAll : List Node → List Node
  | [] => []
  | n :: ns => n.preorder ++ preorderAll ns

end

/-- Going through a list is going through each of its nodes. -/
theorem preorderAll_eq_flatMap (ns : List Node) : preorderAll ns = ns.flatMap preorder := by
  induction ns with
  | nil => rfl
  | cons n ns ih => rw [preorderAll, ih, List.flatMap_cons]

theorem preorder_eq (n : Node) : n.preorder = n :: n.children.flatMap preorder := by
  obtain ⟨info, children⟩ := n
  rw [preorder, preorderAll_eq_flatMap]

/-- No node of a tree is left out. -/
theorem mem_preorder_iff {n m : Node} : m ∈ n.preorder ↔ n.Has m := by
  induction n using forall_of_children with
  | h n ih =>
    rw [preorder_eq, List.mem_cons, List.mem_flatMap]
    constructor
    · rintro (rfl | ⟨c, hc, hm⟩)
      · exact .self m
      · exact .child hc ((ih c hc).mp hm)
    · intro h
      cases h with
      | self => exact .inl rfl
      | child hc h => exact .inr ⟨_, hc, (ih _ hc).mpr h⟩

/-! ## Right marks -/

/-- A node is at fault, or some node inside it is. -/
def HasFault (n : Node) : Prop := ∃ m, n.Has m ∧ m.isFaulty = true

/-- A node is in a tree, and not inside a node at fault. -/
inductive Meets : Node → Node → Prop
  | self (n : Node) : Meets n n
  | child {n c m : Node} (hn : n.isFaulty = false) (hc : c ∈ n.children) (h : Meets c m) : Meets n m

/-- The marks of a tree are right: outside of nodes at fault, a node is marked exactly if it has a fault. -/
def IsMarked (root : Node) : Prop := ∀ n, root.Meets n → (n.hasError = true ↔ n.HasFault)

variable {n m : Node}

theorem Meets.has (h : n.Meets m) : n.Has m := by
  induction h with
  | self n => exact .self n
  | child _ hc _ ih => exact .child hc ih

/-- Marks that are right everywhere are right where it matters. -/
theorem isMarked_of_forall_has (h : ∀ m, n.Has m → (m.hasError = true ↔ m.HasFault)) : n.IsMarked :=
  fun m hm => h m hm.has

theorem hasFault_of_isFaulty (h : n.isFaulty = true) : n.HasFault := ⟨n, .self n, h⟩

/-- A node that is not at fault itself has a fault if a child has one. -/
theorem hasFault_iff_of_not_isFaulty (h : n.isFaulty = false) : n.HasFault ↔ ∃ c ∈ n.children, c.HasFault := by
  constructor
  · rintro ⟨m, hm, hfault⟩
    cases hm with
    | self =>
      rw [h] at hfault
      cases hfault
    | child hc hm => exact ⟨_, hc, m, hm, hfault⟩
  · rintro ⟨c, hc, m, hm, hfault⟩
    exact ⟨m, .child hc hm, hfault⟩

/-- Marks are right where they say of each node whether there is a fault in it. -/
theorem IsMarked.hasError_iff (h : n.IsMarked) : n.hasError = true ↔ n.HasFault := h n (.self n)

/-- Marks that are right are right in the children. -/
theorem IsMarked.of_mem_children (h : n.IsMarked) (hn : n.isFaulty = false) {c : Node} (hc : c ∈ n.children) :
    c.IsMarked :=
  fun m hm => h m (.child hn hc hm)

/-- Whether marks are right is seen from each node and its children. -/
theorem isMarked_iff :
    n.IsMarked ↔ (n.isFaulty = true → n.hasError = true) ∧
      (n.isFaulty = false → (n.hasError = true ↔ ∃ c ∈ n.children, c.hasError = true) ∧
        ∀ c ∈ n.children, c.IsMarked) := by
  have hchildren (hmarked : ∀ c ∈ n.children, c.IsMarked) :
      (∃ c ∈ n.children, c.HasFault) ↔ ∃ c ∈ n.children, c.hasError = true :=
    exists_congr fun c => and_congr_right fun hc => (hmarked c hc).hasError_iff.symm
  constructor
  · intro h
    refine ⟨fun hn => h.hasError_iff.mpr (hasFault_of_isFaulty hn), fun hn => ?_⟩
    have hmarked : ∀ c ∈ n.children, c.IsMarked := fun c hc => h.of_mem_children hn hc
    rw [h.hasError_iff, hasFault_iff_of_not_isFaulty hn, hchildren hmarked]
    exact ⟨Iff.rfl, hmarked⟩
  · rintro ⟨hfaulty, hsound⟩ m hm
    cases hm with
    | self =>
      cases hn : n.isFaulty with
      | true => exact iff_of_true (hfaulty hn) (hasFault_of_isFaulty hn)
      | false =>
        obtain ⟨hmark, hmarked⟩ := hsound hn
        rw [hmark, hasFault_iff_of_not_isFaulty hn, hchildren hmarked]
    | child hn hc hm => exact (hsound hn).2 _ hc m hm

mutual

/-- Whether the marks of a tree are right, node by node. -/
def marksFit : Node → Bool
  | ⟨info, children⟩ =>
    if info.isFaulty then info.hasError
    else info.hasError == children.any (·.hasError) && marksFitAll children

/-- Whether the marks of trees are right, node by node. -/
def marksFitAll : List Node → Bool
  | [] => true
  | n :: ns => n.marksFit && marksFitAll ns

end

/-- The marks in a list are right if they are in each of its nodes. -/
theorem marksFitAll_iff {ns : List Node} : marksFitAll ns = true ↔ ∀ n ∈ ns, n.marksFit = true := by
  induction ns with
  | nil => simp [marksFitAll]
  | cons n ns ih => simp [marksFitAll, ih]

/-- The check of the marks is that they are right. -/
theorem marksFit_iff (n : Node) : n.marksFit = true ↔ n.IsMarked := by
  induction n using forall_of_children with
  | h n ih =>
    obtain ⟨info, children⟩ := n
    have hall : marksFitAll children = true ↔ ∀ c ∈ children, c.IsMarked :=
      marksFitAll_iff.trans (forall₂_congr ih)
    have hany : info.hasError = children.any (·.hasError) ↔
        (info.hasError = true ↔ ∃ c ∈ children, c.hasError = true) := by
      rw [Bool.eq_iff_iff, List.any_eq_true]
    rw [isMarked_iff, marksFit]
    cases hn : info.isFaulty with
    | true => simp
    | false => simp only [Bool.false_eq_true, if_false, Bool.and_eq_true, beq_iff_eq, hany, hall, false_implies,
        true_and, forall_const]

instance (n : Node) : Decidable n.IsMarked := decidable_of_iff _ (marksFit_iff n)

/-! ## The search -/

/-- The first line in a list is that of the first node that has one. -/
theorem firstErrorLines_eq_findSome? (ns : List Node) : firstErrorLines ns = ns.findSome? firstErrorLine := by
  induction ns with
  | nil => rfl
  | cons n ns ih =>
    rw [firstErrorLines, List.findSome?_cons, ih]
    cases n.firstErrorLine <;> rfl

/-- A node at fault has the line on which it starts. -/
theorem firstErrorLine_of_isFaulty (h : n.isFaulty = true) : n.firstErrorLine = some (n.row + 1) := by
  obtain ⟨info, children⟩ := n
  exact if_pos h

/-- A node without a mark has no line. -/
theorem firstErrorLine_of_unmarked (h : n.isFaulty = false) (hmark : n.hasError = false) :
    n.firstErrorLine = none := by
  obtain ⟨info, children⟩ := n
  dsimp only at h hmark
  simp [firstErrorLine, h, hmark]

/-- A marked node that is not at fault has the first line in its children. -/
theorem firstErrorLine_of_marked (h : n.isFaulty = false) (hmark : n.hasError = true) :
    n.firstErrorLine = n.children.findSome? firstErrorLine := by
  obtain ⟨info, children⟩ := n
  dsimp only at h hmark
  simp [firstErrorLine, h, hmark, firstErrorLines_eq_findSome?]

/-- The first node at fault, in a search of all nodes. -/
def firstFault? (n : Node) : Option Node := n.preorder.find? (·.isFaulty)

theorem firstFault?_of_isFaulty (h : n.isFaulty = true) : n.firstFault? = some n := by
  rw [firstFault?, preorder_eq]
  exact List.find?_cons_of_pos h

/-- Where a node is not at fault the first fault is that of its children. -/
theorem firstFault?_of_not_isFaulty (h : n.isFaulty = false) :
    n.firstFault? = n.children.findSome? firstFault? := by
  rw [firstFault?, preorder_eq, List.find?_cons_of_neg (by simp [h]), List.find?_flatMap]
  rfl

/-- There is a first fault if there is one at all. -/
theorem isSome_firstFault?_iff : n.firstFault?.isSome = true ↔ n.HasFault := by
  simp only [firstFault?, List.find?_isSome, mem_preorder_iff, HasFault]

theorem findSome?_congr {α β : Type} {f g : α → Option β} {as : List α} (h : ∀ a ∈ as, f a = g a) :
    as.findSome? f = as.findSome? g := by
  rw [← Function.id_comp f, ← Function.id_comp g, ← List.findSome?_map, ← List.findSome?_map, List.map_congr_left h]

/-- Where the marks are right, the search finds the line of the node that a search of all nodes finds. -/
theorem firstErrorLine_eq_firstFault? (h : n.IsMarked) :
    n.firstErrorLine = n.firstFault?.map fun m => m.row + 1 := by
  induction n using forall_of_children with
  | h n ih =>
    cases hn : n.isFaulty with
    | true => rw [firstErrorLine_of_isFaulty hn, firstFault?_of_isFaulty hn, Option.map_some]
    | false =>
      cases hmark : n.hasError with
      | false =>
        -- nothing is lost by leaving the node out, since a fault in it would be marked
        have hnone : n.firstFault? = none := by
          rw [← Option.not_isSome_iff_eq_none, isSome_firstFault?_iff, ← h.hasError_iff, hmark]
          exact Bool.false_ne_true
        rw [firstErrorLine_of_unmarked hn hmark, hnone, Option.map_none]
      | true =>
        rw [firstErrorLine_of_marked hn hmark, firstFault?_of_not_isFaulty hn, List.map_findSome?]
        exact findSome?_congr fun c hc => ih c hc (h.of_mem_children hn hc)

end Overdue.Syntax.Node

namespace Overdue

open Overdue.Syntax

/-! ## Reading -/

/-- The tables of a file that holds a semicolon, which does not show. -/
def Commented.unseen : Tables :=
  { Commented.tables with tokens := Commented.tables.tokens.set! 1 ⟨";", false, false, none, 0⟩ }

namespace Source

variable {tables : Tables} {language : Language} {text : String} {root : Node}

/-- A text whose tree is marked is rejected with the line that the search finds. -/
theorem readWith_of_hasError (hparse : parse tables text = some root) (h : root.hasError = true) :
    readWith tables language text = .error (.near (root.firstErrorLine.getD 1)) := by
  unfold readWith
  rw [hparse]
  exact if_pos h

/-- A text whose tree is not marked is read. -/
theorem readWith_of_not_hasError (hparse : parse tables text = some root) (h : root.hasError = false) :
    readWith tables language text = .ok (ofTree language text.toUTF8 root) := by
  unfold readWith
  rw [hparse]
  exact if_neg (h ▸ Bool.false_ne_true)

/-- **A text is said to go wrong where it first does.** In a tree with right marks, if the root is marked, there is a
first node at fault in a search of all nodes; the search that leaves out what is not marked finds the line of that
node, and every reader whose tables give the tree reports it. If the root is not marked, the search finds nothing,
and the reader gives what the tree contributes. -/
theorem syntaxError_located (h : root.IsMarked) :
    (root.hasError = true → ∃ n, root.preorder.find? (·.isFaulty) = some n ∧
      root.firstErrorLine = some (n.row + 1) ∧
      ∀ (r : Reader) (language : Language) (text : String), parse (r.tablesFor language).1 text = some root →
        (r.read language text).1 = .error (.near (n.row + 1))) ∧
    (root.hasError = false → root.preorder.find? (·.isFaulty) = none ∧ root.firstErrorLine = none ∧
      ∀ (r : Reader) (language : Language) (text : String), parse (r.tablesFor language).1 text = some root →
        (r.read language text).1 = .ok (ofTree language text.toUTF8 root)) := by
  have hsearch := Node.firstErrorLine_eq_firstFault? h
  have hmark : root.hasError = true ↔ root.firstFault?.isSome = true :=
    h.hasError_iff.trans Node.isSome_firstFault?_iff.symm
  constructor
  · intro herror
    -- the first node at fault in the whole tree is the one that the search comes to
    obtain ⟨n, hn⟩ := Option.isSome_iff_exists.mp (hmark.mp herror)
    have hline : root.firstErrorLine = some (n.row + 1) := by rw [hsearch, hn, Option.map_some]
    refine ⟨n, hn, hline, fun r language text hparse => ?_⟩
    rw [Reader.read_eq, readWith_of_hasError hparse herror, hline, Option.getD_some]
  · intro herror
    have hnone : root.firstFault? = none := by
      rw [← Option.not_isSome_iff_eq_none, ← hmark, herror]
      exact Bool.false_ne_true
    refine ⟨hnone, by rw [hsearch, hnone, Option.map_none], fun r language text hparse => ?_⟩
    rw [Reader.read_eq, readWith_of_not_hasError hparse herror]

/-- On the third line there is a character that fits nowhere. The node for it is not marked, but the one around it
is. -/
theorem syntaxError_located_broken :
    let r : Reader := ⟨[(.go, Commented.tables)]⟩
    ∃ root, parse (r.tablesFor .go).1 "//a\n;\n x" = some root ∧ root.IsMarked ∧ root.hasError = true ∧
      root.firstErrorLine = some 3 ∧ (r.read .go "//a\n;\n x").1 = .error (.near 3) := by
  intro r
  have hcheck : (parse (r.tablesFor .go).1 "//a\n;\n x").any (fun root =>
      decide root.IsMarked && root.hasError && root.firstErrorLine == some 3) = true := by decide +kernel
  obtain ⟨root, hparse, hroot⟩ := (Option.any_eq_true _ _).mp hcheck
  rw [Bool.and_eq_true, Bool.and_eq_true, decide_eq_true_eq, beq_iff_eq] at hroot
  obtain ⟨⟨hmarked, herror⟩, hline⟩ := hroot
  obtain ⟨n, -, hfound, hread⟩ := (syntaxError_located hmarked).1 herror
  have hthird : n.row + 1 = 3 := Option.some.inj (hfound.symm.trans hline)
  refine ⟨root, hparse, hmarked, herror, hline, ?_⟩
  rw [hread r .go _ hparse, hthird]

/-- Marks are not always right. Where a token is missing that does not show, the nodes around it are marked and none
is at fault; the first line is reported then. -/
theorem exists_not_isMarked :
    ∃ (tables : Tables) (text : String) (root : Node), parse tables text = some root ∧ ¬ root.IsMarked ∧
      root.hasError = true ∧ root.firstErrorLine = none ∧ readWith tables .go text = .error (.near 1) := by
  -- the semicolon is missing behind the comment
  have hcheck : (parse Commented.unseen "//a\n\n\n\n\n").any (fun root =>
      !decide root.IsMarked && root.hasError && root.firstErrorLine == none) = true := by decide +kernel
  obtain ⟨root, hparse, hroot⟩ := (Option.any_eq_true _ _).mp hcheck
  rw [Bool.and_eq_true, Bool.and_eq_true, Bool.not_eq_true', decide_eq_false_iff_not, beq_iff_eq] at hroot
  obtain ⟨⟨hmarks, herror⟩, hnone⟩ := hroot
  refine ⟨Commented.unseen, _, root, hparse, hmarks, herror, hnone, ?_⟩
  rw [readWith_of_hasError hparse herror, hnone, Option.getD_none]

end Source

end Overdue
