/-
Walking over a syntax tree.

A walk is a place in a tree: the node in focus, the siblings to its right, and for each of its
ancestors the siblings to the right of that. From a place one can go to the first child, to the next
sibling, or up. `Walk.find` goes through a tree this way and collects the nodes that a test picks,
without looking inside them.
-/
import Overdue.Syntax.Node

set_option autoImplicit false

namespace Overdue.Syntax

/-- A place in a tree. -/
structure Walk where
  here : Node
  right : List Node
  above : List (List Node)

namespace Walk

/-! ## Moving -/

/-- The place of the root. -/
def ofRoot (root : Node) : Walk := ⟨root, [], []⟩

/-- The place of the first child. -/
def firstChild? (w : Walk) : Option Walk :=
  match w.here.children with
  | [] => none
  | c :: cs => some ⟨c, cs, w.right :: w.above⟩

/-- The next place to the right of a list of siblings, or else of what is above them: the first
sibling that is left, after climbing as far as it takes. -/
def climb : List Node → List (List Node) → Option Walk
  | n :: ns, above => some ⟨n, ns, above⟩
  | [], [] => none
  | [], up :: above => climb up above

/-- The place after everything in the focus. -/
def next? (w : Walk) : Option Walk := climb w.right w.above

/-! ## What is left to visit -/

/-- The number of nodes in the siblings above. -/
def weightAbove : List (List Node) → Nat
  | [] => 0
  | ns :: above => Node.weights ns + weightAbove above

/-- The number of nodes from a place on. -/
def weight (w : Walk) : Nat := w.here.weight + Node.weights w.right + weightAbove w.above

theorem weight_climb {ns : List Node} {above : List (List Node)} {w : Walk}
    (h : climb ns above = some w) : w.weight = Node.weights ns + weightAbove above := by
  fun_induction climb ns above with
  | case1 n ns above =>
    cases h
    simp [weight, Node.weights]
  | case2 => simp at h
  | case3 up above ih =>
    rw [ih h]
    simp [weightAbove, Node.weights]

theorem one_le_weight (n : Node) : 1 ≤ n.weight := by
  cases n
  simp [Node.weight]

theorem weight_next {w w' : Walk} (h : w.next? = some w') : w'.weight < w.weight := by
  have := weight_climb h
  have := one_le_weight w.here
  simp only [weight] at *
  omega

theorem weight_firstChild {w w' : Walk} (h : w.firstChild? = some w') : w'.weight < w.weight := by
  unfold firstChild? at h
  obtain ⟨⟨info, children⟩, right, above⟩ := w
  cases children with
  | nil => simp at h
  | cons c cs =>
    simp only [Option.some.injEq] at h
    subst h
    simp only [weight, weightAbove, Node.weight, Node.weights]
    omega

/-! ## Collecting -/

/-- Collects the nodes that a test picks from a place on, in the order of the text; nodes inside of
picked ones are not looked at. The nodes found so far come last first. -/
def collect (pick : Node → Bool) (w : Walk) (found : List Node) : List Node :=
  if pick w.here then
    match _h : w.next? with
    | some w' => collect pick w' (w.here :: found)
    | none => w.here :: found
  else
    match _h : w.firstChild? with
    | some w' => collect pick w' found
    | none =>
      match _h : w.next? with
      | some w' => collect pick w' found
      | none => found
termination_by w.weight
decreasing_by
  · exact weight_next ‹_›
  · exact weight_firstChild ‹_›
  · exact weight_next ‹_›

/-- The nodes of a tree that a test picks, without those inside of picked ones. -/
def find (pick : Node → Bool) (root : Node) : List Node :=
  (collect pick (ofRoot root) []).reverse

end Walk

end Overdue.Syntax
