/-
Addresses in syntax trees.

A node of a tree can be told from the others by its address: the number of a child of the root, then the number of
one of its children, and so on (`Node.at?`). Addresses are compared like words in a dictionary, which is the order
of the text: a node comes before what is inside it, and what is inside it comes before its siblings to the right.

What is read off a tree is a list, and two entries of it may well be equal. So that a list has everything that it
should have, once each and in order, is said by addresses (`Listing`). A list that is put together from what the
children of a node contribute is such a listing if what each of them contributes is one.
-/
import Mathlib.Data.List.Forall2
import Mathlib.Data.List.Induction
import Mathlib.Data.List.Lex
import Overdue.Proofs.Syntax.Layout

set_option autoImplicit false

namespace Overdue.Syntax

/-! ## Nodes at addresses -/

namespace Node

/-- The node at an address. -/
def at? : Node → List Nat → Option Node
  | n, [] => some n
  | n, i :: a => n.children[i]?.bind fun c => c.at? a

/-- An address goes through a child. -/
theorem at?_cons_eq_some_iff {n m : Node} {i : Nat} {a : List Nat} :
    n.at? (i :: a) = some m ↔ ∃ c, n.children[i]? = some c ∧ c.at? a = some m :=
  Option.bind_eq_some_iff

theorem at?_cons {n c : Node} {i : Nat} (h : n.children[i]? = some c) (a : List Nat) :
    n.at? (i :: a) = c.at? a := by
  rw [at?, h, Option.bind_some]

/-- A child that the grammar has a name for, and its number. -/
structure IsNamedChild (n : Node) (i : Nat) (c : Node) : Prop where
  here : n.children[i]? = some c
  named : c.named

theorem IsNamedChild.mem {n c : Node} {i : Nat} (h : n.IsNamedChild i c) : c ∈ n.namedChildren :=
  List.mem_filter.mpr ⟨List.mem_of_getElem? h.here, h.named⟩

/-- The named children are those that have a place. -/
theorem mem_namedChildren_iff {n c : Node} : c ∈ n.namedChildren ↔ ∃ i, n.IsNamedChild i c := by
  refine ⟨fun h => ?_, fun ⟨_, h⟩ => h.mem⟩
  obtain ⟨hmem, hnamed⟩ := List.mem_filter.mp h
  obtain ⟨i, hi⟩ := List.getElem?_of_mem hmem
  exact ⟨i, hi, hnamed⟩

/-- There is one child at a place. -/
theorem IsNamedChild.unique {n c c' : Node} {i : Nat} (h : n.IsNamedChild i c) (h' : n.IsNamedChild i c') : c = c' :=
  Option.some.inj (h.here.symm.trans h'.here)

/-- Children are smaller than their node. -/
theorem sizeOf_lt_of_mem_children {n c : Node} (h : c ∈ n.children) : sizeOf c < sizeOf n := by
  obtain ⟨info, children⟩ := n
  have := List.sizeOf_lt_of_mem h
  simp only [mk.sizeOf_spec] at *
  omega

/-- What holds of a node whenever it holds of its children holds of all nodes. -/
theorem forall_of_children {motive : Node → Prop} (h : ∀ n : Node, (∀ c ∈ n.children, motive c) → motive n)
    (n : Node) : motive n :=
  h n fun c hc =>
    have := sizeOf_lt_of_mem_children hc
    forall_of_children h c
termination_by sizeOf n

/-- Addresses go on one behind the other. -/
theorem at?_append {n m : Node} {a : List Nat} (h : n.at? a = some m) (b : List Nat) : n.at? (a ++ b) = m.at? b := by
  induction a generalizing n with
  | nil =>
    cases h
    rfl
  | cons i a ih =>
    obtain ⟨c, hc, h⟩ := at?_cons_eq_some_iff.mp h
    rw [List.cons_append, at?_cons hc, ih h]

mutual

/-- Whether a test holds of all nodes of a tree. -/
def all (p : Node → Bool) : Node → Bool
  | ⟨info, children⟩ => p ⟨info, children⟩ && allOf p children

/-- Whether a test holds of all nodes of some trees. -/
def allOf (p : Node → Bool) : List Node → Bool
  | [] => true
  | n :: ns => n.all p && allOf p ns

end

/-- What holds throughout a node holds of it and throughout its children. -/
theorem all_iff {p : Node → Bool} {n : Node} : n.all p ↔ p n ∧ allOf p n.children := by
  obtain ⟨info, children⟩ := n
  rw [all, Bool.and_eq_true]

/-- What holds throughout a list holds throughout each of its nodes. -/
theorem all_of_mem {p : Node → Bool} {ns : List Node} (h : allOf p ns) {n : Node} (hn : n ∈ ns) : n.all p := by
  induction ns with
  | nil => cases hn
  | cons m ms ih =>
    rw [allOf, Bool.and_eq_true] at h
    rcases List.mem_cons.mp hn with rfl | hn
    · exact h.1
    · exact ih h.2 hn

/-- What holds throughout a node holds at each of its addresses. -/
theorem all_at? {p : Node → Bool} {n m : Node} {a : List Nat} (h : n.all p) (hm : n.at? a = some m) : p m := by
  induction a generalizing n with
  | nil =>
    cases hm
    exact (all_iff.mp h).1
  | cons i a ih =>
    obtain ⟨c, hc, hm⟩ := at?_cons_eq_some_iff.mp hm
    exact ih (all_of_mem (all_iff.mp h).2 (List.mem_of_getElem? hc)) hm

/-- A node that is laid out has laid out all that is inside it, within its own span. -/
theorem IsLaid.at? {n m : Node} {a : List Nat} (h : n.IsLaid) (hm : n.at? a = some m) :
    m.IsLaid ∧ n.start ≤ m.start ∧ m.stop ≤ n.stop := by
  induction a generalizing n with
  | nil =>
    cases hm
    exact ⟨h, Nat.le_refl _, Nat.le_refl _⟩
  | cons i a ih =>
    obtain ⟨c, hc, hm⟩ := at?_cons_eq_some_iff.mp hm
    obtain ⟨hlaid, hstart, hstop⟩ := ((isLaid_iff n).mp h).of_mem (List.mem_of_getElem? hc)
    obtain ⟨hinner, hstart', hstop'⟩ := ih hlaid hm
    exact ⟨hinner, by omega, by omega⟩

/-- A named node without errors on the first row, for trees that are written out. -/
def written (kind : String) (field : Option String) (start stop : Nat) (children : List Node) : Node :=
  { kind, named := true, field, start, stop, row := 0, isError := false, isMissing := false, hasError := false
    children }

/-- A token in a tree that is written out. -/
def writtenToken (kind : String) (start stop : Nat) : Node :=
  { written kind none start stop [] with named := false }

/-! ## Nodes that are not inside picked ones -/

/-- The address of a node that a test picks, while it picks none of the nodes around it. -/
structure IsOutermost (pick : Node → Bool) (root : Node) (a : List Nat) (n : Node) : Prop where
  here : root.at? a = some n
  picked : pick n
  alone : ∀ b, b <+: a → b ≠ a → ∀ m, root.at? b = some m → ¬pick m

variable {pick : Node → Bool} {root : Node}

/-- There is one outermost node at an address. -/
theorem IsOutermost.unique {a : List Nat} {n m : Node} (hn : root.IsOutermost pick a n)
    (hm : root.IsOutermost pick a m) : n = m :=
  Option.some.inj (hn.here.symm.trans hm.here)

theorem isOutermost_self (h : pick root) : root.IsOutermost pick [] root where
  here := rfl
  picked := h
  alone _ hb hne := absurd (List.prefix_nil.mp hb) hne

/-- Where the root itself is picked, nothing else is. -/
theorem IsOutermost.eq_nil (h : pick root) {a : List Nat} {n : Node} (hn : root.IsOutermost pick a n) : a = [] := by
  by_contra hne
  exact hn.alone [] List.nil_prefix (Ne.symm hne) root rfl h

/-- Where the root is not picked, what is picked lies inside one of the children. -/
theorem IsOutermost.exists_child (h : ¬pick root) {a : List Nat} {n : Node} (hn : root.IsOutermost pick a n) :
    ∃ i b, a = i :: b ∧ i < root.children.length := by
  cases a with
  | nil =>
    obtain rfl : root = n := Option.some.inj hn.here
    exact absurd hn.picked h
  | cons i b =>
    obtain ⟨c, hc, -⟩ := at?_cons_eq_some_iff.mp hn.here
    exact ⟨i, b, rfl, (List.getElem?_eq_some_iff.mp hc).1⟩

/-- Outermost nodes below a root that is not picked are those of its children. -/
theorem isOutermost_cons_iff (h : ¬pick root) {c : Node} {i : Nat} (hc : root.children[i]? = some c)
    (a : List Nat) (n : Node) : root.IsOutermost pick (i :: a) n ↔ c.IsOutermost pick a n := by
  constructor
  · intro hn
    refine ⟨by rw [← at?_cons hc, hn.here], hn.picked, fun b hb hne m hm => ?_⟩
    refine hn.alone (i :: b) ((List.prefix_cons_inj i).mpr hb) ?_ m ((at?_cons hc b).trans hm)
    exact fun heq => hne (List.cons.inj heq).2
  · intro hn
    refine ⟨(at?_cons hc a).trans hn.here, hn.picked, fun b hb hne m hm => ?_⟩
    -- what is around the node in the whole tree is the root, or is around it in the child
    rcases List.prefix_cons_iff.mp hb with rfl | ⟨rest, rfl, hrest⟩
    · obtain rfl : root = m := Option.some.inj hm
      exact h
    · rw [at?_cons hc] at hm
      exact hn.alone rest hrest (fun heq => hne (congrArg (i :: ·) heq)) m hm

end Node

/-! ## Listings -/

/-- A list has one value for each address that has one by `r`, in the order of the addresses. -/
def Listing {α : Type} (r : List Nat → α → Prop) (xs : List α) : Prop :=
  ∃ addresses : List (List Nat), addresses.Pairwise (· < ·) ∧ (∀ a, a ∈ addresses ↔ ∃ x, r a x) ∧
    List.Forall₂ r addresses xs

namespace Listing

variable {α β : Type} {r : List Nat → α → Prop} {xs : List α}

theorem nil (h : ∀ a x, ¬r a x) : Listing r [] := by
  refine ⟨[], .nil, fun a => ?_, .nil⟩
  simp [h a]

/-- Only the root has a value. -/
theorem root {x : α} (h : r [] x) (honly : ∀ a y, r a y → a = []) : Listing r [x] := by
  refine ⟨[[]], List.pairwise_singleton _ _, fun a => ?_, .cons h .nil⟩
  rw [List.mem_singleton]
  constructor
  · rintro rfl
    exact ⟨x, h⟩
  · rintro ⟨y, hy⟩
    exact honly a y hy

/-- The root has a value or not, and nothing else has one. -/
theorem ofOption {o : Option α} (h : ∀ a x, r a x ↔ a = [] ∧ o = some x) : Listing r o.toList := by
  cases o with
  | none =>
    refine nil fun a x hx => ?_
    cases ((h a x).mp hx).2
  | some x => exact root ((h [] x).mpr ⟨rfl, rfl⟩) fun a y hy => ((h a y).mp hy).1

theorem congr {r' : List Nat → α → Prop} (h : Listing r xs) (hr : ∀ a x, r a x ↔ r' a x) : Listing r' xs := by
  have hsame : r = r' := funext fun a => funext fun x => propext (hr a x)
  rwa [← hsame]

theorem exists_of_mem (h : Listing r xs) {x : α} (hx : x ∈ xs) : ∃ a, r a x := by
  obtain ⟨addresses, -, -, hvalues⟩ := h
  obtain ⟨i, hi, rfl⟩ := List.getElem_of_mem hx
  exact ⟨_, hvalues.get (hvalues.length_eq ▸ hi) hi⟩

/-- What stands at an address is on the list. -/
theorem exists_mem (h : Listing r xs) {a : List Nat} {x : α} (hx : r a x) : ∃ y ∈ xs, r a y := by
  obtain ⟨addresses, -, hall, hvalues⟩ := h
  obtain ⟨i, hi, rfl⟩ := List.getElem_of_mem ((hall a).mpr ⟨x, hx⟩)
  have hi' : i < xs.length := hvalues.length_eq ▸ hi
  exact ⟨xs[i], List.getElem_mem hi', hvalues.get hi hi'⟩

/-- A list is not empty if something stands at an address. -/
theorem ne_nil_iff (h : Listing r xs) : xs ≠ [] ↔ ∃ a x, r a x := by
  constructor
  · intro hne
    obtain ⟨x, hx⟩ := List.exists_mem_of_ne_nil xs hne
    obtain ⟨a, ha⟩ := h.exists_of_mem hx
    exact ⟨a, x, ha⟩
  · rintro ⟨a, x, hx⟩
    obtain ⟨y, hy, -⟩ := h.exists_mem hx
    exact List.ne_nil_of_mem hy

/-- The first value of a listing has the least address. -/
theorem least_of_head? (h : Listing r xs) {x : α} (hx : xs.head? = some x) :
    ∃ a, r a x ∧ ∀ b y, r b y → a ≤ b := by
  obtain ⟨addresses, hsorted, hall, hvalues⟩ := h
  cases hvalues with
  | nil => cases hx
  | @cons a _ as _ ha _ =>
    cases hx
    refine ⟨a, ha, fun b y hb => ?_⟩
    rcases List.mem_cons.mp ((hall b).mpr ⟨y, hb⟩) with rfl | hmem
    · exact le_refl _
    · exact le_of_lt ((List.pairwise_cons.mp hsorted).1 b hmem)

/-- The values of a listing that a function keeps, if no address has two values. -/
theorem filterMap {f : α → Option β} (h : Listing r xs) (hr : ∀ a x y, r a x → r a y → x = y) :
    Listing (fun a y => ∃ x, r a x ∧ f x = some y) (xs.filterMap f) := by
  classical
  obtain ⟨addresses, hsorted, hall, hvalues⟩ := h
  refine ⟨addresses.filter fun a => ∃ y x, r a x ∧ f x = some y, hsorted.filter _, fun a => ?_, ?_⟩
  · rw [List.mem_filter, decide_eq_true_eq, hall]
    exact ⟨fun h => h.2, fun ⟨y, x, hx, hy⟩ => ⟨⟨x, hx⟩, y, x, hx, hy⟩⟩
  · clear hsorted hall
    induction hvalues with
    | nil => exact .nil
    | @cons a x addresses xs hx _ ih =>
      cases hfx : f x with
      | none =>
        -- the address has no other value that is kept instead
        have hnone : ¬∃ y x, r a x ∧ f x = some y := by
          rintro ⟨y, x', hx', hy⟩
          rw [hr a x x' hx hx', hy] at hfx
          cases hfx
        rw [List.filter_cons_of_neg (by simpa using hnone), List.filterMap_cons_none hfx]
        exact ih
      | some y =>
        have hsome : ∃ y x, r a x ∧ f x = some y := ⟨y, x, hx, hfx⟩
        rw [List.filter_cons_of_pos (by simpa using hsome), List.filterMap_cons_some hfx]
        exact .cons ⟨x, hx, hfx⟩ ih

/-- What comes first in one part of a tree and then in the next one, a child further on. -/
theorem append {ys : List α} {k : Nat} (hxs : Listing (fun a x => r a x ∧ ∃ i b, a = i :: b ∧ i < k) xs)
    (hys : Listing (fun a x => r (k :: a) x) ys) (hend : ∀ a x, r a x → ∃ i b, a = i :: b ∧ i ≤ k) :
    Listing r (xs ++ ys) := by
  obtain ⟨as, hsorted, hall, hvalues⟩ := hxs
  obtain ⟨bs, hsorted', hall', hvalues'⟩ := hys
  refine ⟨as ++ bs.map (k :: ·), List.pairwise_append.mpr ⟨hsorted, ?_, ?_⟩, fun a => ?_, ?_⟩
  -- the addresses below `k` all begin with it, so they stay in order
  · refine List.pairwise_map.mpr (hsorted'.imp fun hlt => ?_)
    exact List.cons_lt_cons_iff.mpr (.inr ⟨rfl, hlt⟩)
  -- those of the first part begin with a smaller number
  · intro a ha b hb
    obtain ⟨x, -, i, c, rfl, hi⟩ := (hall a).mp ha
    obtain ⟨d, -, rfl⟩ := List.mem_map.mp hb
    exact List.cons_lt_cons_iff.mpr (.inl hi)
  · rw [List.mem_append, hall, List.mem_map]
    constructor
    · rintro (⟨x, hx, -⟩ | ⟨b, hb, rfl⟩)
      · exact ⟨x, hx⟩
      · exact (hall' b).mp hb
    · rintro ⟨x, hx⟩
      obtain ⟨i, b, rfl, hi⟩ := hend a x hx
      rcases Nat.lt_or_eq_of_le hi with hlt | rfl
      · exact .inl ⟨x, hx, i, b, rfl, hlt⟩
      · exact .inr ⟨b, (hall' b).mpr ⟨x, hx⟩, rfl⟩
  · refine List.rel_append (hvalues.imp fun _ _ h => h.1) ?_
    exact List.forall₂_map_left_iff.mpr hvalues'

/-- What the children of a node contribute makes a listing if what each of them contributes is one. -/
theorem flatMap {ns : List β} {f : β → List α}
    (h : ∀ i n, ns[i]? = some n → Listing (fun a x => r (i :: a) x) (f n))
    (hend : ∀ a x, r a x → ∃ i b, a = i :: b ∧ i < ns.length) : Listing r (ns.flatMap f) := by
  -- The last child comes last, and what comes before it is a listing by the same rule.
  induction ns using List.reverseRecOn generalizing r with
  | nil =>
    refine Listing.nil fun a x hx => ?_
    obtain ⟨i, b, -, hi⟩ := hend a x hx
    exact Nat.not_lt_zero i hi
  | append_singleton ns n ih =>
    have hlast : (ns ++ [n])[ns.length]? = some n := List.getElem?_concat_length
    have hbefore : Listing (fun a x => r a x ∧ ∃ i b, a = i :: b ∧ i < ns.length) (ns.flatMap f) := by
      refine ih (fun i m hm => ?_) fun a x hx => hx.2
      have hi : i < ns.length := (List.getElem?_eq_some_iff.mp hm).1
      refine (h i m (by rw [List.getElem?_append_left hi, hm])).congr fun a x => ?_
      exact ⟨fun hx => ⟨hx, i, a, rfl, hi⟩, fun hx => hx.1⟩
    rw [List.flatMap_append, List.flatMap_singleton]
    refine hbefore.append (h _ n hlast) fun a x hx => ?_
    obtain ⟨i, b, rfl, hi⟩ := hend a x hx
    rw [List.length_append, List.length_singleton] at hi
    exact ⟨i, b, rfl, Nat.le_of_lt_succ hi⟩

/-- The same, where only some of the children contribute. -/
theorem flatMap_filter {ns : List β} {f : β → List α} {p : β → Bool}
    (h : ∀ i n, ns[i]? = some n → p n → Listing (fun a x => r (i :: a) x) (f n))
    (hend : ∀ a x, r a x → ∃ i b, a = i :: b ∧ ∃ n, ns[i]? = some n ∧ p n) :
    Listing r ((ns.filter p).flatMap f) := by
  have hguarded : (ns.filter p).flatMap f = ns.flatMap fun n => if p n then f n else [] := by
    clear h hend
    induction ns with
    | nil => rfl
    | cons n ns ih => by_cases hn : p n <;> simp [hn, ih]
  rw [hguarded]
  refine flatMap (fun i n hn => ?_) fun a x hx => ?_
  · by_cases hp : p n
    · rw [if_pos hp]
      exact h i n hn hp
    · rw [if_neg hp]
      refine Listing.nil fun a x hx => ?_
      obtain ⟨j, b, hab, m, hm, hpm⟩ := hend _ x hx
      cases hab
      rw [hn] at hm
      cases hm
      exact hp hpm
  · obtain ⟨i, b, rfl, n, hn, -⟩ := hend a x hx
    exact ⟨i, b, rfl, (List.getElem?_eq_some_iff.mp hn).1⟩

end Listing

end Overdue.Syntax
