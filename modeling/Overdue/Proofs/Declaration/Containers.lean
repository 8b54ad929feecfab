/-
Containers and their members.

Seen from the whole file, the rule for what items contribute comes to this. Items are the named nodes that one gets to
from the root through nothing but containers and their bodies (`ItemAt`). Of the items that go by a name those are
listed that have no other such item inside (`IsListed`), each of them once and in the order of the text. So a container
is listed if and only if no member of it is, at any depth, and whatever stands in the body of a function is not listed
at all.
-/
import Overdue.Proofs.Declaration.Contribution

set_option autoImplicit false

namespace Overdue.Language.Rust

open Overdue.Syntax

/-! ## Items and where they are -/

/-- Where the members of an item are, the members of members included, and the item itself. -/
inductive MemberAt : Node → List Nat → Node → Prop
  | self (n : Node) : MemberAt n [] n
  | inside {n body c m : Node} {j i : Nat} {a : List Nat} (hkind : n.kind ∈ containerKinds)
      (hbody : n.IsNamedChild j body) (hlist : body.kind = "declaration_list") (hc : body.IsNamedChild i c)
      (h : MemberAt c a m) : MemberAt n (j :: i :: a) m

/-- Where the items of a file are, or those of a body: the named children, and their members. -/
inductive ItemAt (root : Node) : List Nat → Node → Prop
  | mk {n m : Node} {i : Nat} {a : List Nat} (hn : root.IsNamedChild i n) (h : MemberAt n a m) :
      ItemAt root (i :: a) m

section Items

variable {n m : Node} {a : List Nat}

/-- An item below a named child of the root is a member of that child. -/
theorem itemAt_cons_iff {root c : Node} {i : Nat} (hc : root.IsNamedChild i c) (a : List Nat) (m : Node) :
    ItemAt root (i :: a) m ↔ MemberAt c a m := by
  refine ⟨fun h => ?_, fun h => .mk hc h⟩
  cases h with
  | mk hc' h =>
    cases hc.unique hc'
    exact h

/-- Inside a body, the members of a container are the items of the body. -/
theorem memberAt_cons_iff {body : Node} {j : Nat} (hkind : n.kind ∈ containerKinds) (hbody : n.IsNamedChild j body)
    (hlist : body.kind = "declaration_list") (a : List Nat) (m : Node) :
    MemberAt n (j :: a) m ↔ ItemAt body a m := by
  constructor
  · intro h
    cases h with
    | inside _ hbody' _ hc h =>
      cases hbody.unique hbody'
      exact .mk hc h
  · rintro ⟨hc, h⟩
    exact .inside hkind hbody hlist hc h

theorem MemberAt.at? (h : MemberAt n a m) : n.at? a = some m := by
  induction h with
  | self n => rfl
  | inside _ hbody _ hc _ ih => rw [Node.at?_cons hbody.here, Node.at?_cons hc.here, ih]

/-- An item is a node at its address. -/
theorem ItemAt.at? {root : Node} (h : ItemAt root a m) : root.at? a = some m := by
  cases h with
  | mk hn h => rw [Node.at?_cons hn.here, h.at?]

/-- The members of a member are members, at addresses that are longer. -/
theorem MemberAt.append_iff (h : MemberAt n a m) (b : List Nat) (k : Node) :
    MemberAt n (a ++ b) k ↔ MemberAt m b k := by
  induction h with
  | self n => rfl
  | inside hkind hbody hlist hc _ ih =>
    rw [List.cons_append, List.cons_append, memberAt_cons_iff hkind hbody hlist, itemAt_cons_iff hc, ih]

/-- The members of an item are items, at addresses that are longer. -/
theorem ItemAt.append_iff {root : Node} (h : ItemAt root a m) (b : List Nat) (k : Node) :
    ItemAt root (a ++ b) k ↔ MemberAt m b k := by
  cases h with
  | mk hn h => rw [List.cons_append, itemAt_cons_iff hn, h.append_iff]

/-- All that is around a member is containers and their bodies. -/
theorem MemberAt.around (h : MemberAt n a m) {b : List Nat} (hb : b <+: a) (hne : b ≠ a) :
    ∃ k, n.at? b = some k ∧ (k.kind ∈ containerKinds ∨ k.kind = "declaration_list") := by
  induction h generalizing b with
  | self n => exact absurd (List.prefix_nil.mp hb) hne
  | @inside n body c m j i a hkind hbody hlist hc _ ih =>
    -- the container itself, its body, or something around the member inside the body
    rcases List.prefix_cons_iff.mp hb with rfl | ⟨b, rfl, hinner⟩
    · exact ⟨n, rfl, .inl hkind⟩
    · rw [Node.at?_cons hbody.here]
      rcases List.prefix_cons_iff.mp hinner with rfl | ⟨b, rfl, hinmost⟩
      · exact ⟨body, rfl, .inr hlist⟩
      · rw [Node.at?_cons hc.here]
        exact ih hinmost fun heq => hne (by rw [heq])

end Items

/-! ## Innermost items -/

/-- Of items at addresses, the declaration of one that goes by a name, while none inside it does. -/
def Innermost (source : ByteArray) (items : List Nat → Node → Prop) (a : List Nat) (d : Declaration) : Prop :=
  ∃ n, items a n ∧ Declares source n d ∧ ∀ b m e, items b m → Declares source m e → a <+: b → b = a

/-- The declarations that a file is to be read into, by the addresses of their items. -/
def IsListed (source : ByteArray) (root : Node) : List Nat → Declaration → Prop := Innermost source (ItemAt root)

section Innermost

variable {source : ByteArray} {items items' : List Nat → Node → Prop}

/-- Which items are innermost does not depend on what they are looked at from. -/
theorem innermost_append_iff (c : List Nat) (h : ∀ a m, items (c ++ a) m ↔ items' a m) (a : List Nat)
    (d : Declaration) : Innermost source items (c ++ a) d ↔ Innermost source items' a d := by
  constructor
  · rintro ⟨n, hn, hd, hnone⟩
    refine ⟨n, (h a n).mp hn, hd, fun b m e hm he hb => ?_⟩
    have hsame := hnone (c ++ b) m e ((h b m).mpr hm) he ((List.prefix_append_right_inj c).mpr hb)
    exact List.append_cancel_left hsame
  · rintro ⟨n, hn, hd, hnone⟩
    refine ⟨n, (h a n).mpr hn, hd, fun b m e hm he hb => ?_⟩
    obtain ⟨rest, rfl⟩ := hb
    rw [List.append_assoc] at hm ⊢
    rw [hnone (a ++ rest) m e ((h _ m).mp hm) he (List.prefix_append a rest)]

/-- An item with no other item inside that goes by a name stands for itself. -/
theorem listing_declared {n : Node} (h : ∀ a m e, MemberAt n a m → Declares source m e → a = []) :
    Listing (Innermost source (MemberAt n)) (declared source n) := by
  have hoption : declared source n = ((itemName? source n).map fun name => ⟨name, n.start, n.stop⟩).toList := by
    rw [declared]
    cases itemName? source n <;> rfl
  rw [hoption]
  refine Listing.ofOption fun a d => ?_
  rw [← Option.mem_toList, ← hoption, mem_declared_iff]
  constructor
  · rintro ⟨m, hm, hd, -⟩
    obtain rfl := h a m d hm hd
    cases hm
    exact ⟨rfl, hd⟩
  · rintro ⟨rfl, hd⟩
    exact ⟨n, .self n, hd, fun b m e hm he _ => h b m e hm he⟩

/-- What the items of a body contribute is a listing if what each of them contributes is one. -/
theorem listing_items {body : Node}
    (h : ∀ c ∈ body.namedChildren, Listing (Innermost source (MemberAt c)) (contributed source c)) :
    Listing (Innermost source (ItemAt body)) (body.namedChildren.flatMap (contributed source)) := by
  refine Listing.flatMap_filter (fun i c hc hnamed => ?_) ?_
  · have hchild : body.IsNamedChild i c := ⟨hc, hnamed⟩
    refine (h c hchild.mem).congr fun a d => Iff.symm ?_
    exact innermost_append_iff [i] (itemAt_cons_iff hchild) a d
  · rintro a d ⟨n, hn, -⟩
    cases hn with
    | mk hn _ => exact ⟨_, _, rfl, _, hn.here, hn.named⟩

/-- An item with something inside that goes by a name contributes something. -/
theorem contributed_ne_nil {n m : Node} {a : List Nat} {d : Declaration} (h : MemberAt n a m)
    (hd : Declares source m d) : contributed source n ≠ [] := by
  have hrule := containerRule_contributed source
  induction h with
  | self n =>
    have hne : declared source n ≠ [] := List.ne_nil_of_mem (mem_declared_iff.mpr hd)
    by_cases hkind : n.kind ∈ containerKinds
    · rw [hrule.container n hkind]
      split
      · exact hne
      · assumption
    · rwa [contributed_of_not_container hkind]
  | @inside n body c m j i a hkind hbody hlist hc _ ih =>
    have hinside : (members n).flatMap (contributed source) ≠ [] := by
      intro hnil
      have hmember : c ∈ members n := mem_members_iff.mpr ⟨j, body, i, hbody, hlist, hc⟩
      exact ih hd (List.flatMap_eq_nil_iff.mp hnil c hmember)
    rwa [hrule.container n hkind, if_neg hinside]

/-- A container with a member that contributes something is not innermost. -/
theorem not_innermost_of_member {n c : Node} (hkind : n.kind ∈ containerKinds) (hc : c ∈ members n)
    (hlisting : Listing (Innermost source (MemberAt c)) (contributed source c)) (hne : contributed source c ≠ []) :
    ¬∀ b m e, MemberAt n b m → Declares source m e → [] <+: b → b = [] := by
  obtain ⟨b, e, m, hm, he, -⟩ := hlisting.ne_nil_iff.mp hne
  obtain ⟨j, body, i, hbody, hlist, hc⟩ := mem_members_iff.mp hc
  intro hnone
  have hsame := hnone (j :: i :: b) m e (.inside hkind hbody hlist hc hm) he List.nil_prefix
  cases hsame

/-- What an item contributes are the innermost of its members that go by a name. -/
theorem listing_contributed (source : ByteArray) (n : Node) :
    Listing (Innermost source (MemberAt n)) (contributed source n) := by
  have hmembers (c : Node) (hc : c ∈ members n) : Listing (Innermost source (MemberAt c)) (contributed source c) :=
    have := sizeOf_lt_of_mem_members hc
    listing_contributed source c
  by_cases hkind : n.kind ∈ containerKinds
  · rw [(containerRule_contributed source).container n hkind]
    by_cases hinside : (members n).flatMap (contributed source) = []
    · rw [if_pos hinside]
      refine listing_declared fun a m e hm he => ?_
      cases hm with
      | self => rfl
      | inside _ hbody hlist hc hm =>
        -- a member that goes by a name would have contributed something
        have hmember := mem_members_iff.mpr ⟨_, _, _, hbody, hlist, hc⟩
        exact absurd (List.flatMap_eq_nil_iff.mp hinside _ hmember) (contributed_ne_nil hm he)
    · rw [if_neg hinside, flatMap_members, Node.namedChildren, List.filter_filter]
      refine Listing.flatMap_filter (fun j body hbody hp => ?_) ?_
      · rw [Bool.and_eq_true, beq_iff_eq] at hp
        have hchild : n.IsNamedChild j body := ⟨hbody, hp.2⟩
        refine (listing_items fun c hc => ?_).congr fun a d => Iff.symm ?_
        · obtain ⟨i, hc⟩ := Node.mem_namedChildren_iff.mp hc
          exact hmembers c (mem_members_iff.mpr ⟨j, body, i, hchild, hp.1, hc⟩)
        · exact innermost_append_iff [j] (memberAt_cons_iff hkind hchild hp.1) a d
      · rintro a d ⟨m, hm, -, hnone⟩
        cases hm with
        | inside _ hbody hlist _ _ => exact ⟨_, _, rfl, _, hbody.here, by simp [hlist, hbody.named]⟩
        | self =>
          obtain ⟨c, hc, hne⟩ : ∃ c ∈ members n, contributed source c ≠ [] := by
            simpa [List.flatMap_eq_nil_iff] using hinside
          exact absurd hnone (not_innermost_of_member hkind hc (hmembers c hc) hne)
  · rw [contributed_of_not_container hkind]
    refine listing_declared fun a m e hm _ => ?_
    cases hm with
    | self => rfl
    | inside hcontainer => exact absurd hcontainer hkind
termination_by sizeOf n

end Innermost

/-! ## The declarations of a file -/

section File

variable {source : ByteArray} {root n : Node} {a : List Nat} {d : Declaration}

/-- A node declares one thing at most. -/
theorem Declares.unique {e : Declaration} (hd : Declares source n d) (he : Declares source n e) : d = e := by
  have hname := (itemName?_eq_some_iff.mpr hd.name).symm.trans (itemName?_eq_some_iff.mpr he.name)
  obtain ⟨name, start, stop⟩ := d
  obtain ⟨name', start', stop'⟩ := e
  cases hname
  cases hd.start.trans he.start.symm
  cases hd.stop.trans he.stop.symm
  rfl

/-- At or inside an item that goes by a name, there is one that is listed. -/
theorem exists_isListed (hn : ItemAt root a n) (hd : Declares source n d) :
    ∃ b e, a <+: b ∧ IsListed source root b e := by
  obtain ⟨b, e, he⟩ := (listing_contributed source n).ne_nil_iff.mp (contributed_ne_nil (.self n) hd)
  exact ⟨a ++ b, e, List.prefix_append a b, (innermost_append_iff a hn.append_iff b e).mpr he⟩

/-- An item that goes by a name is listed if and only if nothing inside it is. -/
theorem isListed_iff (hn : ItemAt root a n) (hd : Declares source n d) :
    IsListed source root a d ↔ ∀ b e, IsListed source root b e → a <+: b → b = a := by
  constructor
  · rintro ⟨-, -, -, hnone⟩ b e ⟨m, hm, he, -⟩ hb
    exact hnone b m e hm he hb
  · intro hnone
    obtain ⟨b, e, hb, he⟩ := exists_isListed hn hd
    obtain rfl := hnone b e he hb
    obtain ⟨m, hm, hdeclares, -⟩ := id he
    cases Option.some.inj (hn.at?.symm.trans hm.at?)
    rwa [hd.unique hdeclares]

/-- The declarations are a listing of what is listed, in the order of the addresses. -/
theorem listing_declarations (source : ByteArray) (root : Node) :
    Listing (IsListed source root) (declarations source root) := by
  rw [declarations_eq_flatMap]
  exact listing_items fun c _ => listing_contributed source c

/-- What an item contributes, it contributes to the file. -/
theorem mem_declarations_of_contributed (hn : ItemAt root a n) (hd : d ∈ contributed source n) :
    d ∈ declarations source root := by
  obtain ⟨b, hb⟩ := (listing_contributed source n).exists_of_mem hd
  have hlisted : IsListed source root (a ++ b) d := (innermost_append_iff a hn.append_iff b d).mpr hb
  obtain ⟨e, he, m, hm, hdeclares, -⟩ := (listing_declarations source root).exists_mem hlisted
  obtain ⟨m', hm', hdeclares', -⟩ := hlisted
  cases Option.some.inj (hm.at?.symm.trans hm'.at?)
  rwa [hdeclares'.unique hdeclares]

/-- What an item contributes lies within it. -/
theorem within_of_mem_contributed (h : n.IsLaid) (hd : d ∈ contributed source n) :
    n.start ≤ d.start ∧ d.stop ≤ n.stop := by
  obtain ⟨b, m, hm, hdeclares, -⟩ := (listing_contributed source n).exists_of_mem hd
  obtain ⟨-, hstart, hstop⟩ := h.at? hm.at?
  rw [hdeclares.start, hdeclares.stop]
  exact ⟨hstart, hstop⟩

/-- All that is around a declaration that is listed is containers and their bodies. -/
theorem IsListed.around (hd : IsListed source root a d) {b : List Nat} (hb : b <+: a) (hne : b ≠ []) (hb' : b ≠ a) :
    ∃ k, root.at? b = some k ∧ (k.kind ∈ containerKinds ∨ k.kind = "declaration_list") := by
  obtain ⟨m, ⟨hn, hm⟩, -⟩ := hd
  rcases List.prefix_cons_iff.mp hb with rfl | ⟨b, rfl, hinner⟩
  · exact absurd rfl hne
  · rw [Node.at?_cons hn.here]
    exact hm.around hinner fun heq => hb' (by rw [heq])

/-- A file is read into what its items contribute, by the rule for containers: the innermost items that go by a name,
once each and in the order of the text. What goes by a name contributes something, and nothing outside of itself; it is
listed if and only if nothing inside it is. Around what is listed there are only containers and their bodies, so what
stands in the body of a function is never listed. -/
theorem declarations_innermost (source : ByteArray) (root : Node) :
    ContainerRule source (contributed source) ∧
    (∀ n d, d ∈ declared source n ↔ Declares source n d) ∧
    declarations source root = root.namedChildren.flatMap (contributed source) ∧
    Listing (IsListed source root) (declarations source root) ∧
    (∀ n d, Declares source n d → contributed source n ≠ [] ∧
      (n.IsLaid → ∀ e ∈ contributed source n, n.start ≤ e.start ∧ e.stop ≤ n.stop)) ∧
    (∀ a n, ItemAt root a n → (∀ d ∈ contributed source n, d ∈ declarations source root) ∧
      ∀ d, Declares source n d →
        (IsListed source root a d ↔ ∀ b e, IsListed source root b e → a <+: b → b = a)) ∧
    ∀ a d, IsListed source root a d → ∀ b, b <+: a → b ≠ [] → b ≠ a →
      ∃ k, root.at? b = some k ∧ (k.kind ∈ containerKinds ∨ k.kind = "declaration_list") := by
  refine ⟨containerRule_contributed source, fun n d => mem_declared_iff, declarations_eq_flatMap source root,
    listing_declarations source root, fun n d hd => ?_, fun a n hn => ?_,
    fun a d hd b hb hne hb' => hd.around hb hne hb'⟩
  · exact ⟨contributed_ne_nil (.self n) hd, fun hlaid e he => within_of_mem_contributed hlaid he⟩
  · exact ⟨fun d hd => mem_declarations_of_contributed hn hd, fun d hd => isListed_iff hn hd⟩

end File

/-! ## A file with containers

A module that holds an empty `impl` and a function with another function in its body.
-/

namespace Nested

def source : ByteArray := "mod m\x7bimpl T\x7b\x7dfn f()\x7bfn g()\x7b\x7d\x7d\x7d".toUTF8

def outer : Node :=
  .written "mod_item" none 0 31
    [.written "identifier" (some "name") 4 5 [],
      .written "declaration_list" (some "body") 5 31
        [.written "impl_item" none 6 14
            [.written "type_identifier" (some "type") 11 12 [],
              .written "declaration_list" (some "body") 12 14 []],
          .written "function_item" none 14 30
            [.written "identifier" (some "name") 17 18 [],
              .written "block" (some "body") 20 30
                [.written "function_item" none 21 29 [.written "identifier" (some "name") 24 25 []]]]]]

def root : Node := .written "source_file" none 0 31 [outer]

theorem isLaid_outer : outer.IsLaid := by
  simp [outer, Node.written, Node.IsLaid, Node.AreLaid]

theorem declares_outer : Declares source outer ⟨"m", 0, 31⟩ :=
  ⟨.named (.inr (.inr rfl)) (by decide), rfl, rfl⟩

theorem itemAt_outer : ItemAt root [0] outer := .mk ⟨rfl, rfl⟩ (.self outer)

end Nested

/-- The module goes by a name, so there is something in it that is read, and what that is lies within the module. The
module itself is listed if and only if nothing inside it is. -/
theorem declarations_innermost_nested :
    Declares Nested.source Nested.outer ⟨"m", 0, 31⟩ ∧ Nested.outer.IsLaid ∧ ItemAt Nested.root [0] Nested.outer ∧
    (∃ d ∈ declarations Nested.source Nested.root, 0 ≤ d.start ∧ d.stop ≤ 31) ∧
    (IsListed Nested.source Nested.root [0] ⟨"m", 0, 31⟩ ↔
      ∀ b e, IsListed Nested.source Nested.root b e → [0] <+: b → b = [0]) := by
  obtain ⟨-, -, -, -, hnames, hitems, -⟩ := declarations_innermost Nested.source Nested.root
  obtain ⟨hne, hwithin⟩ := hnames Nested.outer _ Nested.declares_outer
  obtain ⟨hread, hlisted⟩ := hitems [0] Nested.outer Nested.itemAt_outer
  obtain ⟨d, hd⟩ := List.exists_mem_of_ne_nil _ hne
  exact ⟨Nested.declares_outer, Nested.isLaid_outer, Nested.itemAt_outer,
    ⟨d, hread d hd, hwithin Nested.isLaid_outer d hd⟩, hlisted _ Nested.declares_outer⟩

example : declarations Nested.source Nested.root = [⟨"T", 6, 14⟩, ⟨"f", 14, 30⟩] := by decide

end Overdue.Language.Rust
