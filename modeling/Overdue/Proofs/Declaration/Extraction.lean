/-
Declarations in the order of the text.

What a language reads off a syntax tree is a list of declarations, each with the span of a node. Where the
nodes are laid out (`Node.IsLaid`), the declarations come out the same way: one behind the other, and never
one inside another. For Go that is plain, since only the top level counts. For Rust it is because a container
is listed only when nothing inside it is, so at any depth what an item adds stays within the item.

A declaration has a name, and its name is the text of a node inside it. So it covers some text if names do
(`Node.SpellsNames`), which is up to the grammar: of the tokens that a grammar can derive, only those that
are missing and those that a scanner may find empty have no text, and no name is one of them.
-/
import Overdue.Proofs.Syntax.Layout
import Overdue.Source

set_option autoImplicit false

namespace Overdue

open Overdue.Syntax

/-! ## Declarations in order -/

namespace Declaration

/-- Declarations stand in order between two offsets. -/
def AreLaid (start stop : Nat) : List Declaration → Prop
  | [] => start ≤ stop
  | d :: ds => start ≤ d.start ∧ d.start ≤ d.stop ∧ AreLaid d.stop stop ds

theorem AreLaid.start_le_stop {start stop : Nat} {ds : List Declaration} (h : AreLaid start stop ds) :
    start ≤ stop := by
  induction ds generalizing start with
  | nil => exact h
  | cons d ds ih =>
    obtain ⟨hstart, hspan, hds⟩ := h
    have hrest := ih hds
    omega

/-- Declarations of one stretch and then of the next one are laid out over both. -/
theorem AreLaid.append {start middle stop : Nat} {ds es : List Declaration}
    (hds : AreLaid start middle ds) (hes : AreLaid middle stop es) : AreLaid start stop (ds ++ es) := by
  induction ds generalizing start with
  | nil =>
    have hstart : start ≤ middle := hds
    cases es with
    | nil => exact Nat.le_trans hstart hes
    | cons e es => exact ⟨Nat.le_trans hstart hes.1, hes.2⟩
  | cons d ds ih => exact ⟨hds.1, hds.2.1, ih hds.2.2⟩

/-- Declarations in order are in order between offsets that are further apart. -/
theorem AreLaid.mono {start start' stop stop' : Nat} {ds : List Declaration} (h : AreLaid start stop ds)
    (hstart : start' ≤ start) (hstop : stop ≤ stop') : AreLaid start' stop' ds := by
  have hbefore : AreLaid start' start [] := hstart
  have hafter : AreLaid stop stop' [] := hstop
  have hall := hbefore.append (h.append hafter)
  rw [List.nil_append, List.append_nil] at hall
  exact hall

/-- Each declaration lies within the stretch. -/
theorem AreLaid.of_mem {start stop : Nat} {ds : List Declaration} (h : AreLaid start stop ds)
    {d : Declaration} (hd : d ∈ ds) : start ≤ d.start ∧ d.start ≤ d.stop ∧ d.stop ≤ stop := by
  induction ds generalizing start with
  | nil => cases hd
  | cons e es ih =>
    obtain ⟨hstart, hspan, hes⟩ := h
    rcases List.mem_cons.mp hd with rfl | hd
    · exact ⟨hstart, hspan, hes.start_le_stop⟩
    · have hrest := ih hes hd
      omega

/-- Of two declarations in order, the later one starts where the earlier one stops, or further on. -/
theorem AreLaid.pairwise {start stop : Nat} {ds : List Declaration} (h : AreLaid start stop ds) :
    ds.Pairwise fun d e => d.stop ≤ e.start := by
  induction ds generalizing start with
  | nil => exact .nil
  | cons d ds ih =>
    obtain ⟨-, -, hds⟩ := h
    exact .cons (fun e he => (hds.of_mem he).1) (ih hds)

end Declaration

/-! ## Names that are spelled out -/

namespace Syntax

mutual

/-- The nodes that their parents know by a name or a type cover some text. -/
def Node.SpellsNames : Node → Prop
  | ⟨info, children⟩ =>
    (info.field = some "name" ∨ info.field = some "type" → info.start < info.stop) ∧
      Node.AllSpellNames children

def Node.AllSpellNames : List Node → Prop
  | [] => True
  | n :: ns => n.SpellsNames ∧ Node.AllSpellNames ns

end

namespace Node

mutual

/-- Whether names are spelled out can be seen by going through the nodes. -/
def decidableSpellsNames : (n : Node) → Decidable n.SpellsNames
  | ⟨info, children⟩ =>
    have := decidableAllSpellNames children
    inferInstanceAs (Decidable ((info.field = some "name" ∨ info.field = some "type" →
      info.start < info.stop) ∧ AllSpellNames children))

def decidableAllSpellNames : (ns : List Node) → Decidable (AllSpellNames ns)
  | [] => inferInstanceAs (Decidable True)
  | n :: ns =>
    have := decidableSpellsNames n
    have := decidableAllSpellNames ns
    inferInstanceAs (Decidable (n.SpellsNames ∧ AllSpellNames ns))

end

instance (n : Node) : Decidable n.SpellsNames := decidableSpellsNames n

theorem AllSpellNames.of_mem {ns : List Node} (h : AllSpellNames ns) {n : Node} (hn : n ∈ ns) :
    n.SpellsNames := by
  induction ns with
  | nil => cases hn
  | cons m ms ih =>
    rw [AllSpellNames] at h
    rcases List.mem_cons.mp hn with rfl | hn
    · exact h.1
    · exact ih h.2 hn

theorem SpellsNames.children {n : Node} (h : n.SpellsNames) : AllSpellNames n.children := by
  obtain ⟨info, children⟩ := n
  rw [SpellsNames] at h
  exact h.2

/-- A node covers some text if one of its children does. -/
theorem IsLaid.start_lt_stop_of_mem {n c : Node} (h : n.IsLaid) (hc : c ∈ n.children)
    (hspan : c.start < c.stop) : n.start < n.stop := by
  obtain ⟨-, hstart, hstop⟩ := ((isLaid_iff n).mp h).of_mem hc
  omega

/-- A node with a name, or with a type, covers some text. -/
theorem IsLaid.start_lt_stop_of_child? {n c : Node} {field : String} (h : n.IsLaid) (hn : n.SpellsNames)
    (hfield : field = "name" ∨ field = "type") (hc : n.child? field = some c) : n.start < n.stop := by
  rw [child?] at hc
  have hmem : c ∈ n.children := List.mem_of_find?_eq_some hc
  have hknown := List.find?_some hc
  rw [beq_iff_eq] at hknown
  have hspelled := hn.children.of_mem hmem
  obtain ⟨info, children⟩ := c
  rw [SpellsNames] at hspelled
  refine h.start_lt_stop_of_mem hmem (hspelled.1 ?_)
  rcases hfield with rfl | rfl
  · exact .inl hknown
  · exact .inr hknown

/-- A node that has a name takes up some text. -/
theorem IsLaid.start_lt_stop_of_name? {source : ByteArray} {n : Node} {name : String} (h : n.IsLaid)
    (hn : n.SpellsNames) (hname : n.name? source = some name) : n.start < n.stop := by
  rw [name?, Option.bind_eq_some_iff] at hname
  obtain ⟨c, hc, -⟩ := hname
  exact h.start_lt_stop_of_child? hn (.inl rfl) hc

end Node

end Syntax

/-! ## Declarations that are added -/

namespace Declaration

/-- What reading nodes adds to the declarations found so far: some in order between two offsets, each of
which covers some text if the names in the nodes do. -/
def Adds (before after : Array Declaration) (start stop : Nat) (spelled : Prop) : Prop :=
  ∃ ds, after.toList = before.toList ++ ds ∧ AreLaid start stop ds ∧
    (spelled → ∀ d ∈ ds, d.start < d.stop)

namespace Adds

variable {found found' found'' : Array Declaration} {start middle stop : Nat} {spelled spelled' : Prop}

theorem none (h : start ≤ stop) : Adds found found start stop spelled :=
  ⟨[], (List.append_nil _).symm, h, fun _ => nofun⟩

/-- What is added in a stretch and then in the next one is laid out over both. -/
theorem trans (h : Adds found found' start middle spelled)
    (h' : Adds found' found'' middle stop spelled') :
    Adds found found'' start stop (spelled ∧ spelled') := by
  obtain ⟨ds, hds, hlaid, hspans⟩ := h
  obtain ⟨es, hes, hlaid', hspans'⟩ := h'
  refine ⟨ds ++ es, by rw [hes, hds, List.append_assoc], hlaid.append hlaid', fun hspelled d hd => ?_⟩
  rcases List.mem_append.mp hd with hd | hd
  · exact hspans hspelled.1 d hd
  · exact hspans' hspelled.2 d hd

/-- What is added in a stretch is added in any longer one. -/
theorem mono {start' stop' : Nat} (h : Adds found found' start stop spelled) (hstart : start' ≤ start)
    (hstop : stop ≤ stop') (hspelled : spelled' → spelled) : Adds found found' start' stop' spelled' := by
  obtain ⟨ds, hds, hlaid, hspans⟩ := h
  exact ⟨ds, hds, hlaid.mono hstart hstop, fun h => hspans (hspelled h)⟩

/-- Adding nothing leaves the size as it was. -/
theorem toList_eq_of_size_le (h : Adds found found' start stop spelled) (hsize : found'.size ≤ found.size) :
    found'.toList = found.toList := by
  obtain ⟨ds, hds, -, -⟩ := h
  have hlength := congrArg List.length hds
  rw [List.length_append, Array.length_toList, Array.length_toList] at hlength
  have hnil : ds = [] := List.eq_nil_of_length_eq_zero (by omega)
  rw [hds, hnil, List.append_nil]

end Adds

end Declaration

/-! ## Go -/

namespace Language.Go

open Declaration

mutual

/-- A node with a member in it covers some text. -/
theorem start_lt_stop_of_specName? (source : ByteArray) (n : Node) {name : String} (h : n.IsLaid)
    (hn : n.SpellsNames) (hname : specName? source n = some name) : n.start < n.stop := by
  obtain ⟨info, children⟩ := n
  rw [specName?] at hname
  split at hname
  · exact h.start_lt_stop_of_name? hn hname
  · obtain ⟨c, hc, hspan⟩ := exists_of_firstSpecName? source children
      (fun c hc => (((Node.isLaid_iff _).mp h).of_mem hc).1) hn.children hname
    exact h.start_lt_stop_of_mem hc hspan

/-- A group with a name has a member that takes up some text. -/
theorem exists_of_firstSpecName? (source : ByteArray) (ns : List Node) {name : String}
    (h : ∀ n ∈ ns, n.IsLaid) (hns : Node.AllSpellNames ns)
    (hname : firstSpecName? source ns = some name) : ∃ n ∈ ns, n.start < n.stop := by
  cases ns with
  | nil =>
    rw [firstSpecName?] at hname
    cases hname
  | cons n ns =>
    rw [Node.AllSpellNames] at hns
    -- A node without a member, or without a name, leaves the search to those after it.
    have hrest (hname : firstSpecName? source ns = some name) : ∃ m ∈ n :: ns, m.start < m.stop := by
      obtain ⟨m, hm, hspan⟩ := exists_of_firstSpecName? source ns
        (fun m hm => h m (List.mem_cons_of_mem n hm)) hns.2 hname
      exact ⟨m, List.mem_cons_of_mem n hm, hspan⟩
    rw [firstSpecName?] at hname
    split at hname
    · cases hspec : specName? source n with
      | some found =>
        exact ⟨n, List.mem_cons_self,
          start_lt_stop_of_specName? source n (h n List.mem_cons_self) hns.1 hspec⟩
      | none =>
        rw [hspec] at hname
        exact hrest hname
    · exact hrest hname

end

/-- A node that is declared takes up some text. -/
theorem start_lt_stop_of_declaredName? {source : ByteArray} {n : Node} {name : String} (h : n.IsLaid)
    (hn : n.SpellsNames) (hname : declaredName? source n = some name) : n.start < n.stop := by
  rw [declaredName?] at hname
  split at hname
  · exact h.start_lt_stop_of_name? hn hname
  · split at hname
    · obtain ⟨c, hc, hspan⟩ := exists_of_firstSpecName? source n.children
        (fun c hc => (((Node.isLaid_iff n).mp h).of_mem hc).1) hn.children hname
      exact h.start_lt_stop_of_mem hc hspan
    · cases hname

/-- The declarations at the top level stand in order. -/
theorem declarations_areLaid (source : ByteArray) {start stop : Nat} {ns : List Node}
    (h : Node.AreLaid start stop ns) :
    AreLaid start stop ((ns.filter (·.named)).filterMap fun n =>
      (declaredName? source n).map fun name => ⟨name, n.start, n.stop⟩) := by
  induction ns generalizing start with
  | nil => exact h
  | cons n ns ih =>
    rw [Node.AreLaid] at h
    obtain ⟨hstart, hn, hns⟩ := h
    have hspan := Node.IsLaid.start_le_stop n hn
    -- What comes after a node that is not listed may start where the node does.
    have hlater := (ih hns).mono (Nat.le_trans hstart hspan) (Nat.le_refl _)
    rw [List.filter_cons]
    split
    · rw [List.filterMap_cons]
      cases declaredName? source n with
      | none => exact hlater
      | some name => exact ⟨hstart, hspan, ih hns⟩
    · exact hlater

end Language.Go

/-! ## Rust -/

namespace Language.Rust

open Declaration

/-- A node that is added for itself covers its own span. -/
theorem addNamed_adds {n : Node} {name? : Option String} {found : Array Declaration} {spelled : Prop}
    (h : n.IsLaid) (hspan : spelled → ∀ name, name? = some name → n.start < n.stop) :
    Adds found (addNamed n name? found) n.start n.stop spelled := by
  cases name? with
  | none => exact .none (Node.IsLaid.start_le_stop n h)
  | some name =>
    refine ⟨[⟨name, n.start, n.stop⟩], Array.toList_push, ?_, fun hspelled d hd => ?_⟩
    · exact ⟨Nat.le_refl _, Node.IsLaid.start_le_stop n h, Nat.le_refl _⟩
    · obtain rfl := List.mem_singleton.mp hd
      exact hspan hspelled name rfl

/-- A container that goes by a name takes up some text. -/
theorem start_lt_stop_of_containerName? {source : ByteArray} {n : Node} {name : String} (h : n.IsLaid)
    (hn : n.SpellsNames) (hname : containerName? source n = some name) : n.start < n.stop := by
  rw [containerName?] at hname
  split at hname
  · rw [implementedType?] at hname
    cases htype : n.child? "type" with
    | none =>
      rw [htype] at hname
      cases hname
    | some type => exact h.start_lt_stop_of_child? hn (.inr rfl) htype
  · exact h.start_lt_stop_of_name? hn hname

mutual

/-- What an item adds stays within the item. -/
theorem collectItem_adds (source : ByteArray) (n : Node) (found : Array Declaration) (h : n.IsLaid) :
    Adds found (collectItem source n found) n.start n.stop n.SpellsNames := by
  obtain ⟨info, children⟩ := n
  -- The cases are those of the item: plain, a container, or nothing that is listed.
  have hspan := Node.IsLaid.start_le_stop _ h
  rw [collectItem]
  split
  · exact addNamed_adds h fun hn name hname => h.start_lt_stop_of_name? hn hname
  · split
    · have hbodies := collectBodies_adds source children found ((Node.isLaid_iff _).mp h)
      dsimp only
      split
      · exact hbodies.mono (Nat.le_refl _) (Nat.le_refl _) Node.SpellsNames.children
      · -- The container has no members that are listed, so it stands for itself.
        rename_i hsize
        have hsame := hbodies.toList_eq_of_size_le (Nat.le_of_not_lt hsize)
        obtain ⟨ds, hds, hlaid⟩ := addNamed_adds h
          fun hn name hname => start_lt_stop_of_containerName? h hn hname
        exact ⟨ds, by rw [hds, hsame], hlaid⟩
    · exact .none hspan

/-- What is collected from nodes in order is added within their stretch. -/
theorem collectItems_adds (source : ByteArray) {start stop : Nat} (ns : List Node)
    (found : Array Declaration) (h : Node.AreLaid start stop ns) :
    Adds found (collectItems source ns found) start stop (Node.AllSpellNames ns) := by
  cases ns with
  | nil =>
    rw [collectItems]
    exact .none h
  | cons n ns =>
    rw [Node.AreLaid] at h
    obtain ⟨hstart, hn, hns⟩ := h
    have hitem : Adds found (if n.named then collectItem source n found else found) start n.stop
        n.SpellsNames := by
      split
      · exact (collectItem_adds source n found hn).mono hstart (Nat.le_refl _) id
      · exact .none (Nat.le_trans hstart (Node.IsLaid.start_le_stop n hn))
    rw [collectItems, Node.AllSpellNames]
    exact hitem.trans (collectItems_adds source ns _ hns)

/-- What is collected from the bodies among nodes in order is added within their stretch. -/
theorem collectBodies_adds (source : ByteArray) {start stop : Nat} (ns : List Node)
    (found : Array Declaration) (h : Node.AreLaid start stop ns) :
    Adds found (collectBodies source ns found) start stop (Node.AllSpellNames ns) := by
  cases ns with
  | nil =>
    rw [collectBodies]
    exact .none h
  | cons n ns =>
    obtain ⟨info, children⟩ := n
    rw [Node.AreLaid] at h
    obtain ⟨hstart, hn, hns⟩ := h
    -- Only a body is entered, and its items lie within it.
    have hbody : Adds found
        (if info.named && info.kind == "declaration_list" then collectItems source children found
          else found) start info.stop (Node.SpellsNames ⟨info, children⟩) := by
      split
      · exact (collectItems_adds source children found ((Node.isLaid_iff _).mp hn)).mono hstart
          (Nat.le_refl _) Node.SpellsNames.children
      · exact .none (Nat.le_trans hstart (Node.IsLaid.start_le_stop _ hn))
    rw [collectBodies, Node.AllSpellNames]
    exact hbody.trans (collectBodies_adds source ns _ hns)

end

end Language.Rust

/-! ## Both languages -/

/-- The declarations that are read off a syntax tree stand in order within the root, and each covers some
text if names do. -/
theorem Language.declarations_areLaid (language : Language) (source : ByteArray) {root : Node}
    (h : root.IsLaid) :
    Declaration.AreLaid root.start root.stop (language.declarations source root) ∧
    (root.SpellsNames → ∀ d ∈ language.declarations source root, d.start < d.stop) := by
  have hchildren := (Node.isLaid_iff root).mp h
  cases language with
  | go =>
    refine ⟨Go.declarations_areLaid source hchildren, fun hroot d hd => ?_⟩
    obtain ⟨n, hn, hd⟩ := List.mem_filterMap.mp hd
    obtain ⟨name, hname, rfl⟩ := Option.map_eq_some_iff.mp hd
    have hmem := (List.mem_filter.mp hn).1
    exact Go.start_lt_stop_of_declaredName? (hchildren.of_mem hmem).1 (hroot.children.of_mem hmem) hname
  | rust =>
    obtain ⟨ds, hds, hlaid, hspans⟩ := Rust.collectItems_adds source root.children #[] hchildren
    have hall : Rust.declarations source root = ds := hds
    rw [declarations, hall]
    exact ⟨hlaid, fun hroot => hspans hroot.children⟩

end Overdue
