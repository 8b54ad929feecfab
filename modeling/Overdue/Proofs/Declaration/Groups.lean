/-
Groups and their first members.

In a Go file only the children of the root are declarations. A function or method goes by its own name; a group of
types, constants or variables goes by the name of a spec inside it. Where specs are is said by addresses (`SpecAt`):
a spec may be wrapped in other nodes at any depth, but not in another spec. Of the specs that have a name, the one
with the least address gives its name to the group (`GoesBy`), since addresses are in the order of the text.

The search goes through named nodes only. In the trees of the grammar the other nodes are tokens, with nothing inside
(`isBare`), and where that is so the search passes over no spec at all.
-/
import Overdue.Language.GoDeclarations
import Overdue.Proofs.Syntax.Address

set_option autoImplicit false

namespace Overdue.Language.Go

open Overdue.Syntax

/-! ## Specs -/

/-- Whether a node is a spec. -/
def isSpec (n : Node) : Bool := specKinds.contains n.kind

/-- Where the specs in a node are: in no other spec, and with only named nodes on the way. -/
structure SpecAt (n : Node) (a : List Nat) (s : Node) : Prop where
  outermost : n.IsOutermost isSpec a s
  named : ∀ b, b <+: a → b ≠ [] → ∀ m, n.at? b = some m → m.named

/-- Where the specs with a name are, and their names. -/
def NamedSpecAt (source : ByteArray) (n : Node) (a : List Nat) (name : String) : Prop :=
  ∃ s, SpecAt n a s ∧ s.name? source = some name

section Specs

variable {source : ByteArray} {n : Node} {a : List Nat}

/-- A member at an address has one name. -/
theorem namedSpecAt_unique {name name' : String} (h : NamedSpecAt source n a name)
    (h' : NamedSpecAt source n a name') : name = name' := by
  obtain ⟨s, hs, hname⟩ := h
  obtain ⟨s', hs', hname'⟩ := h'
  cases hs.outermost.unique hs'.outermost
  exact Option.some.inj (hname.symm.trans hname')

theorem specAt_self (h : isSpec n) : SpecAt n [] n :=
  ⟨Node.isOutermost_self h, fun _ hb hne => absurd (List.prefix_nil.mp hb) hne⟩

/-- In a node that is not a spec, the specs are those of its named children. -/
theorem specAt_cons_iff (h : ¬isSpec n) {c : Node} {i : Nat} (hc : n.IsNamedChild i c) (a : List Nat) (s : Node) :
    SpecAt n (i :: a) s ↔ SpecAt c a s := by
  constructor
  · intro hs
    refine ⟨(Node.isOutermost_cons_iff h hc.here a s).mp hs.outermost, fun b hb _ m hm => ?_⟩
    refine hs.named (i :: b) ((List.prefix_cons_inj i).mpr hb) (List.cons_ne_nil i b) m ?_
    rw [Node.at?_cons hc.here, hm]
  · intro hs
    refine ⟨(Node.isOutermost_cons_iff h hc.here a s).mpr hs.outermost, fun b hb hne m hm => ?_⟩
    rcases List.prefix_cons_iff.mp hb with rfl | ⟨b, rfl, hinner⟩
    · exact absurd rfl hne
    · rw [Node.at?_cons hc.here] at hm
      -- the first node on the way is the child itself
      by_cases hnil : b = []
      · subst hnil
        cases hm
        exact hc.named
      · exact hs.named b hinner hnil m hm

/-- In a node that is not a spec, a spec lies inside a named child. -/
theorem SpecAt.exists_child (h : ¬isSpec n) {s : Node} (hs : SpecAt n a s) :
    ∃ i b, a = i :: b ∧ ∃ c, n.children[i]? = some c ∧ c.named := by
  cases a with
  | nil =>
    obtain rfl : n = s := Option.some.inj hs.outermost.here
    exact absurd hs.outermost.picked h
  | cons i b =>
    obtain ⟨c, hc, -⟩ := Node.at?_cons_eq_some_iff.mp hs.outermost.here
    have hfirst : [i] <+: i :: b := (List.prefix_cons_inj i).mpr List.nil_prefix
    exact ⟨i, b, rfl, c, hc, hs.named [i] hfirst (List.cons_ne_nil i []) c (Node.at?_cons hc [])⟩

end Specs

/-! ## The names of specs in order -/

/-- The names of the specs in a node, in order. -/
def specNames (source : ByteArray) (n : Node) : List String :=
  if isSpec n then (n.name? source).toList
  else n.namedChildren.attach.flatMap fun ⟨c, _⟩ => specNames source c
termination_by sizeOf n
decreasing_by exact Node.sizeOf_lt_of_mem_children (List.mem_filter.mp ‹_›).1

section Names

variable {source : ByteArray} {n : Node}

/-- A member gives its own name and is not looked into. -/
theorem specNames_of_isSpec (h : isSpec n) : specNames source n = (n.name? source).toList := by
  rw [specNames, if_pos h]

/-- What is no member gives the names of the members in its named children. -/
theorem specNames_of_not_isSpec (h : ¬isSpec n) :
    specNames source n = n.namedChildren.flatMap (specNames source) := by
  rw [specNames, if_neg h]
  simp

/-- The names of members are listed in the order of their addresses. -/
theorem listing_specNames (source : ByteArray) (n : Node) : Listing (NamedSpecAt source n) (specNames source n) := by
  induction n using Node.forall_of_children with
  | h n ih =>
    by_cases hspec : isSpec n
    · rw [specNames_of_isSpec hspec]
      refine Listing.ofOption fun a name => ?_
      constructor
      · -- a spec is not entered, so there is only its own name
        rintro ⟨s, hs, hname⟩
        obtain rfl := hs.outermost.eq_nil hspec
        cases hs.outermost.here
        exact ⟨rfl, hname⟩
      · rintro ⟨rfl, hname⟩
        exact ⟨n, specAt_self hspec, hname⟩
    · rw [specNames_of_not_isSpec hspec, Node.namedChildren]
      refine Listing.flatMap_filter (fun i c hc hnamed => ?_) ?_
      · refine (ih c (List.mem_of_getElem? hc)).congr fun a name => ?_
        exact exists_congr fun s => and_congr_left' (specAt_cons_iff hspec ⟨hc, hnamed⟩ a s).symm
      · rintro a name ⟨s, hs, -⟩
        exact hs.exists_child hspec

mutual

/-- The search finds the first name. -/
theorem specName?_eq_head? (source : ByteArray) (n : Node) : specName? source n = (specNames source n).head? := by
  obtain ⟨info, children⟩ := n
  rw [specName?]
  by_cases hspec : specKinds.contains info.kind
  · have hself : isSpec ⟨info, children⟩ := hspec
    rw [specNames_of_isSpec hself, if_pos hspec]
    cases Node.name? source ⟨info, children⟩ <;> rfl
  · have hself : ¬isSpec ⟨info, children⟩ := hspec
    rw [specNames_of_not_isSpec hself, if_neg hspec, firstSpecName?_eq_head? source children]
    rfl

/-- The search for the first name finds the first of all names. -/
theorem firstSpecName?_eq_head? (source : ByteArray) (ns : List Node) :
    firstSpecName? source ns = ((ns.filter (·.named)).flatMap (specNames source)).head? := by
  cases ns with
  | nil => rw [firstSpecName?]; rfl
  | cons n ns =>
    rw [firstSpecName?, specName?_eq_head? source n, firstSpecName?_eq_head? source ns]
    by_cases hnamed : n.named
    · rw [if_pos hnamed, List.filter_cons, if_pos hnamed, List.flatMap_cons, List.head?_append]
      cases (specNames source n).head? <;> rfl
    · rw [if_neg hnamed, List.filter_cons, if_neg hnamed]

end

end Names

/-! ## What declarations go by -/

/-- The kinds of declarations that go by their own name. -/
def functionKinds : List String := ["function_declaration", "method_declaration"]

/-- The kinds of declarations that go by the name of a spec. -/
def groupKinds : List String := ["type_declaration", "const_declaration", "var_declaration"]

/-- The name that a declaration goes by: its own, or that of the first spec with a name inside it. -/
inductive GoesBy (source : ByteArray) (n : Node) : String → Prop
  | function {name : String} (hkind : n.kind ∈ functionKinds) (hname : n.name? source = some name) :
      GoesBy source n name
  | group {name : String} {a : List Nat} (hkind : n.kind ∈ groupKinds) (hspec : NamedSpecAt source n a name)
      (hfirst : ∀ b other, NamedSpecAt source n b other → a ≤ b) : GoesBy source n name

/-- The declarations that a file is to be read into: the named children of the root that go by a name, each with its
own span. -/
inductive DeclaredAt (source : ByteArray) (root : Node) : List Nat → Declaration → Prop
  | child {i : Nat} {n : Node} {name : String} (hn : root.IsNamedChild i n) (hname : GoesBy source n name) :
      DeclaredAt source root [i] ⟨name, n.start, n.stop⟩

/-- Whether a node has nothing inside, and is not a spec itself, unless it is a named node. -/
def isBare (m : Node) : Bool := m.named || (m.children.isEmpty && !isSpec m)

section Declarations

variable {source : ByteArray} {n : Node} {name : String}

/-- A group is no member. -/
theorem not_isSpec_of_mem_groupKinds (h : n.kind ∈ groupKinds) : ¬isSpec n := by
  rw [isSpec]
  simp only [groupKinds, List.mem_cons, List.not_mem_nil, or_false] at h
  rcases h with h | h | h <;> rw [h] <;> decide

theorem not_mem_functionKinds_of_mem_groupKinds {kind : String} (h : kind ∈ groupKinds) : kind ∉ functionKinds := by
  simp only [groupKinds, List.mem_cons, List.not_mem_nil, or_false] at h
  rcases h with rfl | rfl | rfl <;> decide

/-- A function goes by its own name. -/
theorem declaredName?_of_function (h : n.kind ∈ functionKinds) : declaredName? source n = n.name? source := by
  rw [declaredName?, if_pos (by simpa [functionKinds] using h)]

/-- A group goes by the name of its first member. -/
theorem declaredName?_of_group (h : n.kind ∈ groupKinds) : declaredName? source n = (specNames source n).head? := by
  have hfunction := not_mem_functionKinds_of_mem_groupKinds h
  rw [declaredName?, if_neg (by simpa [functionKinds] using hfunction), if_pos (by simpa [groupKinds] using h),
    firstSpecName?_eq_head?, specNames_of_not_isSpec (not_isSpec_of_mem_groupKinds h)]
  rfl

/-- Nothing else is declared. -/
theorem declaredName?_of_other (hfunction : n.kind ∉ functionKinds) (hgroup : n.kind ∉ groupKinds) :
    declaredName? source n = none := by
  rw [declaredName?, if_neg (by simpa [functionKinds] using hfunction), if_neg (by simpa [groupKinds] using hgroup)]

/-- The first name of the specs in a node is that of the spec with the least address. -/
theorem head?_specNames_eq_some_iff : (specNames source n).head? = some name ↔
    ∃ a, NamedSpecAt source n a name ∧ ∀ b other, NamedSpecAt source n b other → a ≤ b := by
  have hlisting := listing_specNames source n
  refine ⟨fun h => hlisting.least_of_head? h, ?_⟩
  rintro ⟨a, ha, hleast⟩
  cases hhead : (specNames source n).head? with
  | none => exact absurd (List.head?_eq_none_iff.mp hhead) (hlisting.ne_nil_iff.mpr ⟨a, name, ha⟩)
  | some other =>
    obtain ⟨b, hb, hleast'⟩ := hlisting.least_of_head? hhead
    obtain rfl : a = b := le_antisymm (hleast b other hb) (hleast' a name ha)
    rw [namedSpecAt_unique ha hb]

/-- A group goes by the first of the names that a recursion through it comes to. -/
theorem goesBy_iff : GoesBy source n name ↔
    (n.kind ∈ functionKinds ∧ n.name? source = some name) ∨
    (n.kind ∈ groupKinds ∧ (specNames source n).head? = some name) := by
  constructor
  · intro h
    cases h with
    | function hkind hname => exact .inl ⟨hkind, hname⟩
    | group hkind hspec hfirst => exact .inr ⟨hkind, head?_specNames_eq_some_iff.mpr ⟨_, hspec, hfirst⟩⟩
  · rintro (⟨hkind, hname⟩ | ⟨hkind, hname⟩)
    · exact .function hkind hname
    · obtain ⟨a, ha, hleast⟩ := head?_specNames_eq_some_iff.mp hname
      exact .group hkind ha hleast

/-- The name that is declared is given by the rules. -/
theorem declaredName?_eq_some_iff : declaredName? source n = some name ↔ GoesBy source n name := by
  rw [goesBy_iff]
  by_cases hfunction : n.kind ∈ functionKinds
  · have hgroup : n.kind ∉ groupKinds := fun h => not_mem_functionKinds_of_mem_groupKinds h hfunction
    simp [declaredName?_of_function hfunction, hfunction, hgroup]
  · by_cases hgroup : n.kind ∈ groupKinds
    · simp [declaredName?_of_group hgroup, hfunction, hgroup]
    · simp [declaredName?_of_other hfunction hgroup, hfunction, hgroup]

/-- A group goes by a name as soon as there is a spec with a name inside it. -/
theorem exists_goesBy_iff : (∃ name, GoesBy source n name) ↔
    (n.kind ∈ functionKinds ∧ ∃ name, n.name? source = some name) ∨
    (n.kind ∈ groupKinds ∧ ∃ a name, NamedSpecAt source n a name) := by
  have hnames : (∃ name, (specNames source n).head? = some name) ↔ ∃ a name, NamedSpecAt source n a name := by
    rw [← (listing_specNames source n).ne_nil_iff, ← Option.isSome_iff_exists, List.isSome_head?]
  simp only [goesBy_iff, exists_or, exists_and_left, hnames]

/-- The declarations are a listing of the top-level nodes that are declared. -/
theorem listing_declarations (source : ByteArray) (root : Node) :
    Listing (DeclaredAt source root) (declarations source root) := by
  rw [declarations, List.filterMap_eq_flatMap_toList, Node.namedChildren]
  refine Listing.flatMap_filter (fun i n hn hnamed => ?_) ?_
  · have hchild : root.IsNamedChild i n := ⟨hn, hnamed⟩
    refine Listing.ofOption fun a d => ?_
    constructor
    · intro hd
      cases hd with
      | child hn' hname =>
        cases hchild.unique hn'
        rw [declaredName?_eq_some_iff.mpr hname]
        exact ⟨rfl, rfl⟩
    · rintro ⟨rfl, hd⟩
      obtain ⟨name, hname, rfl⟩ := Option.map_eq_some_iff.mp hd
      exact .child hchild (declaredName?_eq_some_iff.mp hname)
  · rintro a d ⟨hn, -⟩
    exact ⟨_, [], rfl, _, hn.here, hn.named⟩

/-- Where nothing is inside tokens, the search passes over no spec. -/
theorem specAt_iff_of_isBare (h : n.all isBare) (a : List Nat) (s : Node) :
    SpecAt n a s ↔ n.IsOutermost isSpec a s := by
  refine ⟨fun hs => hs.outermost, fun hs => ⟨hs, fun b hb _ m hm => ?_⟩⟩
  by_contra hunnamed
  have hbare : m.children = [] ∧ ¬isSpec m := by simpa [isBare, hunnamed] using Node.all_at? h hm
  obtain ⟨rest, rfl⟩ := hb
  have hhere := hs.here
  rw [Node.at?_append hm] at hhere
  -- a token has nothing inside, so it would be the spec itself
  cases rest with
  | nil =>
    cases hhere
    exact hbare.2 hs.picked
  | cons i rest =>
    obtain ⟨c, hc, -⟩ := Node.at?_cons_eq_some_iff.mp hhere
    rw [hbare.1] at hc
    cases hc

/-- A file is read into the named children of the root that go by a name, once each, in order and with their own
spans: functions and methods that have a name, and groups with a spec in them that has one. A group goes by the first
such name, and no name comes from inside a spec. Where nothing is inside tokens, the specs are all those nodes of their
kinds that are not inside another one. -/
theorem declarations_first_specs (source : ByteArray) (root : Node) :
    Listing (DeclaredAt source root) (declarations source root) ∧
    (∀ n, (∃ name, GoesBy source n name) ↔
      (n.kind ∈ functionKinds ∧ ∃ name, n.name? source = some name) ∨
      (n.kind ∈ groupKinds ∧ ∃ a name, NamedSpecAt source n a name)) ∧
    (∀ n name, GoesBy source n name ↔
      (n.kind ∈ functionKinds ∧ n.name? source = some name) ∨
      (n.kind ∈ groupKinds ∧ (specNames source n).head? = some name)) ∧
    ∀ n, n.all isBare → ∀ a s, SpecAt n a s ↔ n.IsOutermost isSpec a s :=
  ⟨listing_declarations source root, fun _ => exists_goesBy_iff, fun _ _ => goesBy_iff,
    fun _ h => specAt_iff_of_isBare h⟩

end Declarations

/-! ## A file with a group

A group of two variables. The value of the first one is a function, with the declaration of a variable in its body.
-/

namespace Grouped

def source : ByteArray := "var(x=func()\x7bvar z int\x7d;w=3)".toUTF8

def body : Node :=
  .written "block" (some "body") 12 23
    [.writtenToken "\x7b" 12 13,
      .written "var_declaration" none 13 22
        [.writtenToken "var" 13 16,
          .written "var_spec" none 17 22
            [.written "identifier" (some "name") 17 18 [], .written "type_identifier" (some "type") 19 22 []]],
      .writtenToken "\x7d" 22 23]

def group : Node :=
  .written "var_declaration" none 0 28
    [.writtenToken "var" 0 3,
      .written "var_spec_list" none 3 28
        [.writtenToken "(" 3 4,
          .written "var_spec" none 4 23
            [.written "identifier" (some "name") 4 5 [], .writtenToken "=" 5 6,
              .written "expression_list" (some "value") 6 23 [.written "func_literal" none 6 23 [body]]],
          .writtenToken ";" 23 24,
          .written "var_spec" none 24 27 [.written "identifier" (some "name") 24 25 []],
          .writtenToken ")" 27 28]]

def root : Node := .written "source_file" none 0 28 [group]

end Grouped

/-- The specs of the group are all those that are not inside another one. -/
theorem declarations_first_specs_grouped :
    Grouped.group.all isBare ∧ ∀ a s, SpecAt Grouped.group a s ↔ Grouped.group.IsOutermost isSpec a s := by
  have hbare : Grouped.group.all isBare := by decide
  exact ⟨hbare, (declarations_first_specs Grouped.source Grouped.root).2.2.2 Grouped.group hbare⟩

example : declarations Grouped.source Grouped.root = [⟨"x", 0, 28⟩] := by decide

end Overdue.Language.Go
