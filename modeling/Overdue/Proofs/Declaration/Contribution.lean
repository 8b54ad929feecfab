/-
What Rust items contribute.

A Rust file is read into one growing list of declarations, and a container looks at the size of that list to see
whether its members added anything. Here the same is said without a list that grows: what an item contributes is a
function of the item alone (`ContainerRule`), and a file contributes what its items do, one after the other. The name
that an item goes by, where it stands for itself, is said by the cases of its kind (`GoesBy`).
-/
import Overdue.Language.RustDeclarations
import Overdue.Proofs.Syntax.Address

set_option autoImplicit false

namespace Overdue.Language.Rust

open Overdue.Syntax

/-! ## Names -/

/-- The name that an item goes by: the text of its name, or for an `impl` the text of its type, without the
arguments of the type if it has any. -/
inductive GoesBy (source : ByteArray) (n : Node) : String → Prop
  | named {name : String} (hkind : n.kind ∈ plainKinds ∨ n.kind = "trait_item" ∨ n.kind = "mod_item")
      (hname : n.name? source = some name) : GoesBy source n name
  | ofType {type : Node} {name : String} (hkind : n.kind = "impl_item") (htype : n.child? "type" = some type)
      (hplain : type.kind ≠ "generic_type") (hname : type.text? source = some name) : GoesBy source n name
  | ofGeneric {type inner : Node} {name : String} (hkind : n.kind = "impl_item")
      (htype : n.child? "type" = some type) (hgeneric : type.kind = "generic_type")
      (hinner : type.child? "type" = some inner) (hname : inner.text? source = some name) : GoesBy source n name

/-- The declaration that an item is, if it goes by a name. -/
structure Declares (source : ByteArray) (n : Node) (d : Declaration) : Prop where
  name : GoesBy source n d.name
  start : d.start = n.start
  stop : d.stop = n.stop

/-- The name of a plain item or of a container. -/
def itemName? (source : ByteArray) (n : Node) : Option String :=
  if n.kind ∈ plainKinds then n.name? source
  else if n.kind ∈ containerKinds then containerName? source n
  else none

/-- What an item contributes if it stands for itself. -/
def declared (source : ByteArray) (n : Node) : List Declaration :=
  (itemName? source n).toList.map fun name => ⟨name, n.start, n.stop⟩

section Names

variable {source : ByteArray} {n : Node}

theorem mem_containerKinds_iff {kind : String} :
    kind ∈ containerKinds ↔ kind = "trait_item" ∨ kind = "mod_item" ∨ kind = "impl_item" := by
  simp [containerKinds]

/-- No kind is both plain and that of a container. -/
theorem not_mem_plainKinds {kind : String} (h : kind ∈ containerKinds) : kind ∉ plainKinds := by
  rcases mem_containerKinds_iff.mp h with rfl | rfl | rfl <;> decide

/-- An implementation is named by its type, and by the inner type if that is generic. -/
theorem implementedType?_eq_some_iff {name : String} :
    implementedType? source n = some name ↔
      ∃ type, n.child? "type" = some type ∧
        ((type.kind ≠ "generic_type" ∧ type.text? source = some name) ∨
          (type.kind = "generic_type" ∧ ∃ inner, type.child? "type" = some inner ∧
            inner.text? source = some name)) := by
  rw [implementedType?]
  cases n.child? "type" with
  | none => simp
  | some type => by_cases hgeneric : type.kind = "generic_type" <;> simp [hgeneric, Option.bind_eq_some_iff]

/-- An item is named by its own rule. -/
theorem itemName?_eq_some_iff {name : String} : itemName? source n = some name ↔ GoesBy source n name := by
  constructor
  · intro h
    unfold itemName? at h
    split at h
    · rename_i hplain
      exact .named (.inl hplain) h
    · split at h
      · rename_i hkind
        rw [containerName?] at h
        split at h
        · rename_i himpl
          obtain ⟨type, htype, ⟨hplain, hname⟩ | ⟨hgeneric, inner, hinner, hname⟩⟩ :=
            implementedType?_eq_some_iff.mp h
          · exact .ofType himpl htype hplain hname
          · exact .ofGeneric himpl htype hgeneric hinner hname
        · rename_i himpl
          refine .named (.inr ?_) h
          -- an implementation has its own rule, and the other two kinds go by their names
          rcases mem_containerKinds_iff.mp hkind with hkind | hkind | hkind
          · exact .inl hkind
          · exact .inr hkind
          · exact absurd hkind himpl
      · cases h
  -- the two equations that the rules for containers come down to
  · have hcontainer (hkind : n.kind ∈ containerKinds) : itemName? source n = containerName? source n := by
      rw [itemName?, if_neg (not_mem_plainKinds hkind), if_pos hkind]
    have himplemented (hkind : n.kind = "impl_item") : itemName? source n = implementedType? source n := by
      rw [hcontainer (mem_containerKinds_iff.mpr (.inr (.inr hkind))), containerName?, if_pos hkind]
    intro h
    cases h with
    | named hkind hname =>
      rcases hkind with hplain | htrait | hmod
      · rw [itemName?, if_pos hplain, hname]
      · rw [hcontainer (by simp [containerKinds, htrait]), containerName?, if_neg (by simp [htrait]), hname]
      · rw [hcontainer (by simp [containerKinds, hmod]), containerName?, if_neg (by simp [hmod]), hname]
    | ofType hkind htype hplain hname =>
      rw [himplemented hkind]
      exact implementedType?_eq_some_iff.mpr ⟨_, htype, .inl ⟨hplain, hname⟩⟩
    | ofGeneric hkind htype hgeneric hinner hname =>
      rw [himplemented hkind]
      exact implementedType?_eq_some_iff.mpr ⟨_, htype, .inr ⟨hgeneric, _, hinner, hname⟩⟩

/-- What a node itself declares is one declaration with the extent of the node, if it has a name. -/
theorem mem_declared_iff {d : Declaration} : d ∈ declared source n ↔ Declares source n d := by
  rw [declared, List.mem_map]
  constructor
  · rintro ⟨name, hname, rfl⟩
    exact ⟨itemName?_eq_some_iff.mp (Option.mem_toList.mp hname), rfl, rfl⟩
  · rintro ⟨hname, hstart, hstop⟩
    refine ⟨d.name, Option.mem_toList.mpr (itemName?_eq_some_iff.mpr hname), ?_⟩
    rw [← hstart, ← hstop]

/-- An item that is collected for itself comes last. -/
theorem addNamed_toList (source : ByteArray) (n : Node) (found : Array Declaration) :
    (addNamed n (itemName? source n) found).toList = found.toList ++ declared source n := by
  rw [declared]
  cases itemName? source n <;> simp [addNamed]

end Names

/-! ## What an item contributes -/

/-- The members of a container: the named nodes in its bodies. -/
def members (n : Node) : List Node :=
  (n.namedChildren.filter (·.kind == "declaration_list")).flatMap Node.namedChildren

/-- The members of a node are the named children of its bodies. -/
theorem mem_members_iff {n c : Node} :
    c ∈ members n ↔ ∃ j body i, n.IsNamedChild j body ∧ body.kind = "declaration_list" ∧ body.IsNamedChild i c := by
  constructor
  · intro h
    obtain ⟨body, hbody, hc⟩ := List.mem_flatMap.mp h
    obtain ⟨hbody, hlist⟩ := List.mem_filter.mp hbody
    obtain ⟨j, hbody⟩ := Node.mem_namedChildren_iff.mp hbody
    obtain ⟨i, hc⟩ := Node.mem_namedChildren_iff.mp hc
    exact ⟨j, body, i, hbody, by simpa using hlist, hc⟩
  · rintro ⟨j, body, i, hbody, hlist, hc⟩
    exact List.mem_flatMap.mpr ⟨body, List.mem_filter.mpr ⟨hbody.mem, by simp [hlist]⟩, hc.mem⟩

/-- Members are smaller than the node, so the recursion ends. -/
theorem sizeOf_lt_of_mem_members {n m : Node} (h : m ∈ members n) : sizeOf m < sizeOf n := by
  obtain ⟨j, body, i, hbody, -, hm⟩ := mem_members_iff.mp h
  have hbody := Node.sizeOf_lt_of_mem_children (List.mem_of_getElem? hbody.here)
  have hm := Node.sizeOf_lt_of_mem_children (List.mem_of_getElem? hm.here)
  omega

/-- What an item contributes: itself if it is plain, and if it is a container its members, or itself if they do not
contribute anything. -/
def contributed (source : ByteArray) (n : Node) : List Declaration :=
  if n.kind ∈ plainKinds then declared source n
  else if n.kind ∈ containerKinds then
    let inside := (members n).attach.flatMap fun ⟨m, _⟩ => contributed source m
    if inside = [] then declared source n else inside
  else []
termination_by sizeOf n
decreasing_by exact sizeOf_lt_of_mem_members ‹_›

/-- What it takes for a function to say what items contribute. -/
structure ContainerRule (source : ByteArray) (decls : Node → List Declaration) : Prop where
  plain : ∀ n, n.kind ∈ plainKinds → decls n = declared source n
  container : ∀ n, n.kind ∈ containerKinds →
    decls n = if (members n).flatMap decls = [] then declared source n else (members n).flatMap decls
  other : ∀ n, n.kind ∉ plainKinds → n.kind ∉ containerKinds → decls n = []

/-- What nodes contribute follows the rule for containers. -/
theorem containerRule_contributed (source : ByteArray) : ContainerRule source (contributed source) where
  plain n h := by rw [contributed, if_pos h]
  container n h := by
    rw [contributed, if_neg (not_mem_plainKinds h), if_pos h]
    simp
  other n hplain hcontainer := by rw [contributed, if_neg hplain, if_neg hcontainer]

/-- A node that is no container contributes what it declares. -/
theorem contributed_of_not_container {source : ByteArray} {n : Node} (h : n.kind ∉ containerKinds) :
    contributed source n = declared source n := by
  have hrule := containerRule_contributed source
  by_cases hplain : n.kind ∈ plainKinds
  · exact hrule.plain n hplain
  · rw [hrule.other n hplain h, declared, itemName?, if_neg hplain, if_neg h]
    rfl

section Collecting

variable (source : ByteArray)

/-- The members of a node contribute what its bodies do. -/
theorem flatMap_members (n : Node) :
    (members n).flatMap (contributed source) =
      (n.namedChildren.filter (·.kind == "declaration_list")).flatMap fun body =>
        body.namedChildren.flatMap (contributed source) := by
  rw [members, List.flatMap_assoc]

mutual

/-- Reading an item adds what it contributes, whatever has been found before. -/
theorem collectItem_toList (n : Node) (found : Array Declaration) :
    (collectItem source n found).toList = found.toList ++ contributed source n := by
  obtain ⟨info, children⟩ := n
  have hrule := containerRule_contributed source
  rw [collectItem]
  simp only [List.contains_iff_mem]
  by_cases hplain : info.kind ∈ plainKinds
  · rw [if_pos hplain, hrule.plain ⟨info, children⟩ hplain, ← addNamed_toList, itemName?, if_pos hplain]
  · by_cases hcontainer : info.kind ∈ containerKinds
    · have hbodies : (collectBodies source children found).toList =
          found.toList ++ (members ⟨info, children⟩).flatMap (contributed source) := by
        rw [flatMap_members]
        exact collectBodies_toList children found
      have hname := addNamed_toList source ⟨info, children⟩ (collectBodies source children found)
      rw [itemName?, if_neg hplain, if_pos hcontainer] at hname
      rw [if_neg hplain, if_pos hcontainer, hrule.container ⟨info, children⟩ hcontainer]
      generalize (members ⟨info, children⟩).flatMap (contributed source) = inside at *
      -- The list has grown if and only if there is something inside.
      have hsize := congrArg List.length hbodies
      rw [List.length_append, Array.length_toList, Array.length_toList] at hsize
      by_cases hinside : inside = []
      · rw [hinside, List.length_nil] at hsize
        rw [if_neg (by omega), if_pos hinside, hname, hbodies, hinside, List.append_nil]
      · have hlength := List.length_pos_of_ne_nil hinside
        rw [if_pos (by omega), if_neg hinside, hbodies]
    · rw [if_neg hplain, if_neg hcontainer, hrule.other ⟨info, children⟩ hplain hcontainer, List.append_nil]

/-- Collecting from a list of nodes adds what the named ones contribute. -/
theorem collectItems_toList (ns : List Node) (found : Array Declaration) :
    (collectItems source ns found).toList =
      found.toList ++ (ns.filter (·.named)).flatMap (contributed source) := by
  cases ns with
  | nil => simp [collectItems]
  | cons n ns =>
    rw [collectItems, collectItems_toList ns]
    by_cases hnamed : n.named
    · simp [hnamed, collectItem_toList n]
    · simp [hnamed]

/-- Collecting from the bodies in a list adds what the named nodes in them contribute. -/
theorem collectBodies_toList (ns : List Node) (found : Array Declaration) :
    (collectBodies source ns found).toList =
      found.toList ++ ((ns.filter (·.named)).filter (·.kind == "declaration_list")).flatMap fun body =>
        body.namedChildren.flatMap (contributed source) := by
  cases ns with
  | nil => simp [collectBodies]
  | cons n ns =>
    obtain ⟨info, children⟩ := n
    rw [collectBodies, collectBodies_toList ns]
    by_cases hbody : info.named && info.kind == "declaration_list"
    · rw [if_pos hbody, collectItems_toList children]
      rw [Bool.and_eq_true] at hbody
      simp [hbody, Node.namedChildren]
    · rw [if_neg hbody]
      by_cases hnamed : info.named
      · have hkind : ¬(info.kind == "declaration_list") := by simpa [hnamed] using hbody
        simp [hnamed, hkind]
      · simp [hnamed]

end

end Collecting

/-- A file contributes what its named nodes do. -/
theorem declarations_eq_flatMap (source : ByteArray) (root : Node) :
    declarations source root = root.namedChildren.flatMap (contributed source) := by
  rw [declarations, collectItems_toList, Node.namedChildren]
  rfl

end Overdue.Language.Rust
