/-
The stack keeps its places and its states.

Every vertex of the stack stands at a place of the text, and the tree of a link is the text between the two
vertices that it joins and leads from the state of one to that of the other (`Stack.IsSound`). Everything that
the parser does with the stack keeps this, as long as what it pushes fits where the version stands and leads
on from its state. That is what has to be shown for the parser itself, so for each operation we say what
becomes of the view: where each version stands, and which token it waits with.
-/
import Overdue.Proofs.Syntax.Fitting

set_option autoImplicit false

namespace Overdue.Syntax

/-! ## Sound stacks -/

/-- A tree that is no token gives all of its text back with its parts, and so do the parts of an error. -/
inductive Tree.Unwraps : Tree → Prop
  | token {t : Tree} {token : Nat} (h : t.label = .token token) : Unwraps t
  | plain {t : Tree} (h : t.label ≠ .error) (htotals : Tree.totals t.parts = t.total) : Unwraps t
  | error {t : Tree} (htotals : Tree.totals t.parts = t.total) (hparts : ∀ p ∈ t.parts, p.Unwraps) : Unwraps t

/-- What is no token has the extent of its parts. -/
theorem Tree.Unwraps.totals_parts {t : Tree} (h : t.Unwraps) (hlabel : ∀ token, t.label ≠ .token token) :
    Tree.totals t.parts = t.total := by
  cases h with
  | token h => exact absurd h (hlabel _)
  | plain _ htotals => exact htotals
  | error htotals _ => exact htotals

/-- A place and the state of the parser there. -/
structure Spot where
  place : Cursor
  state : Nat
deriving Inhabited

/-- Where a vertex is. -/
def Vertex.spot (x : Vertex) : Spot := ⟨x.place, x.state⟩

/-- The tree of a link is the text from the place below up to the place above, and leads from the state below
to the state above. Where there is none, the parser has lost track. -/
def Link.Joins (lore : Lore) (l : Link) (below above : Spot) : Prop :=
  match l.tree with
  | some t => t.FitsAt lore below.place ∧ t.Unwraps ∧ below.place.advance t.total = above.place ∧
      lore.Links below.state t above.state
  | none => below.place = above.place ∧ above.state = 0

/-- The token that a version waits with. -/
def Status.lookahead? : Status → Option Tree
  | .paused t => some t
  | .active | .halted => none

/-- Where a version stands, and the token it waits with. -/
abbrev Standpoint := Spot × Option Tree

/-- A version that waits with nothing. -/
abbrev Standpoint.free (c : Spot) : Standpoint := (c, none)

namespace Stack

/-- Where a version stands. -/
def standpoint (s : Stack) (h : Version) : Standpoint := ((s.vertex h.top).spot, h.status.lookahead?)

/-- Where the versions stand. -/
def view (s : Stack) : List Standpoint := s.versions.toList.map s.standpoint

/-- Every vertex stands in the text, one with nothing below it at its start; every link joins two vertices;
and every version stands at a vertex, where what it waits with fits. -/
structure IsSound (lore : Lore) (text : List Char) (s : Stack) : Prop where
  nonempty : 0 < s.vertices.size
  place : ∀ i < s.vertices.size, (s.vertex i).place.IsIn text
  bottom : ∀ i < s.vertices.size, (s.vertex i).links = [] → (s.vertex i).place = Cursor.atStart text
  link : ∀ i < s.vertices.size, ∀ l ∈ (s.vertex i).links, l.target < s.vertices.size ∧
    l.Joins lore (s.vertex l.target).spot (s.vertex i).spot
  top : ∀ h ∈ s.versions, h.top < s.vertices.size
  waits : ∀ x ∈ s.view, ∀ t, x.2 = some t → t.FitsAt lore x.1.place

variable {lore : Lore} {text : List Char} {s : Stack}

/-- The stack at the start of a text is sound. -/
theorem isSound_start (text : List Char) : (start text).IsSound lore text where
  nonempty := Nat.zero_lt_one
  place i hi := by
    obtain rfl : i = 0 := Nat.lt_one_iff.mp hi
    exact Cursor.isIn_atStart text
  bottom i hi _ := by
    obtain rfl : i = 0 := Nat.lt_one_iff.mp hi
    rfl
  link i hi l hl := by
    obtain rfl : i = 0 := Nat.lt_one_iff.mp hi
    cases hl
  top h hh := by
    obtain rfl := Array.mem_singleton.mp hh
    exact Nat.zero_lt_one
  waits x hx t ht := by
    obtain rfl := List.mem_singleton.mp hx
    cases ht

theorem length_view (s : Stack) : s.view.length = s.count := by
  rw [view, List.length_map, Array.length_toList, count]

theorem version_top_lt (h : s.IsSound lore text) (v : Nat) : (s.version v).top < s.vertices.size := by
  rw [version, Array.getD_eq_getD_getElem?]
  cases hv : s.versions[v]? with
  | none => exact h.nonempty
  | some x => exact h.top x (Array.mem_of_getElem? hv)

theorem top_isIn (h : s.IsSound lore text) (v : Nat) : (s.top v).place.IsIn text :=
  h.place _ (version_top_lt h v)

/-- What the view says of a version is where it stands. -/
theorem getElem?_view (s : Stack) (v : Nat) : s.view[v]? = s.versions[v]?.map s.standpoint := by
  rw [view, List.getElem?_map, Array.getElem?_toList]

/-- The version with a number stands where the view says. -/
theorem top_of_view {v : Nat} {x : Standpoint} (h : s.view[v]? = some x) : (s.top v).spot = x.1 := by
  rw [getElem?_view, Option.map_eq_some_iff] at h
  obtain ⟨y, hy, rfl⟩ := h
  rw [top, version, Array.getD_eq_getD_getElem?, hy]
  rfl

/-- The view of a version tells where it stands and what it waits with. -/
theorem standpoint_version {v : Nat} {x : Standpoint} (h : s.view[v]? = some x) :
    s.standpoint (s.version v) = x := by
  rw [getElem?_view, Option.map_eq_some_iff] at h
  obtain ⟨y, hy, rfl⟩ := h
  rw [version, Array.getD_eq_getD_getElem?, hy]
  rfl

/-! ## Changes of the versions -/

/-- A stack with other versions is sound if these stand at vertices and wait with what fits. -/
theorem IsSound.withVersions (h : s.IsSound lore text) {versions : Array Version}
    (htop : ∀ x ∈ versions, x.top < s.vertices.size)
    (hwaits : ∀ x ∈ versions, ∀ t, (s.standpoint x).2 = some t → t.FitsAt lore (s.standpoint x).1.place) :
    IsSound lore text { s with versions } where
  nonempty := h.nonempty
  place := h.place
  bottom := h.bottom
  link := h.link
  top := htop
  waits x hx t ht := by
    obtain ⟨y, hy, rfl⟩ := List.mem_map.mp hx
    exact hwaits y (Array.mem_toList_iff.mp hy) t ht

/-- What a version waits with fits where it stands. -/
theorem IsSound.standpoint_fits (h : s.IsSound lore text) {x : Version} (hx : x ∈ s.versions) (t : Tree)
    (ht : (s.standpoint x).2 = some t) : t.FitsAt lore (s.standpoint x).1.place :=
  h.waits _ (List.mem_map_of_mem (Array.mem_toList_iff.mpr hx)) t ht

/-- An element may be changed before or after all are seen through a function. -/
theorem map_modify {α β : Type} {f : α → α} {g : β → β} {φ : α → β} (h : ∀ x, φ (f x) = g (φ x))
    (xs : List α) (i : Nat) : (xs.modify i f).map φ = (xs.map φ).modify i g := by
  refine List.ext_getElem? fun j => ?_
  rw [List.getElem?_map, List.getElem?_modify, List.getElem?_modify, List.getElem?_map]
  cases xs[j]? with
  | none => rfl
  | some x =>
    by_cases hij : i = j
    · simp only [hij, if_true, Option.map_eq_map, Option.map_some, h]
    · simp only [hij, if_false, Option.map_eq_map, Option.map_some]

/-- Changing one version changes the view there. -/
theorem view_modifyVersion {v : Nat} {f : Version → Version} {g : Standpoint → Standpoint}
    (hf : ∀ x, s.standpoint (f x) = g (s.standpoint x)) :
    view { s with versions := s.versions.modify v f } = s.view.modify v g := by
  rw [view, Array.toList_modify]
  exact map_modify hf _ v

/-- Changing a version keeps the stack sound if it then stands at a vertex and waits with what fits. -/
theorem IsSound.modifyVersion (h : s.IsSound lore text) {v : Nat} {f : Version → Version}
    (htop : ∀ x ∈ s.versions, (f x).top < s.vertices.size)
    (hwaits : ∀ x, s.versions[v]? = some x → ∀ t, (s.standpoint (f x)).2 = some t →
      t.FitsAt lore (s.standpoint (f x)).1.place) :
    IsSound lore text { s with versions := s.versions.modify v f } := by
  have hmem (x : Version) (hx : x ∈ s.versions.modify v f) :
      x ∈ s.versions ∨ ∃ y, s.versions[v]? = some y ∧ x = f y := by
    obtain ⟨j, hj⟩ := Array.mem_iff_getElem?.mp hx
    rw [Array.getElem?_modify] at hj
    split at hj
    · rename_i hvj
      obtain ⟨y, hy, rfl⟩ := Option.map_eq_some_iff.mp hj
      exact .inr ⟨y, hvj ▸ hy, rfl⟩
    · exact .inl (Array.mem_of_getElem? hj)
  refine h.withVersions (fun x hx => ?_) (fun x hx => ?_)
  · rcases hmem x hx with hx | ⟨y, hy, rfl⟩
    · exact h.top x hx
    · exact htop y (Array.mem_of_getElem? hy)
  · rcases hmem x hx with hx | ⟨y, hy, rfl⟩
    · exact h.standpoint_fits hx
    · exact hwaits y hy

theorem modify_id_eq {α : Type} (xs : List α) (i : Nat) : xs.modify i (fun x => x) = xs := by
  refine List.ext_getElem? fun j => ?_
  rw [List.getElem?_modify]
  split <;> simp

/-- Changes that touch neither where a version stands nor what it waits with do not show. -/
theorem IsSound.noteVersion (h : s.IsSound lore text) {v : Nat} {f : Version → Version}
    (htop : ∀ x, (f x).top = x.top) (hstatus : ∀ x, (f x).status = x.status) :
    IsSound lore text { s with versions := s.versions.modify v f } ∧
      view { s with versions := s.versions.modify v f } = s.view := by
  have hsame (x : Version) : s.standpoint (f x) = s.standpoint x := by
    rw [standpoint, standpoint, htop, hstatus]
  refine ⟨h.modifyVersion (fun x hx => ?_) (fun x hx => ?_), ?_⟩
  · rw [htop]
    exact h.top x hx
  · rw [hsame]
    exact h.standpoint_fits (Array.mem_of_getElem? hx)
  · rw [view_modifyVersion (g := fun x => x) hsame, modify_id_eq]

/-- Counting the nodes since an error keeps the view. -/
theorem IsSound.nodesSinceError (h : s.IsSound lore text) (v : Nat) :
    (s.nodesSinceError v).2.IsSound lore text ∧ (s.nodesSinceError v).2.view = s.view := by
  rw [Stack.nodesSinceError]
  split
  · exact h.noteVersion (fun _ => rfl) (fun _ => rfl)
  · exact ⟨h, rfl⟩

/-- Remembering a token keeps the view. -/
theorem IsSound.remember (h : s.IsSound lore text) (v : Nat) (token : Tree) :
    (s.remember v token).IsSound lore text ∧ (s.remember v token).view = s.view := by
  rw [Stack.remember]
  split
  · exact h.noteVersion (fun _ => rfl) (fun _ => rfl)
  · exact ⟨h, rfl⟩

theorem IsSound.recordTrail (h : s.IsSound lore text) (v : Nat) :
    (s.recordTrail v).IsSound lore text ∧ (s.recordTrail v).view = s.view :=
  h.noteVersion (fun _ => rfl) (fun _ => rfl)

/-- A version that is halted waits with nothing. -/
theorem IsSound.halt (h : s.IsSound lore text) (v : Nat) :
    (s.halt v).IsSound lore text ∧ (s.halt v).view = s.view.modify v fun x => .free x.1 :=
  ⟨h.modifyVersion h.top fun _ _ _ ht => (nomatch ht), view_modifyVersion fun _ => rfl⟩

/-- A version may wait with a token that fits. -/
theorem IsSound.pause (h : s.IsSound lore text) {v : Nat} {token : Tree} (ht : token.FitsAt lore (s.top v).place) :
    (s.pause v token).IsSound lore text := by
  refine h.modifyVersion h.top fun x hx t htoken => ?_
  have hspot : (s.top v).spot = (s.standpoint x).1 := top_of_view (by rw [getElem?_view, hx]; rfl)
  rw [show (s.top v).place = (s.standpoint x).1.place from congrArg Spot.place hspot] at ht
  cases htoken
  exact ht

/-- A version that goes on again is told what it waited with. -/
theorem IsSound.resume (h : s.IsSound lore text) (v : Nat) :
    (s.resume v).2.IsSound lore text ∧ (s.resume v).2.view = s.view.modify v (fun x => .free x.1) ∧
    ∀ t, (s.resume v).1 = some t → ∃ c, s.view[v]? = some (c, some t) := by
  refine ⟨h.modifyVersion h.top fun _ _ _ ht => (nomatch ht), view_modifyVersion fun _ => rfl, ?_⟩
  intro t ht
  rw [Stack.resume] at ht
  split at ht
  · rename_i token hstatus
    cases ht
    rw [version, Array.getD_eq_getD_getElem?] at hstatus
    cases hv : s.versions[v]? with
    | none =>
      rw [hv] at hstatus
      cases hstatus
    | some x =>
      rw [hv] at hstatus
      refine ⟨(s.vertex x.top).spot, ?_⟩
      rw [getElem?_view, hv, Option.map_some, standpoint, show x.status = .paused t from hstatus]
      rfl
  · cases ht

/-- A version that is removed leaves the view. -/
theorem IsSound.remove (h : s.IsSound lore text) (v : Nat) :
    (s.remove v).IsSound lore text ∧ (s.remove v).view = s.view.eraseIdx v := by
  have hlist : (s.versions.eraseIdxIfInBounds v).toList = s.versions.toList.eraseIdx v := by
    rw [Array.eraseIdxIfInBounds_eq]
    split
    · rw [Array.toList_eraseIdx]
    · rename_i hv
      rw [List.eraseIdx_of_length_le]
      rw [Array.length_toList]
      omega
  have hmem (x : Version) (hx : x ∈ s.versions.eraseIdxIfInBounds v) : x ∈ s.versions := by
    rw [← Array.mem_toList_iff, hlist] at hx
    exact Array.mem_toList_iff.mp (List.mem_of_mem_eraseIdx hx)
  refine ⟨h.withVersions (fun x hx => h.top x (hmem x hx)) (fun x hx => h.standpoint_fits (hmem x hx)), ?_⟩
  rw [view, Stack.remove]
  dsimp only
  rw [hlist, List.eraseIdx_eq_take_drop_succ, List.map_append, List.map_take, List.map_drop,
    ← List.eraseIdx_eq_take_drop_succ]
  rfl

/-- What a version waits with fits, also that of a version that is not there, which waits with nothing. -/
theorem IsSound.version_fits (h : s.IsSound lore text) (v : Nat) (t : Tree)
    (ht : (s.standpoint (s.version v)).2 = some t) : t.FitsAt lore (s.standpoint (s.version v)).1.place := by
  rw [version, Array.getD_eq_getD_getElem?] at ht ⊢
  cases hv : s.versions[v]? with
  | none =>
    rw [hv] at ht
    cases ht
  | some x =>
    rw [hv] at ht
    exact h.standpoint_fits (Array.mem_of_getElem? hv) t ht

/-- Putting one version in a place where it was not keeps the stack sound. -/
theorem IsSound.setVersion (h : s.IsSound lore text) (v : Nat) {x : Version} (htop : x.top < s.vertices.size)
    (hwaits : ∀ t, (s.standpoint x).2 = some t → t.FitsAt lore (s.standpoint x).1.place) :
    IsSound lore text { s with versions := s.versions.set! v x } ∧
      view { s with versions := s.versions.set! v x } = s.view.set v (s.standpoint x) := by
  have hmem (y : Version) (hy : y ∈ s.versions.set! v x) : y ∈ s.versions ∨ y = x := by
    rw [← Array.mem_toList_iff, Array.toList_set!] at hy
    rw [← Array.mem_toList_iff]
    exact List.mem_or_eq_of_mem_set hy
  refine ⟨h.withVersions (fun y hy => ?_) (fun y hy => ?_), ?_⟩
  · rcases hmem y hy with hy | rfl
    · exact h.top y hy
    · exact htop
  · rcases hmem y hy with hy | rfl
    · exact h.standpoint_fits hy
    · exact hwaits
  · rw [view, Array.toList_set!, List.map_set]
    rfl

/-- A later version takes the place of an earlier one. -/
theorem IsSound.renumber (h : s.IsSound lore text) {later earlier : Nat} {x : Standpoint}
    (hx : s.view[later]? = some x) (hne : later ≠ earlier) :
    (s.renumber later earlier).IsSound lore text ∧
      (s.renumber later earlier).view = (s.view.set earlier x).eraseIdx later := by
  have hstand := standpoint_version hx
  have hset := h.setVersion earlier
    (x := { s.version later with trail := (s.version later).trail.or (s.version earlier).trail })
    (version_top_lt h later) (h.version_fits later)
  rw [Stack.renumber, if_neg hne]
  obtain ⟨hremove, hview⟩ := hset.1.remove later
  refine ⟨hremove, hview.trans ?_⟩
  rw [hset.2]
  exact congrArg (fun y => (s.view.set earlier y).eraseIdx later) hstand

/-- Swapping versions keeps the stack sound. -/
theorem IsSound.swap (h : s.IsSound lore text) (v w : Nat) : (s.swap v w).IsSound lore text :=
  ((h.setVersion v (version_top_lt h w) (h.version_fits w)).1.setVersion w (version_top_lt h v)
    (h.version_fits v)).1

/-- Adding a version at a vertex. -/
theorem IsSound.pushVersion (h : s.IsSound lore text) {x : Version} (htop : x.top < s.vertices.size)
    (hwaits : ∀ t, (s.standpoint x).2 = some t → t.FitsAt lore (s.standpoint x).1.place) :
    IsSound lore text { s with versions := s.versions.push x } ∧
      view { s with versions := s.versions.push x } = s.view ++ [s.standpoint x] := by
  refine ⟨h.withVersions (fun y hy => ?_) (fun y hy => ?_), ?_⟩
  · rcases Array.mem_push.mp hy with hy | rfl
    · exact h.top y hy
    · exact htop
  · rcases Array.mem_push.mp hy with hy | rfl
    · exact h.standpoint_fits hy
    · exact hwaits
  · rw [view, Array.toList_push, List.map_append]
    rfl

/-- A copy stands where the version does, behind all others. -/
theorem IsSound.copy (h : s.IsSound lore text) {v : Nat} {x : Standpoint} (hx : s.view[v]? = some x) :
    (s.copy v).1 = s.view.length ∧ (s.copy v).2.IsSound lore text ∧ (s.copy v).2.view = s.view ++ [x] := by
  have hpush := h.pushVersion (x := { s.version v with trail := none }) (version_top_lt h v)
    (h.version_fits v)
  refine ⟨(length_view s).symm, hpush.1, hpush.2.trans ?_⟩
  exact congrArg (fun y => s.view ++ [y]) (standpoint_version hx)

/-! ## Pushing -/

/-- A stack with one more vertex. -/
def withVertex (s : Stack) (x : Vertex) : Stack := { s with vertices := s.vertices.push x }

theorem vertex_withVertex {x : Vertex} {i : Nat} (hi : i < s.vertices.size) :
    (s.withVertex x).vertex i = s.vertex i := by
  rw [vertex, vertex, withVertex, Array.getD_eq_getD_getElem?, Array.getD_eq_getD_getElem?,
    Array.getElem?_push_lt hi, Array.getElem?_eq_getElem hi]

theorem vertex_withVertex_size {x : Vertex} : (s.withVertex x).vertex s.vertices.size = x := by
  rw [vertex, withVertex, Array.getD_eq_getD_getElem?, Array.getElem?_push_size, Option.getD_some]

/-- A new vertex keeps the stack sound if its links join it to others. -/
theorem IsSound.withVertex (h : s.IsSound lore text) {x : Vertex} (hplace : x.place.IsIn text)
    (hne : x.links ≠ [])
    (hlinks : ∀ l ∈ x.links, l.target < s.vertices.size ∧ l.Joins lore (s.vertex l.target).spot x.spot) :
    (s.withVertex x).IsSound lore text ∧ (s.withVertex x).view = s.view := by
  have hsize : (s.withVertex x).vertices.size = s.vertices.size + 1 := Array.size_push ..
  have hview : (s.withVertex x).view = s.view := by
    refine List.map_congr_left fun y hy => ?_
    rw [standpoint, standpoint, vertex_withVertex (h.top y (Array.mem_toList_iff.mp hy))]
  -- Every vertex is an old one or the new one.
  have hcases (i : Nat) (hi : i < (s.withVertex x).vertices.size) :
      i < s.vertices.size ∧ (s.withVertex x).vertex i = s.vertex i ∨ (s.withVertex x).vertex i = x := by
    rcases Nat.lt_succ_iff_lt_or_eq.mp (hsize ▸ hi) with hi | rfl
    · exact .inl ⟨hi, vertex_withVertex hi⟩
    · exact .inr vertex_withVertex_size
  refine ⟨⟨by omega, fun i hi => ?_, fun i hi hbottom => ?_, fun i hi l hl => ?_, fun y hy => ?_, ?_⟩, hview⟩
  · rcases hcases i hi with ⟨hi, hx⟩ | hx
    · rw [hx]
      exact h.place i hi
    · rw [hx]
      exact hplace
  · rcases hcases i hi with ⟨hi, hx⟩ | hx
    · rw [hx] at hbottom ⊢
      exact h.bottom i hi hbottom
    · exact absurd (hx ▸ hbottom) hne
  · rcases hcases i hi with ⟨hi, hx⟩ | hx
    · rw [hx] at hl ⊢
      obtain ⟨htarget, hjoins⟩ := h.link i hi l hl
      rw [vertex_withVertex htarget]
      exact ⟨by omega, hjoins⟩
    · rw [hx] at hl ⊢
      obtain ⟨htarget, hjoins⟩ := hlinks l hl
      rw [vertex_withVertex htarget]
      exact ⟨by omega, hjoins⟩
  · have htop := h.top y hy
    omega
  · rw [hview]
    exact h.waits

/-- Changing the view of a version replaces it. -/
theorem view_modify_of_some {v : Nat} {x : Standpoint} (hx : s.view[v]? = some x)
    (g : Standpoint → Standpoint) : s.view.modify v g = s.view.set v (g x) := by
  rw [List.modify_eq_set, hx]
  rfl

/-- Changing the view of no version changes nothing. -/
theorem view_modify_of_none {v : Nat} (hv : s.view[v]? = none) (g : Standpoint → Standpoint) :
    s.view.modify v g = s.view :=
  List.modify_eq_self (List.getElem?_eq_none_iff.mp hv)

/-- The stack with a vertex on top of a version. -/
theorem IsSound.pushVertex (h : s.IsSound lore text) {v : Nat} {x : Vertex} {f : Version → Version}
    (hplace : x.place.IsIn text) (hne : x.links ≠ [])
    (hlinks : ∀ l ∈ x.links, l.target < s.vertices.size ∧ l.Joins lore (s.vertex l.target).spot x.spot)
    (htop : ∀ y, (f y).top = s.vertices.size) (hstatus : ∀ y, (f y).status = y.status)
    (hwaits : ∀ y t, s.view[v]? = some y → y.2 = some t → t.FitsAt lore x.place) :
    IsSound lore text { vertices := s.vertices.push x, versions := s.versions.modify v f } ∧
    view { vertices := s.vertices.push x, versions := s.versions.modify v f } =
      s.view.modify v fun y => (x.spot, y.2) := by
  obtain ⟨hsound, hview⟩ := h.withVertex hplace hne hlinks
  have hstand (y : Version) : (s.withVertex x).standpoint (f y) = (x.spot, (s.standpoint y).2) := by
    rw [standpoint, htop, vertex_withVertex_size, hstatus]
    rfl
  have hsize : (s.withVertex x).vertices.size = s.vertices.size + 1 := Array.size_push ..
  refine ⟨hsound.modifyVersion (fun y _ => ?_) (fun y hy t ht => ?_), ?_⟩
  · rw [htop, hsize]
    exact Nat.lt_succ_self _
  · rw [hstand] at ht ⊢
    refine hwaits (s.standpoint y) t ?_ ht
    rw [getElem?_view, show s.versions[v]? = some y from hy, Option.map_some]
  · rw [← hview]
    exact view_modifyVersion (s := s.withVertex x) hstand

/-- Pushing a tree that fits moves the version on over it, to the state that it leads to. -/
theorem IsSound.push (h : s.IsSound lore text) {v : Nat} {c : Spot} (hv : s.view[v]? = some (.free c))
    {t : Tree} (ht : t.FitsAt lore c.place) (hu : t.Unwraps) {state : Nat} (hlinks : lore.Links c.state t state) :
    (s.push v (some t) state).IsSound lore text ∧
      (s.push v (some t) state).view = s.view.set v (.free ⟨c.place.advance t.total, state⟩) := by
  have hc : (s.vertex (s.version v).top).spot = c := top_of_view hv
  subst hc
  -- one more vertex, with a link to the one below
  have hplace := Tree.FitsAt.isIn t ht (top_isIn h v)
  have hpush := h.pushVertex (v := v)
    (x := { state, place := (s.vertex (s.version v).top).place.advance t.total
            links := [⟨(s.version v).top, some t⟩]
            cost := (s.vertex (s.version v).top).cost + t.cost
            nodes := (s.vertex (s.version v).top).nodes + t.nodeCount
            weight := (s.vertex (s.version v).top).weight + t.weight })
    (f := fun y => { y with top := s.vertices.size, nodesAtError := y.nodesAtError })
    hplace (List.cons_ne_nil _ _)
    (fun l hl => by
      obtain rfl := List.mem_singleton.mp hl
      exact ⟨version_top_lt h v, ht, hu, rfl, hlinks⟩)
    (fun _ => rfl) (fun _ => rfl)
    (fun y token hy htoken => by
      rw [hv] at hy
      cases hy
      cases htoken)
  rw [view_modify_of_some hv] at hpush
  exact hpush

/-- Marking an error leaves the version where it is, but it has lost track. -/
theorem IsSound.pushMark (h : s.IsSound lore text) (v : Nat) :
    (s.push v none 0).IsSound lore text ∧
      (s.push v none 0).view = s.view.modify v fun x => (⟨x.1.place, 0⟩, x.2) := by
  have hpush := h.pushVertex (v := v)
    (x := { s.vertex (s.version v).top with state := 0, links := [⟨(s.version v).top, none⟩] })
    (f := fun y => { y with top := s.vertices.size, nodesAtError := (s.vertex (s.version v).top).nodes })
    (top_isIn h v) (List.cons_ne_nil _ _)
    (fun l hl => by
      obtain rfl := List.mem_singleton.mp hl
      exact ⟨version_top_lt h v, rfl, rfl⟩)
    (fun _ => rfl) (fun _ => rfl)
    -- a version that waits for a token waits where it stood before
    (fun y token hy htoken => by
      have hy' : (s.vertex (s.version v).top).spot = y.1 := top_of_view hy
      have hfits := h.waits y (List.mem_of_getElem? hy) token htoken
      rw [← hy'] at hfits
      exact hfits)
  refine ⟨hpush.1, hpush.2.trans ?_⟩
  cases hv : s.view[v]? with
  | none => rw [view_modify_of_none hv, view_modify_of_none hv]
  | some y =>
    have hy : (s.vertex (s.version v).top).spot = y.1 := top_of_view hv
    rw [view_modify_of_some hv, view_modify_of_some hv, ← hy]
    rfl

/-! ## Merging -/

/-- Two stacks with the same versions, and vertices at the same places in the same states. -/
structure SameSpots (s s' : Stack) : Prop where
  versions_eq : s'.versions = s.versions
  size_eq : s'.vertices.size = s.vertices.size
  spot_eq : ∀ i, (s'.vertex i).spot = (s.vertex i).spot

theorem SameSpots.refl (s : Stack) : SameSpots s s := ⟨rfl, rfl, fun _ => rfl⟩

theorem SameSpots.trans {s s' s'' : Stack} (h : SameSpots s s') (h' : SameSpots s' s'') :
    SameSpots s s'' :=
  ⟨h'.versions_eq.trans h.versions_eq, h'.size_eq.trans h.size_eq,
    fun i => (h'.spot_eq i).trans (h.spot_eq i)⟩

/-- With the same spots the view is the same. -/
theorem SameSpots.view_eq {s s' : Stack} (h : SameSpots s s') : s'.view = s.view := by
  rw [view, view, h.versions_eq]
  refine List.map_congr_left fun x _ => ?_
  rw [standpoint, standpoint, h.spot_eq]

theorem SameSpots.place_eq {s s' : Stack} (h : SameSpots s s') (i : Nat) :
    (s'.vertex i).place = (s.vertex i).place := congrArg Spot.place (h.spot_eq i)

/-- Changing a vertex changes only that one. -/
theorem vertex_modify (s : Stack) (self : Nat) (f : Vertex → Vertex) (i : Nat) :
    vertex { s with vertices := s.vertices.modify self f } i =
      if self = i ∧ i < s.vertices.size then f (s.vertex i) else s.vertex i := by
  rw [vertex, vertex, Array.getD_eq_getD_getElem?, Array.getD_eq_getD_getElem?, Array.getElem?_modify]
  by_cases hi : i < s.vertices.size
  · rw [Array.getElem?_eq_getElem hi]
    by_cases hself : self = i
    · simp only [hself, hi, and_self, if_true, Option.map_some, Option.getD_some]
    · simp only [hself, false_and, if_false]
  · rw [Array.getElem?_eq_none (Nat.le_of_not_lt hi)]
    simp only [hi, and_false, if_false, Option.map_none, ite_self]

/-- A vertex may change as long as it stays where it is, does not lose all of its links, and these still join
it to what is below. -/
theorem IsSound.modifyVertex (h : s.IsSound lore text) (self : Nat) {f : Vertex → Vertex}
    (hspot : ∀ x, (f x).spot = x.spot) (hbottom : ∀ x, (f x).links = [] → x.links = [])
    (hlinks : self < s.vertices.size → ∀ l ∈ (f (s.vertex self)).links, l.target < s.vertices.size ∧
      l.Joins lore (s.vertex l.target).spot (s.vertex self).spot) :
    IsSound lore text { s with vertices := s.vertices.modify self f } ∧
      SameSpots s { s with vertices := s.vertices.modify self f } := by
  have hsame : SameSpots s { s with vertices := s.vertices.modify self f } := by
    refine ⟨rfl, Array.size_modify, fun i => ?_⟩
    rw [vertex_modify]
    split
    · exact hspot _
    · rfl
  -- soundness is about the places of vertices, and these stay
  have hsize := hsame.size_eq
  refine ⟨⟨?_, fun i hi => ?_, fun i hi hnil => ?_, fun i hi l hl => ?_, fun x hx => ?_, ?_⟩, hsame⟩
  · rw [hsize]
    exact h.nonempty
  · rw [hsame.place_eq]
    exact h.place i (hsize ▸ hi)
  · rw [hsame.place_eq]
    refine h.bottom i (hsize ▸ hi) ?_
    rw [vertex_modify] at hnil
    split at hnil
    · exact hbottom _ hnil
    · exact hnil
  · rw [hsize, hsame.spot_eq, hsame.spot_eq]
    rw [vertex_modify] at hl
    split at hl
    · rename_i hself
      obtain ⟨rfl, hi⟩ := hself
      exact hlinks hi l hl
    · exact h.link i (hsize ▸ hi) l hl
  · rw [hsize]
    exact h.top x hx
  · rw [hsame.view_eq]
    exact h.waits

/-- A link that is found carries the same tree, and leads to the same vertex or one that can be merged
with it. -/
theorem addLink_find {link : Link} {below : Vertex} {links : List Link} {i j : Nat} {l : Link} {same : Bool}
    (h : addLink.find s link below links i = some (j, l, same)) :
    l ∈ links ∧ (same = true → l.target = link.target) ∧
      (same = false → (s.vertex l.target).state = below.state ∧
        (s.vertex l.target).place.bytes = below.place.bytes) := by
  -- by induction on the links that are left
  induction links generalizing i with
  | nil =>
    rw [addLink.find] at h
    cases h
  | cons m ms ih =>
    rw [addLink.find] at h
    have hrest (h : addLink.find s link below ms (i + 1) = some (j, l, same)) :
        l ∈ m :: ms ∧ (same = true → l.target = link.target) ∧
          (same = false → (s.vertex l.target).state = below.state ∧
            (s.vertex l.target).place.bytes = below.place.bytes) := by
      obtain ⟨hmem, htarget, hplace⟩ := ih h
      exact ⟨List.mem_cons_of_mem m hmem, htarget, hplace⟩
    split at h
    · split at h
      · cases h
        exact ⟨List.mem_cons_self, fun _ => ‹_›, nofun⟩
      · dsimp only at h
        split at h
        · rename_i hagrees
          cases h
          rw [Bool.and_eq_true, Bool.and_eq_true, decide_eq_true_eq, decide_eq_true_eq] at hagrees
          exact ⟨List.mem_cons_self, nofun, fun _ => hagrees.1⟩
        · exact hrest h
    · exact hrest h

/-- Adding links one after the other, if each is all right to add. -/
theorem IsSound.foldl_addLink (add : Stack → Link → Stack) {self : Nat} (links : List Link)
    (hadd : ∀ s l, s.IsSound lore text → self < s.vertices.size → l.target < s.vertices.size →
      l.Joins lore (s.vertex l.target).spot (s.vertex self).spot →
      (add s l).IsSound lore text ∧ SameSpots s (add s l))
    (h : s.IsSound lore text) (hself : self < s.vertices.size)
    (hlinks : ∀ l ∈ links, l.target < s.vertices.size ∧
      l.Joins lore (s.vertex l.target).spot (s.vertex self).spot) :
    (links.foldl add s).IsSound lore text ∧ SameSpots s (links.foldl add s) := by
  induction links generalizing s with
  | nil => exact ⟨h, .refl s⟩
  | cons l ls ih =>
    obtain ⟨htarget, hjoins⟩ := hlinks l List.mem_cons_self
    obtain ⟨hsound, hsame⟩ := hadd s l h hself htarget hjoins
    obtain ⟨hall, hsame'⟩ := ih hsound (hsame.size_eq ▸ hself) fun m hm => by
      rw [hsame.size_eq, hsame.spot_eq, hsame.spot_eq]
      exact hlinks m (List.mem_cons_of_mem l hm)
    exact ⟨hall, hsame.trans hsame'⟩

/-- Adding a link that joins keeps the stack sound, and moves nothing. -/
theorem IsSound.addLink (depth : Nat) {self : Nat} {link : Link} (h : s.IsSound lore text)
    (hself : self < s.vertices.size) (htarget : link.target < s.vertices.size)
    (hjoins : link.Joins lore (s.vertex link.target).spot (s.vertex self).spot) :
    (Stack.addLink depth s self link).IsSound lore text ∧ SameSpots s (Stack.addLink depth s self link) := by
  fun_induction Stack.addLink depth s self link with
  | case1 => exact ⟨h, .refl _⟩
  | case2 depth s self link _ here below i old hfind =>
    -- The link is there already, to the same vertex: only its tree may change.
    obtain ⟨hold, hsame, -⟩ := addLink_find hfind
    refine h.modifyVertex self (fun _ => rfl) (fun _ hnil => by simpa using hnil) fun _ l hl => ?_
    rcases List.mem_or_eq_of_mem_set hl with hl | rfl
    · exact h.link self hself l hl
    · rw [hsame rfl]
      exact ⟨htarget, hjoins⟩
  | case3 => exact ⟨h, .refl _⟩
  | case4 => exact ⟨h, .refl _⟩
  | case5 s self link _ here below i old hfind depth merged weight ih =>
    -- The link is there already, to a vertex at the same spot: what is below is merged into that.
    obtain ⟨hold, -, hagrees⟩ := addLink_find hfind
    obtain ⟨hlt, -⟩ := h.link self hself old hold
    have hspot : (s.vertex old.target).spot = below.spot := by
      have hplace := Cursor.eq_of_bytes (h.place _ hlt) (h.place _ htarget) (hagrees rfl).2
      rw [Vertex.spot, Vertex.spot, hplace, (hagrees rfl).1]
    obtain ⟨hsound, hsame⟩ : merged.IsSound lore text ∧ SameSpots s merged :=
      IsSound.foldl_addLink _ _ ih h hlt fun l hl => by
        rw [hspot]
        exact h.link _ htarget l hl
    have hlinks (x : Vertex) : (if weight > x.weight then { x with weight } else x).links = x.links := by
      split <;> rfl
    obtain ⟨hsound', hsame'⟩ := hsound.modifyVertex self
      (f := fun x => if weight > x.weight then { x with weight } else x)
      (fun x => by split <;> rfl)
      (fun x hnil => hlinks x ▸ hnil)
      (fun hlt l hl => by
        rw [hlinks] at hl
        exact hsound.link self hlt l hl)
    exact ⟨hsound', hsame.trans hsame'⟩
  | case6 => exact ⟨h, .refl _⟩
  | case7 depth s self link _ here below _ _ =>
    refine h.modifyVertex self (fun _ => rfl) (fun _ hnil => (List.append_eq_nil_iff.mp hnil).1) fun _ l hl => ?_
    rcases List.mem_append.mp hl with hl | hl
    · exact h.link self hself l hl
    · obtain rfl := List.mem_singleton.mp hl
      exact ⟨htarget, hjoins⟩

/-- Versions that can be merged stand at the same spot. -/
theorem IsSound.spot_of_canMerge (h : s.IsSound lore text) {v w : Nat} (hmerge : s.canMerge v w) :
    (s.top v).spot = (s.top w).spot := by
  rw [canMerge] at hmerge
  simp only [Bool.and_eq_true, beq_iff_eq] at hmerge
  have hplace := Cursor.eq_of_bytes (top_isIn h v) (top_isIn h w) hmerge.1.1.2
  rw [Vertex.spot, Vertex.spot, hplace, hmerge.1.1.1.2]

/-- A version that is merged into another one is gone, and the others stay where they are. -/
theorem IsSound.merge (h : s.IsSound lore text) (v w : Nat) :
    (s.merge v w).2.IsSound lore text ∧
      (s.merge v w).2.view = if (s.merge v w).1 then s.view.eraseIdx w else s.view := by
  rw [Stack.merge]
  split
  · exact ⟨h, rfl⟩
  · rename_i hmerge
    rw [Bool.not_eq_true', Bool.not_eq_false] at hmerge
    have hspot := h.spot_of_canMerge hmerge
    -- the links of the second top are added to the first one by one, and its version goes
    obtain ⟨hsound, hsame⟩ := IsSound.foldl_addLink
      (fun s' l => Stack.addLink s'.vertices.size s' (s.version v).top l) (s.top w).links
      (fun s' l h' hself htarget hjoins => h'.addLink s'.vertices.size hself htarget hjoins)
      h (version_top_lt h v) (fun l hl => by
        rw [show (s.vertex (s.version v).top).spot = (s.top w).spot from hspot]
        exact h.link _ (version_top_lt h w) l hl)
    dsimp only
    split
    · obtain ⟨hnoted, hview⟩ := hsound.noteVersion (v := v)
        (f := fun x => { x with nodesAtError := (Stack.vertex _ (s.version v).top).nodes })
        (fun _ => rfl) (fun _ => rfl)
      obtain ⟨hremoved, hview'⟩ := hnoted.remove w
      exact ⟨hremoved, by rw [hview', hview, hsame.view_eq, if_pos rfl]⟩
    · obtain ⟨hremoved, hview'⟩ := hsound.remove w
      exact ⟨hremoved, by rw [hview', hsame.view_eq, if_pos rfl]⟩

/-! ## Popping -/

/-- Trees that lead from one place to another. -/
structure Leads (lore : Lore) (c : Cursor) (trees : List Tree) (d : Cursor) : Prop where
  fit : Tree.FitAt lore trees c
  unwrap : ∀ t ∈ trees, t.Unwraps
  arrive : c.advance (Tree.totals trees) = d

theorem Leads.nil (c : Cursor) : Leads lore c [] c := ⟨trivial, nofun, rfl⟩

/-- A tree in front of others leads to where they start. -/
theorem Leads.cons {b c d : Cursor} {t : Tree} {ts : List Tree} (ht : t.FitsAt lore b) (hu : t.Unwraps)
    (hc : b.advance t.total = c) (h : Leads lore c ts d) : Leads lore b (t :: ts) d where
  fit := by
    rw [Tree.FitAt, hc]
    exact ⟨ht, h.fit⟩
  unwrap u hu' := by
    rcases List.mem_cons.mp hu' with rfl | hu'
    · exact hu
    · exact h.unwrap u hu'
  arrive := by
    rw [Tree.totals, Cursor.advance_add, hc]
    exact h.arrive

/-- What trees lead to is led to by the first one and then by the others. -/
theorem Leads.of_cons {c d : Cursor} {t : Tree} {ts : List Tree} (h : Leads lore c (t :: ts) d) :
    t.FitsAt lore c ∧ t.Unwraps ∧ Leads lore (c.advance t.total) ts d := by
  have hfit := h.fit
  have harrive := h.arrive
  rw [Tree.FitAt] at hfit
  rw [Tree.totals, Cursor.advance_add] at harrive
  exact ⟨hfit.1, h.unwrap t List.mem_cons_self,
    hfit.2, fun u hu => h.unwrap u (List.mem_cons_of_mem t hu), harrive⟩

/-- Trees lead through the place between any two parts of them. -/
theorem leads_append {c d : Cursor} {ts us : List Tree} :
    Leads lore c (ts ++ us) d ↔ ∃ b, Leads lore c ts b ∧ Leads lore b us d := by
  constructor
  · rintro ⟨hfit, hunwrap, harrive⟩
    rw [Tree.fitAt_append] at hfit
    rw [Tree.totals_append, Cursor.advance_add] at harrive
    exact ⟨c.advance (Tree.totals ts), ⟨hfit.1, fun t ht => hunwrap t (List.mem_append_left us ht), rfl⟩,
      ⟨hfit.2, fun t ht => hunwrap t (List.mem_append_right ts ht), harrive⟩⟩
  · rintro ⟨b, hts, hus⟩
    refine ⟨Tree.fitAt_append.mpr ⟨hts.fit, ?_⟩, fun t ht => ?_, ?_⟩
    · rw [hts.arrive]
      exact hus.fit
    · rcases List.mem_append.mp ht with ht | ht
      · exact hts.unwrap t ht
      · exact hus.unwrap t ht
    · rw [Tree.totals_append, Cursor.advance_add, hts.arrive]
      exact hus.arrive

/-- A walker on its way down from a spot: its trees lead back up to there, from state to state. -/
structure Walker.IsFrom (lore : Lore) (s : Stack) (d : Spot) (w : Walker) : Prop where
  lt : w.vertex < s.vertices.size
  leads : Leads lore (s.vertex w.vertex).place w.trees d.place
  path : lore.Path d.state (s.vertex w.vertex).state w.trees w.count

/-- A walker that follows a link has one more tree, which leads back up. -/
theorem Walker.IsFrom.follow (h : s.IsSound lore text) {d : Spot} {w : Walker} (hw : w.IsFrom lore s d) {l : Link}
    (hl : l ∈ (s.vertex w.vertex).links) : (w.follow l).IsFrom lore s d := by
  obtain ⟨htarget, hjoins⟩ := h.link w.vertex hw.lt l hl
  rw [Link.Joins] at hjoins
  rw [Walker.follow]
  split
  · rename_i t htree
    rw [htree] at hjoins
    obtain ⟨hfits, hunwraps, harrive, hlinks⟩ := hjoins
    exact ⟨htarget, .cons hfits hunwraps harrive hw.leads, .tree hlinks hw.path⟩
  · rename_i htree
    rw [htree] at hjoins
    obtain ⟨hplace, hlost⟩ := hjoins
    refine ⟨htarget, ?_, .lost ?_⟩
    · have hleads := hw.leads
      rw [show (s.vertex w.vertex).place = _ from hplace.symm] at hleads
      exact hleads
    · have hpath := hw.path
      rw [show (s.vertex w.vertex).state = 0 from hlost] at hpath
      exact hpath

/-- A step down that counts leads to where as many trees are reached as were looked for. -/
theorem Walker.IsFrom.follow_reach (h : s.IsSound lore text) {d : Spot} {w : Walker} (hw : w.IsFrom lore s d)
    {l : Link} (hl : l ∈ (s.vertex w.vertex).links) (hcount : (w.follow l).count ≠ w.count) :
    lore.Reach d.state (s.vertex (w.follow l).vertex).state (w.follow l).trees (w.follow l).count := by
  obtain ⟨-, hjoins⟩ := h.link w.vertex hw.lt l hl
  have hpath := hw.path
  rw [Link.Joins] at hjoins
  rw [Walker.follow] at hcount ⊢
  split at hcount
  · rename_i t htree
    rw [htree] at hjoins
    obtain ⟨-, -, -, hlinks⟩ := hjoins
    cases hextra : t.extra with
    | true =>
      rw [hextra] at hcount
      exact absurd rfl hcount
    | false => exact .tree hlinks hextra hpath
  · rename_i htree
    rw [htree] at hjoins
    rw [show (s.vertex w.vertex).state = 0 from hjoins.2] at hpath
    exact .lost hpath

/-- What holds of walkers and is kept by every step down holds of all walkers after a step, and of those
that are taken. -/
theorem stepWalkers_forall {holds : Walker → Prop}
    {judge : Walker → Verdict}
    (hfollow : ∀ w l, holds w → judge w = .goOn → l ∈ (s.vertex w.vertex).links → holds (w.follow l))
    {walkers : List Walker} (hall : ∀ w ∈ walkers, holds w) :
    (∀ w ∈ (s.stepWalkers judge walkers).1, holds w) ∧
      ∀ w ∈ (s.stepWalkers judge walkers).2, holds w ∧ judge w = .take := by
  let parts (acc : List Walker × List Walker × List Walker × Nat) : Prop :=
    (∀ w ∈ acc.1, holds w) ∧ (∀ w ∈ acc.2.1, holds w) ∧ ∀ w ∈ acc.2.2.1, holds w ∧ judge w = .take
  rw [stepWalkers]
  -- The walkers are gone through once; what is kept, added and taken so far is as it should be.
  have hgather {acc : List Walker × List Walker × List Walker × Nat} (h : parts acc) :
      (∀ w ∈ acc.1.reverse ++ acc.2.1.reverse, holds w) ∧
        ∀ w ∈ acc.2.2.1.reverse, holds w ∧ judge w = .take := by
    refine ⟨fun w hw => ?_, fun w hw => h.2.2 w (List.mem_reverse.mp hw)⟩
    rcases List.mem_append.mp hw with hw | hw
    · exact h.1 w (List.mem_reverse.mp hw)
    · exact h.2.1 w (List.mem_reverse.mp hw)
  refine hgather (List.foldlRecOn (motive := parts) walkers _ ⟨nofun, nofun, nofun⟩ ?_)
  rintro ⟨kept, added, taken, total⟩ ⟨hkept, hadded, htaken⟩ w hw
  dsimp only at hkept hadded htaken ⊢
  split
  · rename_i hjudge
    refine ⟨hkept, hadded, fun u hu => ?_⟩
    rcases List.mem_cons.mp hu with rfl | hu
    · exact ⟨hall u hw, hjudge⟩
    · exact htaken u hu
  · exact ⟨hkept, hadded, htaken⟩
  · rename_i hjudge
    split
    · exact ⟨hkept, hadded, htaken⟩
    · rename_i l ls hlinks
      refine ⟨fun u hu => ?_, fun u hu => ?_, htaken⟩
      · rcases List.mem_cons.mp hu with rfl | hu
        · exact hfollow w l (hall w hw) hjudge (by rw [hlinks]; exact List.mem_cons_self)
        · exact hkept u hu
      · rcases List.mem_append.mp hu with hu | hu
        · obtain ⟨m, hm, rfl⟩ := List.mem_map.mp (List.mem_reverse.mp hu)
          exact hfollow w m (hall w hw) hjudge
            (by rw [hlinks]; exact List.mem_cons_of_mem l (List.mem_of_mem_take hm))
        · exact hadded u hu

/-- What holds of walkers and stays when they go on holds of all that come to be taken. -/
theorem walk_forall (holds : Walker → Prop) (judge : Walker → Verdict)
    (hfollow : ∀ w l, holds w → judge w = .goOn → l ∈ (s.vertex w.vertex).links → holds (w.follow l))
    (depth : Nat) (walkers : List Walker) (hall : ∀ w ∈ walkers, holds w) :
    ∀ w ∈ s.walk judge depth walkers, holds w ∧ judge w = .take := by
  fun_induction s.walk judge depth walkers with
  | case1 => nofun
  | case2 => nofun
  | case3 depth walkers _ next taken hstep ih =>
    obtain ⟨hnext, htaken⟩ := stepWalkers_forall hfollow hall
    rw [hstep] at hnext htaken
    intro w hw
    rcases List.mem_append.mp hw with hw | hw
    · exact htaken w hw
    · exact ih hnext w hw

/-- Slices that are numbered from some number on: something holds of the trees of each and of the spot of its
version. -/
def AreSlices (holds : Spot → List Tree → Prop) : Nat → List Spot → List (Nat × List (List Tree)) → Prop
  | _, [], [] => True
  | number, c :: cs, x :: xs =>
    x.1 = number ∧ x.2 ≠ [] ∧ (∀ trees ∈ x.2, holds c trees) ∧ AreSlices holds (number + 1) cs xs
  | _, _, _ => False

section Slices

variable {holds : Spot → List Tree → Prop} {number : Nat} {spots : List Spot}
  {found : List (Nat × List (List Tree))}

/-- A slice by its place has its number and a spot. -/
theorem AreSlices.of_getElem? (h : AreSlices holds number spots found) {i : Nat} {x : Nat × List (List Tree)}
    (hx : found[i]? = some x) : x.1 = number + i ∧ ∃ c, spots[i]? = some c := by
  induction found generalizing number spots i with
  | nil => cases hx
  | cons y ys ih =>
    cases spots with
    | nil => cases h
    | cons c cs =>
      obtain ⟨hnumber, -, -, hrest⟩ := h
      cases i with
      | zero =>
        cases hx
        exact ⟨hnumber, c, rfl⟩
      | succ i =>
        obtain ⟨hnumber', hplace⟩ := ih hrest hx
        exact ⟨by omega, hplace⟩

/-- Something holds of the trees of each slice. -/
theorem AreSlices.exists_holds (h : AreSlices holds number spots found) :
    ∀ x ∈ found, ∀ trees ∈ x.2, ∃ c, holds c trees := by
  induction found generalizing number spots with
  | nil => nofun
  | cons y ys ih =>
    cases spots with
    | nil => cases h
    | cons c cs =>
      obtain ⟨-, -, hall, hrest⟩ := h
      intro x hx trees htrees
      rcases List.mem_cons.mp hx with rfl | hx
      · exact ⟨c, hall trees htrees⟩
      · exact ih hrest x hx trees htrees

/-- A new slice may be added behind the others. -/
theorem AreSlices.concat (h : AreSlices holds number spots found) {c : Spot} {trees : List Tree}
    (hc : holds c trees) :
    AreSlices holds number (spots ++ [c]) (found ++ [(number + spots.length, [trees])]) := by
  induction found generalizing number spots with
  | nil =>
    cases spots with
    | nil =>
      refine ⟨rfl, List.cons_ne_nil _ _, fun ts hts => ?_, trivial⟩
      obtain rfl := List.mem_singleton.mp hts
      exact hc
    | cons c cs => cases h
  | cons y ys ih =>
    cases spots with
    | nil => cases h
    | cons c cs =>
      obtain ⟨hnumber, hne, hall, hrest⟩ := h
      refine ⟨hnumber, hne, hall, ?_⟩
      have htail := ih hrest
      rw [Nat.add_right_comm] at htail
      exact htail

/-- A slice may have more trees. -/
theorem AreSlices.modify (h : AreSlices holds number spots found) {i : Nat} {c : Spot} {trees : List Tree}
    (hi : spots[i]? = some c) (hc : holds c trees) :
    AreSlices holds number spots (found.modify i fun x => (x.1, x.2 ++ [trees])) := by
  induction found generalizing number spots i with
  | nil =>
    rw [List.modify_nil]
    exact h
  | cons y ys ih =>
    cases spots with
    | nil => cases h
    | cons b bs =>
      obtain ⟨hnumber, hne, hall, hrest⟩ := h
      cases i with
      | zero =>
        cases hi
        refine ⟨hnumber, List.append_ne_nil_of_right_ne_nil _ (List.cons_ne_nil _ _), fun ts hts => ?_, hrest⟩
        rcases List.mem_append.mp hts with hts | hts
        · exact hall ts hts
        · obtain rfl := List.mem_singleton.mp hts
          exact hc
      | succ i => exact ⟨hnumber, hne, hall, ih hrest hi⟩

/-- Slicing under way: the vertices are those of the stack, and a version has been added for each slice. -/
def Sliced (lore : Lore) (text : List Char) (s : Stack) (holds : Spot → List Tree → Prop)
    (acc : List (Nat × List (List Tree)) × Stack) : Prop :=
  acc.2.vertices = s.vertices ∧ acc.2.IsSound lore text ∧
    ∃ spots, acc.2.view = s.view ++ spots.map .free ∧ AreSlices holds s.view.length spots acc.1

/-- Slicing makes a version for each vertex that walkers have come to. -/
theorem IsSound.slices (h : s.IsSound lore text) (v : Nat) (holds : Spot → List Tree → Prop) {walkers : List Walker}
    (hwalkers : ∀ w ∈ walkers, w.vertex < s.vertices.size ∧ holds (s.vertex w.vertex).spot w.trees) :
    (s.slices v walkers).2.IsSound lore text ∧
    ∃ spots, (s.slices v walkers).2.view = s.view ++ spots.map Standpoint.free ∧
      AreSlices holds s.view.length spots (s.slices v walkers).1 := by
  -- by induction on the walkers, each of which is sliced off the stack of those before it
  suffices hsliced : Sliced lore text s holds (s.slices v walkers) from hsliced.2
  refine List.foldlRecOn (motive := Sliced lore text s holds) walkers _
    ⟨rfl, h, [], by rw [List.map_nil, List.append_nil], trivial⟩ ?_
  rintro ⟨found, s'⟩ ⟨hvertices, hsound, spots, hview, hslices⟩ w hw
  obtain ⟨hlt, hholds⟩ := hwalkers w hw
  dsimp only at hvertices hsound hview hslices ⊢
  have hvertex : s'.vertex w.vertex = s.vertex w.vertex := by rw [vertex, vertex, hvertices]
  split
  · -- There is a version at this vertex already: its spot is that of the walker.
    rename_i i hi
    obtain ⟨hlength, hfound, -⟩ := List.findIdx?_eq_some_iff_getElem.mp hi
    obtain ⟨hnumber, c, hc⟩ := hslices.of_getElem? (List.getElem?_eq_getElem hlength)
    have hspot : (s'.top (found[i]).1).spot = c := by
      refine top_of_view (x := .free c) ?_
      rw [hnumber, hview, List.getElem?_append_right (Nat.le_add_right _ _), Nat.add_sub_cancel_left,
        List.getElem?_map, hc]
      rfl
    rw [Stack.top, eq_of_beq hfound, hvertex] at hspot
    exact ⟨hvertices, hsound, spots, hview, hslices.modify hc (hspot ▸ hholds)⟩
  · -- A version is added, and its slice gets its number.
    obtain ⟨hpush, hview'⟩ := hsound.pushVersion
      (x := { s.version v with top := w.vertex, status := .active, trail := none })
      (hvertices ▸ hlt) nofun
    refine ⟨hvertices, hpush, spots ++ [(s.vertex w.vertex).spot], ?_, ?_⟩
    · rw [hview', hview, List.map_append, List.append_assoc, standpoint, hvertex]
      rfl
    · have hcount : s'.count = s.view.length + spots.length := by
        rw [← length_view, hview, List.length_append, List.length_map]
      rw [hcount]
      exact hslices.concat hholds

/-- Trees that are popped from a spot lead up to it, and so many of them count; the lowest one does. -/
structure Pops (lore : Lore) (n : Nat) (d c : Spot) (trees : List Tree) : Prop where
  leads : Leads lore c.place trees d.place
  reach : lore.Reach d.state c.state trees n

/-- A walker at the top of a version starts from its spot. -/
theorem isFrom_top (h : s.IsSound lore text) (v : Nat) :
    Walker.IsFrom lore s (s.top v).spot ⟨(s.version v).top, [], 0⟩ :=
  ⟨version_top_lt h v, .nil _, .nil⟩

/-- Popping so many trees adds a version for each spot that they lead down to. -/
theorem IsSound.popCount (h : s.IsSound lore text) (v n : Nat) :
    (s.popCount v n).2.IsSound lore text ∧
    ∃ spots, (s.popCount v n).2.view = s.view ++ spots.map Standpoint.free ∧
      AreSlices (Pops lore n (s.top v).spot) s.view.length spots (s.popCount v n).1 := by
  -- A walker that has come to the number has just passed a tree that counts, since it is stopped there.
  let counted (w : Walker) : Prop := w.IsFrom lore s (s.top v).spot ∧
    (w.count = n → lore.Reach (s.top v).state (s.vertex w.vertex).state w.trees n)
  have hwalk := walk_forall (s := s) counted (fun w => if w.count = n then .take else .goOn)
    (fun w l hw hjudge hl => ?_) (s.vertices.size + 1) [⟨(s.version v).top, [], 0⟩] (fun w hw => ?_)
  · refine h.slices v (Pops lore n (s.top v).spot) fun w hw => ?_
    obtain ⟨⟨hfrom, hreach⟩, htaken⟩ := hwalk w hw
    have hcount : w.count = n := by
      split at htaken
      · assumption
      · cases htaken
    exact ⟨hfrom.lt, hfrom.leads, hreach hcount⟩
  · refine ⟨hw.1.follow h hl, fun hcount => ?_⟩
    have hgoes : w.count ≠ n := by
      intro htaken
      rw [if_pos htaken] at hjudge
      cases hjudge
    have hreach := hw.1.follow_reach h hl (by rw [hcount]; exact hgoes.symm)
    rw [hcount] at hreach
    exact hreach
  · obtain rfl := List.mem_singleton.mp hw
    refine ⟨isFrom_top h v, fun hcount => ?_⟩
    subst hcount
    exact .nil

/-- What is popped when everything is starts at the start of the text. -/
theorem IsSound.popAll (h : s.IsSound lore text) (v : Nat) :
    (s.popAll v).2.IsSound lore text ∧
    (∃ spots : List Spot, (s.popAll v).2.view = s.view ++ spots.map Standpoint.free) ∧
    ∀ x ∈ (s.popAll v).1, ∀ trees ∈ x.2, Leads lore (Cursor.atStart text) trees (s.top v).place ∧
      ∃ c n, lore.Path (s.top v).state c trees n := by
  -- walkers go down to vertices without links, and those stand at the start of the text
  have hwalk := walk_forall (s := s) (·.IsFrom lore s (s.top v).spot)
    (fun w => if (s.vertex w.vertex).links.isEmpty then .take else .goOn)
    (fun w l hw _ hl => hw.follow h hl) (s.vertices.size + 1) [⟨(s.version v).top, [], 0⟩]
    (fun w hw => by
      obtain rfl := List.mem_singleton.mp hw
      exact isFrom_top h v)
  obtain ⟨hsound, spots, hview, hslices⟩ := h.slices v
    (fun c trees => Leads lore (Cursor.atStart text) trees (s.top v).place ∧
      ∃ n, lore.Path (s.top v).state c.state trees n)
    (fun w hw => by
      obtain ⟨hfrom, htaken⟩ := hwalk w hw
      split at htaken
      · rename_i hempty
        have hstart := h.bottom w.vertex hfrom.lt (List.isEmpty_iff.mp hempty)
        have hleads := hfrom.leads
        rw [hstart] at hleads
        exact ⟨hfrom.lt, hleads, w.count, hfrom.path⟩
      · cases htaken)
  refine ⟨hsound, ⟨spots, hview⟩, fun x hx trees htrees => ?_⟩
  obtain ⟨c, hleads, n, hpath⟩ := hslices.exists_holds x hx trees htrees
  exact ⟨hleads, c.state, n, hpath⟩

/-- An error that is popped leaves the version below it, where its parts start, in the same state. -/
theorem IsSound.popError (h : s.IsSound lore text) {v : Nat} {d : Spot} (hv : s.view[v]? = some (.free d)) :
    (s.popError v).2.IsSound lore text ∧
    ∃ c : Spot, (s.popError v).2.view = s.view.set v (.free c) ∧
      Leads lore c.place (((s.popError v).1.map (·.parts)).getD []) d.place ∧
      (d.state = c.state ∨ d.state = 0 ∨ d.state = 1) := by
  have hspot : (s.vertex (s.version v).top).spot = d := top_of_view hv
  -- where there is no error on top, nothing changes
  have hset : s.view = s.view.set v (.free d) := by
    obtain ⟨hlt, hget⟩ := List.getElem?_eq_some_iff.mp hv
    rw [← hget, List.set_getElem_self hlt]
  rw [Stack.popError]
  split
  · rename_i target t hfind
    obtain ⟨htarget, hjoins⟩ := h.link _ (version_top_lt h v) _ (List.mem_of_find?_eq_some hfind)
    have hpicked := List.find?_some hfind
    have herror : t.label = .error := eq_of_beq hpicked
    rw [hspot] at hjoins
    obtain ⟨hfits, hunwraps, harrive, hlinks⟩ := hjoins
    refine ⟨h.modifyVersion (fun _ _ => htarget) fun x hx token htoken => ?_,
      (s.vertex target).spot, ?_, ?_, hlinks.state_of_error herror⟩
    -- the version was free, so it still waits with nothing
    · rw [getElem?_view, hx] at hv
      have hwaits : x.status.lookahead? = none := congrArg (·.2) (Option.some.inj hv)
      rw [standpoint, hwaits] at htoken
      cases htoken
    · rw [view_modifyVersion (g := fun x => ((s.vertex target).spot, x.2)) (fun _ => rfl),
        view_modify_of_some hv]
    -- only an error has its parts taken off, and they lead as far as the error did
    · cases hunwraps with
      | token htoken => exact nomatch herror.symm.trans htoken
      | plain hplain _ => exact absurd herror hplain
      | error htotals hparts =>
        refine ⟨hfits.parts, hparts, ?_⟩
        rw [Option.map_some, Option.getD_some, htotals]
        exact harrive
  · exact ⟨h, d, hset, .nil d.place, .inl rfl⟩

end Slices

end Stack

end Overdue.Syntax
