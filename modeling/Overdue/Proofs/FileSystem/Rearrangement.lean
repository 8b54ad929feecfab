/-
File systems that list their entries in another order.

In what order a directory lists its entries is up to the file system. A tree is rearranged by exchanging
neighbours, in any directory and any number of times. Entries are found by their names, which are distinct, so
every path leads to the same place in both trees, and to the same entry up to the order of what it lists
(`exists_resolve`).
-/
import Overdue.Proofs.FileSystem.Lookup

set_option autoImplicit false

namespace Overdue

namespace Entry

/-! ## Rearranged trees -/

/-- Two lists of entries that differ in the order of entries, here or in directories below. -/
inductive Rearranged : List Entry → List Entry → Prop where
  | nil : Rearranged [] []
  | cons (e : Entry) {es es' : List Entry} : Rearranged es es' → Rearranged (e :: es) (e :: es')
  | inside (name : RawText) (refusals : Refusals) (es : List Entry) {inner inner' : List Entry} :
      Rearranged inner inner' → Rearranged (directory name inner refusals :: es) (directory name inner' refusals :: es)
  | swap (a b : Entry) (es : List Entry) : Rearranged (a :: b :: es) (b :: a :: es)
  | trans {es es' es'' : List Entry} : Rearranged es es' → Rearranged es' es'' → Rearranged es es''

/-- An entry that is the same, but for the order in which directories list what they hold. -/
inductive Alike : Entry → Entry → Prop where
  | refl (e : Entry) : Alike e e
  | directory (name : RawText) (refusals : Refusals) {es es' : List Entry} :
      Rearranged es es' → Alike (directory name es refusals) (directory name es' refusals)

namespace Rearranged

variable {es es' : List Entry}

theorem refl (es : List Entry) : Rearranged es es := by
  induction es with
  | nil => exact nil
  | cons e es ih => exact cons e ih

/-- What was rearranged can be put back. -/
theorem symm (h : Rearranged es es') : Rearranged es' es := by
  induction h with
  | nil => exact nil
  | cons e _ ih => exact cons e ih
  | inside name refusals es _ ih => exact inside name refusals es ih
  | swap a b es => exact swap b a es
  | trans _ _ ih ih' => exact trans ih' ih

/-- The names stay, in another order. -/
theorem perm_names (h : Rearranged es es') : (es.map Entry.name).Perm (es'.map Entry.name) := by
  induction h with
  | nil => exact .nil
  | cons e _ ih => exact ih.cons e.name
  | inside name refusals es _ _ => exact .refl _
  | swap a b es => exact .swap b.name a.name _
  | trans _ _ ih ih' => exact ih.trans ih'

end Rearranged

namespace Alike

/-- Entries that are alike a third one are alike. -/
theorem trans {a b c : Entry} (hab : Alike a b) (hbc : Alike b c) : Alike a c := by
  cases hab with
  | refl => exact hbc
  | directory name refusals h =>
    cases hbc with
    | refl => exact directory name refusals h
    | directory _ _ h' => exact directory name refusals (h.trans h')

theorem name_eq {a b : Entry} (h : Alike a b) : b.name = a.name := by
  cases h <;> rfl

/-- What is alike a directory is a directory with the same entries in another order, which refuses the same. -/
theorem of_directory {name : RawText} {es : List Entry} {refusals : Refusals} {e : Entry}
    (h : Alike (.directory name es refusals) e) : ∃ es', e = .directory name es' refusals ∧ Rearranged es es' := by
  cases h with
  | refl => exact ⟨es, rfl, .refl es⟩
  | directory _ _ h => exact ⟨_, rfl, h⟩

/-- Only a directory is alike a directory. -/
theorem isDirectory_eq {a b : Entry} (h : Alike a b) : b.isDirectory = a.isDirectory := by
  cases h <;> rfl

end Alike

/-- Every entry is still there, or one that is alike. -/
theorem Rearranged.exists_mem {es es' : List Entry} (h : Rearranged es es') {e : Entry} (he : e ∈ es) :
    ∃ e' ∈ es', Alike e e' := by
  induction h generalizing e with
  | nil => cases he
  | cons first _ ih =>
    rcases List.mem_cons.mp he with rfl | he
    · exact ⟨e, List.mem_cons_self, .refl e⟩
    · obtain ⟨e', he', halike⟩ := ih he
      exact ⟨e', List.mem_cons_of_mem _ he', halike⟩
  | inside name refusals es hinner _ =>
    rcases List.mem_cons.mp he with rfl | he
    · exact ⟨_, List.mem_cons_self, .directory name refusals hinner⟩
    · exact ⟨e, List.mem_cons_of_mem _ he, .refl e⟩
  | swap a b es => exact ⟨e, (List.Perm.swap b a es).mem_iff.mp he, .refl e⟩
  | trans _ _ ih ih' =>
    obtain ⟨e', he', halike⟩ := ih he
    obtain ⟨e'', he'', halike'⟩ := ih' he'
    exact ⟨e'', he'', halike.trans halike'⟩

/-- A directory has the same names in another order, so it is proper if what it holds is. -/
theorem IsProper.of_rearranged {es es' : List Entry} (h : Rearranged es es') {name : RawText} {refusals : Refusals}
    (hproper : IsProper (.directory name es refusals)) (hinner : ∀ e ∈ es', IsProper e) :
    IsProper (.directory name es' refusals) := by
  cases hproper with
  | directory _ _ hnodup hnames _ =>
    refine .directory name refusals (h.perm_names.nodup_iff.mp hnodup) ?_ hinner
    intro e' he'
    obtain ⟨e, he, halike⟩ := h.symm.exists_mem he'
    exact halike.name_eq ▸ hnames e he

/-- Rearranged entries are as proper as they were. -/
theorem Rearranged.isProper {es es' : List Entry} (h : Rearranged es es') (hes : ∀ e ∈ es, IsProper e) :
    ∀ e ∈ es', IsProper e := by
  induction h with
  | nil => exact hes
  | cons first _ ih =>
    rw [List.forall_mem_cons] at *
    exact ⟨hes.1, ih hes.2⟩
  | inside name refusals es hinner ih =>
    rw [List.forall_mem_cons] at *
    refine ⟨?_, hes.2⟩
    cases hes.1 with
    | directory _ _ _ _ hproper => exact .of_rearranged hinner hes.1 (ih hproper)
  | swap a b es => exact fun e he => hes e ((List.Perm.swap a b es).mem_iff.mp he)
  | trans _ _ ih ih' => exact ih' (ih hes)

/-- A rearranged directory holds an entry of the same name, which is alike. -/
theorem Rearranged.exists_lookup? {es es' : List Entry} (h : Rearranged es es')
    (hnodup : (es.map Entry.name).Nodup) {name : RawText} {e : Entry} (he : lookup? es name = some e) :
    ∃ e', lookup? es' name = some e' ∧ Alike e e' := by
  obtain ⟨hmem, hname⟩ := (lookup?_eq_some_iff hnodup).mp he
  obtain ⟨e', he', halike⟩ := h.exists_mem hmem
  have hnodup' := h.perm_names.nodup_iff.mp hnodup
  exact ⟨e', (lookup?_eq_some_iff hnodup').mpr ⟨he', halike.name_eq.trans hname⟩, halike⟩

end Entry

namespace FileSystem

/-- A file system with the same tree up to the order of entries, and the same working directory. -/
structure Rearranges (fs fs' : FileSystem) : Prop where
  root : Entry.Rearranged fs.root fs'.root
  working : fs'.working = fs.working

/-- A file system that was rearranged can be put back. -/
theorem Rearranges.symm {fs fs' : FileSystem} (h : Rearranges fs fs') : Rearranges fs' fs :=
  ⟨h.root.symm, h.working.symm⟩

theorem Rearranges.isProper {fs fs' : FileSystem} (h : Rearranges fs fs') (hfs : fs.IsProper) :
    fs'.IsProper := by
  refine Entry.IsProper.of_rearranged h.root hfs ?_
  cases hfs with
  | directory _ _ _ _ hinner => exact h.root.isProper hinner

/-! ## Lookup in a rearranged tree -/

/-- Names lead to the same entry in entries that are alike. -/
theorem exists_entryAt {top top' : Entry} (h : Entry.Alike top top') (htop : top.IsProper) {names : List RawText}
    {e : Entry} (he : entryAt top names = some e) : ∃ e', entryAt top' names = some e' ∧ Entry.Alike e e' := by
  induction names generalizing top top' with
  | nil =>
    cases he
    exact ⟨top', rfl, h⟩
  | cons first names ih =>
    obtain ⟨name, es, refusals, inner, rfl, hlookup, hinner⟩ := exists_directory_of_entryAt he
    obtain ⟨es', rfl, hrearranged⟩ := h.of_directory
    cases htop with
    | directory _ _ hnodup _ hproper =>
      obtain ⟨inner', hlookup', halike⟩ := hrearranged.exists_lookup? hnodup hlookup
      obtain ⟨e', he', halike'⟩ := ih halike (hproper inner (mem_of_lookup? hlookup).1) hinner
      exact ⟨e', by rw [entryAt_cons, hlookup', Option.bind_some, he'], halike'⟩

section Rearranged

variable {fs fs' : FileSystem}

/-- The trees as a whole are alike. -/
theorem Rearranges.alike_top (h : fs.Rearranges fs') : Entry.Alike fs.top fs'.top := .directory "" {} h.root

/-- Pieces lead on in the same way: a link is never rearranged. -/
theorem advance_eq_ok (h : fs.Rearranges fs') (hfs : fs.IsProper) {links : Nat} {here : List RawText}
    {piece : RawText} {next : Nat × List RawText × List RawText}
    (hnext : fs.advance links here piece = .ok next) : fs'.advance links here piece = .ok next := by
  obtain ⟨name, es, refusals, hentry⟩ :
      ∃ name es refusals, entryAt fs.top here = some (.directory name es refusals) := by
    by_contra hnone
    obtain ⟨fault, hfault⟩ :=
      advance_of_not_directory (fun name es refusals he => hnone ⟨name, es, refusals, he⟩) links
    rw [hfault] at hnext
    cases hnext
  obtain ⟨e', hentry', halike⟩ := exists_entryAt h.alike_top hfs hentry
  obtain ⟨es', rfl, hrearranged⟩ := halike.of_directory
  cases isProper_of_entryAt hfs hentry with
  | directory _ _ hnodup _ _ =>
    rw [← hnext, advance, advance, hentry, hentry']
    rw [advance, hentry] at hnext
    dsimp only at hnext ⊢
    -- what is looked up in the directory is all that its entries are needed for
    cases hlookup : Entry.lookup? es piece with
    | some found =>
      obtain ⟨found', hlookup', halike⟩ := hrearranged.exists_lookup? hnodup hlookup
      rw [hlookup']
      cases halike <;> rfl
    | none =>
      rw [hlookup] at hnext
      dsimp only at hnext
      repeat' split at hnext
      all_goals simp_all

/-- A path is followed to the same place, and what stands there is alike. -/
theorem exists_follow (h : fs.Rearranges fs') (hfs : fs.IsProper) {links : Nat}
    {here pieces there : List RawText} {e : Entry} (he : fs.follow links here pieces = .ok (there, e)) :
    ∃ e', fs'.follow links here pieces = .ok (there, e') ∧ Entry.Alike e e' := by
  induction links, here, pieces using follow_induction fs with
  | nil links here =>
    rw [follow] at he
    split at he
    · rename_i found hfound
      cases he
      obtain ⟨e', he', halike⟩ := exists_entryAt h.alike_top hfs hfound
      exact ⟨e', by rw [follow, he'], halike⟩
    · cases he
  | cons links here piece rest ih =>
    rw [follow_cons] at he
    split at he
    · rename_i hstep
      rw [follow_of_advance (advance_eq_ok h hfs hstep)]
      exact ih _ _ _ hstep he
    · cases he

/-- Every path leads to the same entry, up to the order of what it lists. -/
theorem exists_resolve (h : fs.Rearranges fs') (hfs : fs.IsProper) {path : Path} {e : Entry}
    (he : fs.resolve path = .ok e) : ∃ e', fs'.resolve path = .ok e' ∧ Entry.Alike e e' := by
  obtain ⟨there, hlocate⟩ := exists_locate he
  obtain ⟨hempty, hnull, hlong, hfollow⟩ := locate_eq_ok_iff.mp hlocate
  obtain ⟨e', hfollow', halike⟩ := exists_follow h hfs hfollow
  rw [← h.working] at hfollow'
  exact ⟨e', by rw [resolve, locate_eq_ok_iff.mpr ⟨hempty, hnull, hlong, hfollow'⟩]; rfl, halike⟩

/-- A directory that could be listed can be listed, and the entries are the same in another order. -/
theorem exists_list (h : fs.Rearranges fs') (hfs : fs.IsProper) {path : Path} {es : List Entry}
    (hes : fs.list path = .ok es) : ∃ es', fs'.list path = .ok es' ∧ Entry.Rearranged es es' := by
  obtain ⟨name, refusals, hresolve, hlisting⟩ := list_eq_ok_iff.mp hes
  obtain ⟨e', he', halike⟩ := exists_resolve h hfs hresolve
  obtain ⟨es', rfl, hrearranged⟩ := halike.of_directory
  exact ⟨es', list_eq_ok_iff.mpr ⟨name, refusals, he', hlisting⟩, hrearranged⟩

/-- A regular file stays one. -/
theorem isFile_of_rearranges (h : fs.Rearranges fs') (hfs : fs.IsProper) {path : Path}
    (hfile : fs.isFile path = true) : fs'.isFile path = true := by
  rw [isFile] at hfile
  split at hfile
  · rename_i hresolve
    obtain ⟨e', he', halike⟩ := exists_resolve h hfs hresolve
    cases halike
    rw [isFile, he']
  · cases hfile

end Rearranged

end FileSystem

end Overdue
