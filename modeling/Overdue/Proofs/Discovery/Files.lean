/-
The files that are discovered.

A root that is a regular file is discovered if it is a source file. From any other root the files that are
discovered are the source files of the directories that are walked, each of them once, in the order of their
paths. Which files these are is said by rules for paths (`IsSourceFile`), and paths do not know in what order a
directory lists its entries; the files are sorted, so the discovery does not depend on that order either
(`discover_finds_sources`).
-/
import Overdue.Proofs.Discovery.Walk
import Overdue.Proofs.FileSystem.Rearrangement

set_option autoImplicit false

namespace Overdue

/-! ## Sorted files -/

/-- A path comes before another one, and not the other way round. -/
def Path.IsBefore (p q : Path) : Prop := p.le q = true ∧ q.le p = false

/-- Files with different components are sorted strictly. -/
theorem pairwise_isBefore_mergeSort {files : List Path} (h : files.Pairwise Path.Differ) :
    (files.mergeSort Path.le).Pairwise Path.IsBefore := by
  have hsorted := List.pairwise_mergeSort Path.le_trans Path.le_total files
  have hdiffer : (files.mergeSort Path.le).Pairwise Path.Differ :=
    (List.mergeSort_perm files Path.le).symm.pairwise h fun hne => Ne.symm hne
  refine (hsorted.and hdiffer).imp ?_
  rintro p q ⟨hle, hne⟩
  refine ⟨hle, ?_⟩
  rw [← Bool.not_eq_true]
  exact fun hge => hne (Path.components_eq_of_le hle hge)

/-- Strictly sorted lists of the same files are the same list. -/
theorem eq_of_pairwise_isBefore {files files' : List Path} (h : files.Pairwise Path.IsBefore)
    (h' : files'.Pairwise Path.IsBefore) (hmem : ∀ f, f ∈ files ↔ f ∈ files') : files = files' := by
  have hasymm : ∀ {p q : Path}, p.IsBefore q → ¬ q.IsBefore p := by
    intro p q hpq hqp
    exact Bool.false_ne_true (hpq.2.symm.trans hqp.1)
  have hnodup : ∀ {l : List Path}, l.Pairwise Path.IsBefore → l.Nodup := by
    intro l hl
    refine hl.imp ?_
    rintro p _ hpq rfl
    exact hasymm hpq hpq
  refine List.Perm.eq_of_pairwise (fun p q _ _ hpq hqp => absurd hqp (hasymm hpq)) h h' ?_
  exact (List.perm_ext_iff_of_nodup (hnodup h) (hnodup h')).mpr hmem

/-! ## Source files -/

/-- A source file: an entry of a directory that is walked and can be listed, which is itself no directory, leads
to a regular file, and has the name of a source file. -/
def IsSourceFile (fs : FileSystem) (excludes : List String) (root f : Path) : Prop :=
  ∃ d entries e, Walked fs excludes root d ∧ fs.list d = .ok entries ∧ e ∈ entries ∧
    e.isDirectory = false ∧ f = d.join e.name ∧ fs.isFile f = true ∧ Path.IsSourceName e.name

/-- The files that are visited are the source files. -/
theorem visited_file_iff {fs : FileSystem} {excludes : List String} {root f : Path} :
    Visited fs excludes root (.file f) ↔ IsSourceFile fs excludes root f := by
  constructor
  · intro h
    cases h with
    | entry hwalked hlist he hnoted =>
      cases hnoted with
      | file hdirectory hfile hsource =>
        exact ⟨_, _, _, hwalked, hlist, he, hdirectory, rfl, hfile, hsource⟩
  · rintro ⟨d, entries, e, hwalked, hlist, he, hdirectory, rfl, hfile, hsource⟩
    exact .entry hwalked hlist he (.file hdirectory hfile hsource)

/-- The directories that cannot be listed are those that are walked and fail. -/
theorem visited_unreadable_iff {fs : FileSystem} {excludes : List String} {root d : Path} {fault : IoFault} :
    Visited fs excludes root (.unreadable d fault) ↔
      Walked fs excludes root d ∧ fs.list d = .error fault := by
  constructor
  · intro h
    cases h with
    | entry _ _ _ hnoted => cases hnoted
    | unreadable hwalked hfault => exact ⟨hwalked, hfault⟩
  · exact fun ⟨hwalked, hfault⟩ => .unreadable hwalked hfault

section Rearranged

variable {fs fs' : FileSystem} {excludes : List String} {root : Path}

/-- The directories that are walked are the same in every order of entries. -/
theorem Walked.rearranged (h : fs.Rearranges fs') (hfs : fs.IsProper) {d : Path}
    (hwalked : Walked fs excludes root d) : Walked fs' excludes root d := by
  induction hwalked with
  | root => exact .root
  | entry _ hlist he hdirectory hkept ih =>
    obtain ⟨entries', hlist', hrearranged⟩ := FileSystem.exists_list h hfs hlist
    obtain ⟨e', he', halike⟩ := hrearranged.exists_mem he
    rw [← halike.name_eq] at hkept ⊢
    exact .entry ih hlist' he' (halike.isDirectory_eq.trans hdirectory) hkept

/-- A source file stays one when directories list their entries in another order. -/
theorem IsSourceFile.rearranged (h : fs.Rearranges fs') (hfs : fs.IsProper) {f : Path}
    (hf : IsSourceFile fs excludes root f) : IsSourceFile fs' excludes root f := by
  obtain ⟨d, entries, e, hwalked, hlist, he, hdirectory, rfl, hfile, hsource⟩ := hf
  obtain ⟨entries', hlist', hrearranged⟩ := FileSystem.exists_list h hfs hlist
  obtain ⟨e', he', halike⟩ := hrearranged.exists_mem he
  have hname := halike.name_eq
  refine ⟨d, entries', e', hwalked.rearranged h hfs, hlist', he',
    halike.isDirectory_eq.trans hdirectory, by rw [hname], ?_, hname ▸ hsource⟩
  exact FileSystem.isFile_of_rearranges h hfs hfile

end Rearranged

/-! ## The discovery -/

section Discover

variable {fs : FileSystem} {excludes : List String} {root : Path} {e : Entry}

/-- A root that is there is discovered by visiting it. -/
theorem discover_of_resolve (hroot : fs.resolve root = .ok e) :
    discover fs excludes root = .ok (.ofVisits (walkRoot fs excludes root e)) := by
  rw [discover, visitsFrom, hroot]
  rfl

theorem mem_files_iff {visits : List Visit} {f : Path} :
    f ∈ (Discovery.ofVisits visits).files ↔ .file f ∈ visits := by
  rw [Discovery.ofVisits, List.mem_mergeSort]
  exact mem_filesOf

/-- The directories that were skipped are those that could not be listed. -/
theorem mem_skipped_iff {visits : List Visit} {d : Path} {fault : IoFault} :
    (d, fault) ∈ (Discovery.ofVisits visits).skipped ↔ .unreadable d fault ∈ visits := by
  rw [Discovery.ofVisits, List.mem_filterMap]
  constructor
  · rintro ⟨v, hv, hd⟩
    cases v with
    | unreadable p fault =>
      cases hd
      exact hv
    | _ => cases hd
  · exact fun h => ⟨_, h, rfl⟩

/-- From a root that is no regular file, the source files are found, and the directories that cannot be
listed. -/
theorem discover_of_not_isFile (hfs : fs.IsProper) (hroot : fs.resolve root = .ok e)
    (hfile : fs.isFile root = false) (excludes : List String) :
    (∀ f, f ∈ (Discovery.ofVisits (walkRoot fs excludes root e)).files ↔ IsSourceFile fs excludes root f) ∧
    ∀ d fault, (d, fault) ∈ (Discovery.ofVisits (walkRoot fs excludes root e)).skipped ↔
      Walked fs excludes root d ∧ fs.list d = .error fault := by
  refine ⟨fun f => ?_, fun d fault => ?_⟩
  · rw [mem_files_iff, mem_walkRoot_iff hfs hroot hfile, visited_file_iff]
  · rw [mem_skipped_iff, mem_walkRoot_iff hfs hroot hfile, visited_unreadable_iff]

/-- A file that the root lists is found if its name is that of a source file. -/
theorem mem_files_of_listed (hfs : fs.IsProper) {name : RawText} {entries : List Entry} {refusals : Refusals}
    (hroot : fs.resolve root = .ok (.directory name entries refusals)) (hlisting : refusals.listing = none)
    {f : Entry} (hf : f ∈ entries) (hdirectory : f.isDirectory = false) (hfile : fs.isFile (root.join f.name) = true)
    (hsource : Path.IsSourceName f.name) :
    root.join f.name ∈ (Discovery.ofVisits (walkRoot fs excludes root (.directory name entries refusals))).files := by
  have hnot : fs.isFile root = false := by rw [FileSystem.isFile, hroot]
  have hlist : fs.list root = .ok entries := FileSystem.list_eq_ok_iff.mpr ⟨name, refusals, hroot, hlisting⟩
  refine ((discover_of_not_isFile hfs hroot hnot excludes).1 _).mpr ?_
  exact ⟨root, entries, f, .root, hlist, hf, hdirectory, rfl, hfile, hsource⟩

/-- A root that is a regular file is found if it is a source file. -/
theorem discover_of_isFile (hroot : fs.resolve root = .ok e) (hfile : fs.isFile root = true) :
    Discovery.ofVisits (walkRoot fs excludes root e) =
      ⟨if root.isSupported then [root] else [], []⟩ := by
  rw [FileSystem.isFile, hroot] at hfile
  cases e with
  | file name content =>
    rw [walkRoot]
    split <;> simp [Discovery.ofVisits, List.filterMap_cons, Visit.file?, Visit.unreadable?]
  | _ => cases hfile

/-- The files that are discovered do not depend on the order in which directories list their entries. -/
theorem files_rearranged {fs' : FileSystem} (h : fs.Rearranges fs') (hfs : fs.IsProper) {e' : Entry}
    (hroot : fs.resolve root = .ok e) (hroot' : fs'.resolve root = .ok e') :
    (Discovery.ofVisits (walkRoot fs' excludes root e')).files =
      (Discovery.ofVisits (walkRoot fs excludes root e)).files := by
  have hfs' := h.isProper hfs
  cases hfile : fs.isFile root with
  | true =>
    rw [discover_of_isFile hroot hfile,
      discover_of_isFile hroot' (FileSystem.isFile_of_rearranges h hfs hfile)]
  | false =>
    have hfile' : fs'.isFile root = false := by
      rw [← Bool.not_eq_true] at hfile ⊢
      exact mt (FileSystem.isFile_of_rearranges h.symm hfs') hfile
    refine eq_of_pairwise_isBefore (pairwise_isBefore_mergeSort (pairwise_walkRoot hfs' hroot'))
      (pairwise_isBefore_mergeSort (pairwise_walkRoot hfs hroot)) fun f => ?_
    have hfiles := (discover_of_not_isFile hfs hroot hfile excludes).1 f
    have hfiles' := (discover_of_not_isFile hfs' hroot' hfile' excludes).1 f
    exact hfiles'.trans (.trans ⟨.rearranged h.symm hfs', .rearranged h hfs⟩ hfiles.symm)

/-- Discovery finds the source files below a root, each once and in order, whatever the order in which
directories list their entries. -/
theorem discover_finds_sources (hfs : fs.IsProper) (excludes : List String) (hroot : fs.resolve root = .ok e) :
    ∃ found, discover fs excludes root = .ok found ∧
      (fs.isFile root = true → found.skipped = [] ∧
        ((∃ name, root.fileName? = some name ∧ Path.IsSourceName name) → found.files = [root]) ∧
        ((¬ ∃ name, root.fileName? = some name ∧ Path.IsSourceName name) → found.files = [])) ∧
      (fs.isFile root = false →
        (∀ f, f ∈ found.files ↔ IsSourceFile fs excludes root f) ∧
        ∀ d fault, (d, fault) ∈ found.skipped ↔
          Walked fs excludes root d ∧ fs.list d = .error fault) ∧
      found.files.Pairwise Path.IsBefore ∧
      ∀ fs', fs.Rearranges fs' → ∃ found',
        discover fs' excludes root = .ok found' ∧ found'.files = found.files := by
  refine ⟨_, discover_of_resolve hroot, ?_, (discover_of_not_isFile hfs hroot · excludes),
    pairwise_isBefore_mergeSort (pairwise_walkRoot hfs hroot), ?_⟩
  · intro hfile
    rw [discover_of_isFile hroot hfile, ← Path.isSupported_iff]
    exact ⟨rfl, fun h => if_pos h, fun h => if_neg h⟩
  · intro fs' h
    obtain ⟨e', hroot', -⟩ := FileSystem.exists_resolve h hfs hroot
    exact ⟨_, discover_of_resolve hroot', files_rearranged h hfs hroot hroot'⟩

/-! ### A directory with links -/

/-- A directory with a file, links to it, to the directory itself and to nothing, and a directory of foreign
code. -/
def linkedEntries : List Entry :=
  [.file "b.rs" (.ok ByteArray.empty), .link "a.GO" "b.rs", .link "loop" "../src", .link "gone.go" "nowhere",
    .directory "vendor" [.file "c.go" (.ok ByteArray.empty)]]

def linkedTree : FileSystem := ⟨[.directory "src" linkedEntries], []⟩

/-- The names in the directory can be names of files, and they differ. -/
theorem isProper_linkedTree : linkedTree.IsProper := by
  have hname : ∀ name ∈ ["src", "b.rs", "a.GO", "loop", "gone.go", "vendor", "c.go"], IsName (.ofString name) := by
    decide
  have hvendor : Entry.IsProper (.directory "vendor" [.file "c.go" (.ok ByteArray.empty)]) := by
    refine .directory _ _ (by decide) ?_ ?_
    · simp [Entry.name, hname]
    · simp [Entry.IsProper.file]
  have hsources : Entry.IsProper (.directory "src" linkedEntries) := by
    refine .directory _ _ (by decide) ?_ ?_
    · simp [linkedEntries, Entry.name, hname]
    · simp [linkedEntries, Entry.IsProper.file, Entry.IsProper.link, hvendor]
  refine .directory _ _ (by decide) ?_ ?_
  · simp [linkedTree, Entry.name, hname]
  · simpa [linkedTree] using hsources

/-- A directory at the top of a tree is found. -/
theorem resolve_src (entries : List Entry) :
    (FileSystem.mk [.directory "src" entries] []).resolve ⟨"src"⟩ = .ok (.directory "src" entries) := by
  have hname : IsName "src" := by decide
  exact FileSystem.resolve_name rfl hname rfl rfl rfl

/-- The link leads to the file. -/
theorem resolve_linkedTree :
    linkedTree.resolve ⟨"src/a.GO"⟩ = .ok (.file "b.rs" (.ok ByteArray.empty)) := by
  have hsrc : linkedTree.advance 40 [] "src" = .ok (40, ["src"], []) := rfl
  have hlink : linkedTree.advance 40 ["src"] "a.GO" = .ok (39, ["src"], ["b.rs"]) := by rfl
  have hfile : linkedTree.advance 39 ["src"] "b.rs" = .ok (39, ["src", "b.rs"], []) := by rfl
  have htarget : linkedTree.locate ⟨"src/a.GO"⟩ =
      .ok (["src", "b.rs"], .file "b.rs" (.ok ByteArray.empty)) := by
    refine FileSystem.locate_eq_ok_iff.mpr ⟨by decide, by decide, by decide, ?_⟩
    change linkedTree.follow 40 [] [("src" : RawText), "a.GO"] = _
    rw [FileSystem.follow_of_advance hsrc, List.nil_append, FileSystem.follow_of_advance hlink,
      List.append_nil, FileSystem.follow_of_advance hfile, List.nil_append, FileSystem.follow]
    rfl
  rw [FileSystem.resolve, htarget]
  rfl

/-- A link counts by its own name, in upper or lower case, and the links that lead nowhere or in a circle do
no harm. -/
theorem discover_finds_linked_source :
    linkedTree.IsProper ∧
    ∃ found, discover linkedTree ["gen"] ⟨"src"⟩ = .ok found ∧
      ⟨"src/a.GO"⟩ ∈ found.files ∧ found.files.Pairwise Path.IsBefore := by
  have hroot : linkedTree.resolve ⟨"src"⟩ = .ok (.directory "src" linkedEntries) := resolve_src linkedEntries
  have hdirectory : linkedTree.isFile ⟨"src"⟩ = false := by
    rw [FileSystem.isFile, hroot]
  have hfile : linkedTree.isFile ⟨"src/a.GO"⟩ = true := by rw [FileSystem.isFile, resolve_linkedTree]
  obtain ⟨found, hfound, -, hfiles, hsorted, -⟩ :=
    discover_finds_sources isProper_linkedTree ["gen"] hroot
  refine ⟨isProper_linkedTree, found, hfound, ((hfiles hdirectory).1 _).mpr ?_, hsorted⟩
  refine ⟨⟨"src"⟩, _, .link "a.GO" "b.rs", .root, FileSystem.list_eq_ok_iff.mpr ⟨_, _, hroot, rfl⟩, ?_, rfl,
    by decide +kernel, hfile, Text.encode ['a'], "GO", by decide +kernel⟩
  exact List.mem_cons_of_mem _ List.mem_cons_self

/-! ### A directory whose name is no text -/

/-- The name of a hidden directory that is no text. -/
def hiddenName : RawText := ⟨[Path.dot, 0xff]⟩

/-- The entries of a directory with a source file in a hidden directory. -/
def hiddenEntries : List Entry := [.directory hiddenName [.file "a.go" (.ok ByteArray.empty)]]

def hiddenTree : FileSystem := ⟨[.directory "src" hiddenEntries], []⟩

/-- The names can be names of files, and the one that is no text is among them. -/
theorem isProper_hiddenTree : hiddenTree.IsProper := by
  have hname : ∀ name ∈ [RawText.ofString "src", hiddenName, RawText.ofString "a.go"], IsName name := by decide
  have hhidden : Entry.IsProper (.directory hiddenName [.file "a.go" (.ok ByteArray.empty)]) := by
    refine .directory _ _ (by decide) ?_ ?_
    · simp [Entry.name, hname]
    · simp [Entry.IsProper.file]
  have hsources : Entry.IsProper (.directory "src" hiddenEntries) := by
    refine .directory _ _ (by decide) ?_ ?_
    · simp [hiddenEntries, Entry.name, hname]
    · simp [hiddenEntries, hhidden]
  refine .directory _ _ (by decide) ?_ ?_
  · simp [hiddenTree, Entry.name, hname]
  · simpa [hiddenTree] using hsources

/-- The source file in the hidden directory is one by the rules for paths. -/
theorem isSourceFile_hidden :
    IsSourceFile hiddenTree [] ⟨"src"⟩ ((Path.join ⟨"src"⟩ hiddenName).join "a.go") := by
  have hproper := isProper_hiddenTree
  have hroot : hiddenTree.resolve ⟨"src"⟩ = .ok (.directory "src" hiddenEntries) := resolve_src hiddenEntries
  have hlist : hiddenTree.list ⟨"src"⟩ = .ok hiddenEntries :=
    FileSystem.list_eq_ok_iff.mpr ⟨_, _, hroot, rfl⟩
  have hhidden : hiddenTree.resolve (Path.join ⟨"src"⟩ hiddenName) =
      .ok (.directory hiddenName [.file "a.go" (.ok ByteArray.empty)]) :=
    FileSystem.resolve_join hproper hroot List.mem_cons_self rfl
  have hinner : hiddenTree.list (Path.join ⟨"src"⟩ hiddenName) = .ok [.file "a.go" (.ok ByteArray.empty)] :=
    FileSystem.list_eq_ok_iff.mpr ⟨_, _, hhidden, rfl⟩
  have hkept : ¬ IsLeftOut [] hiddenName (Path.join ⟨"src"⟩ hiddenName) := by
    rintro ⟨text, htext, -⟩
    have hnone : hiddenName.text? = none := by decide
    cases hnone.symm.trans htext
  have hfile : hiddenTree.resolve ((Path.join ⟨"src"⟩ hiddenName).join "a.go") =
      .ok (.file "a.go" (.ok ByteArray.empty)) :=
    FileSystem.resolve_join hproper hhidden List.mem_cons_self rfl
  refine ⟨_, _, .file "a.go" (.ok ByteArray.empty), .entry .root hlist List.mem_cons_self rfl hkept, hinner,
    List.mem_cons_self, rfl, rfl, ?_, Text.encode ['a'], "go", by decide +kernel⟩
  rw [FileSystem.isFile, hfile]

/-- Not every directory that asks to be left out is left out. -/
theorem not_forall_asking_left_out :
    ¬ ∀ (fs : FileSystem) (excludes : List String) (root : Path) (entries : List Entry) (e : Entry)
        (found : Discovery), fs.IsProper → fs.list root = .ok entries → e ∈ entries → e.isDirectory = true →
        AsksToBeLeftOut excludes e.name (root.join e.name) → discover fs excludes root = .ok found →
        ∀ f ∈ found.files, ¬ (root.join e.name).components <+: f.components := by
  intro h
  have hroot : hiddenTree.resolve ⟨"src"⟩ = .ok (.directory "src" hiddenEntries) := resolve_src hiddenEntries
  have hlist : hiddenTree.list ⟨"src"⟩ = .ok hiddenEntries :=
    FileSystem.list_eq_ok_iff.mpr ⟨_, _, hroot, rfl⟩
  have hdirectory : hiddenTree.isFile ⟨"src"⟩ = false := by rw [FileSystem.isFile, hroot]
  have hfound := (discover_of_not_isFile isProper_hiddenTree hroot hdirectory []).1
  refine h hiddenTree [] ⟨"src"⟩ hiddenEntries _ _ isProper_hiddenTree hlist List.mem_cons_self rfl (.inl rfl)
    (discover_of_resolve hroot) _ ((hfound _).mpr isSourceFile_hidden) ?_
  rw [Path.components_join (Path.bytes_join_ne_nil (by decide)) (by constructor <;> decide)]
  exact List.prefix_append _ _

end Discover

end Overdue
