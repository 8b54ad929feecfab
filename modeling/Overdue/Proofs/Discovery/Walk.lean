/-
What a walk comes upon.

The walk goes down the tree of entries, while the rules for it are about paths: which directory a path leads to
and what it lists, whether the path of an entry leads to a regular file, which directories are left out. Here the
rules are stated for paths alone. `Walked` says which directories are walked from a root, and `Visited` what is
come upon in them. The walk comes upon exactly that (`mem_walkRoot_iff`): a path goes to the entry whose place
the walk has reached, because entries are looked up by name.
-/
import Overdue.Proofs.FileSystem.Lookup

set_option autoImplicit false

namespace Overdue

open Overdue.Text

/-! ## Rules for paths -/

/-- A directory is left out by the start of its name, by its name, or by a text in its path as it is shown, but only
if its name is a text. -/
def IsLeftOut (excludes : List String) (name : RawText) (path : Path) : Prop :=
  ∃ text, name.text? = some text ∧
    (text.toList.head? = some '.' ∨ text.toList.head? = some '_' ∨
      text ∈ ["target", "vendor", "node_modules", "testdata"] ∨
      ∃ e ∈ excludes, e.toList <:+: path.text.toList)

/-- The rule for directories is what is tested. -/
theorem isExcluded_iff {excludes : List String} {name : RawText} {path : Path} :
    isExcluded excludes name path = true ↔ IsLeftOut excludes name path := by
  rw [isExcluded, IsLeftOut]
  cases name.text? with
  | none => simp
  | some text => simp [foreignDirectories, occursIn_iff, or_assoc]

/-- A directory asks to be left out by the first byte of its name, by its name, or by a text in its path as it is
shown. Whether the name is a text does not matter here. -/
def AsksToBeLeftOut (excludes : List String) (name : RawText) (path : Path) : Prop :=
  name.bytes.head? = some (byteOf '.') ∨ name.bytes.head? = some (byteOf '_') ∨
    (∃ text ∈ ["target", "vendor", "node_modules", "testdata"], name = RawText.ofString text) ∨
    ∃ e ∈ excludes, e.toList <:+: path.text.toList

/-- Directories that ask to be left out are left out where their names are texts, and nowhere else. -/
theorem isLeftOut_iff {excludes : List String} {name : RawText} {path : Path} :
    IsLeftOut excludes name path ↔ name.text?.isSome ∧ AsksToBeLeftOut excludes name path := by
  have hforeign (text : String) :
      (∃ t ∈ ["target", "vendor", "node_modules", "testdata"], RawText.ofString text = RawText.ofString t) ↔
        text ∈ ["target", "vendor", "node_modules", "testdata"] := by
    simp only [RawText.ofString_injective.eq_iff, exists_eq_right']
  constructor
  · rintro ⟨text, htext, hrule⟩
    refine ⟨by rw [htext]; rfl, ?_⟩
    rw [RawText.text?_eq_some_iff.mp htext, AsksToBeLeftOut, RawText.bytes_ofString,
      head?_encode_eq_byteOf_iff (by decide), head?_encode_eq_byteOf_iff (by decide), hforeign]
    exact hrule
  · rintro ⟨hsome, hrule⟩
    obtain ⟨text, htext⟩ := Option.isSome_iff_exists.mp hsome
    refine ⟨text, htext, ?_⟩
    rwa [RawText.text?_eq_some_iff.mp htext, AsksToBeLeftOut, RawText.bytes_ofString,
      head?_encode_eq_byteOf_iff (by decide), head?_encode_eq_byteOf_iff (by decide), hforeign] at hrule

/-- The directories that are walked: the root, and directories listed in one that is walked and can be listed,
unless they are left out. Links to directories are not among them. -/
inductive Walked (fs : FileSystem) (excludes : List String) (root : Path) : Path → Prop where
  | root : Walked fs excludes root root
  | entry {d : Path} {entries : List Entry} {e : Entry} : Walked fs excludes root d →
      fs.list d = .ok entries → e ∈ entries → e.isDirectory = true →
      ¬ IsLeftOut excludes e.name (d.join e.name) → Walked fs excludes root (d.join e.name)

/-- What is noted about an entry of a directory that is walked. -/
inductive Noted (fs : FileSystem) (excludes : List String) (d : Path) (e : Entry) : Visit → Prop where
  | file : e.isDirectory = false → fs.isFile (d.join e.name) = true → Path.IsSourceName e.name →
      Noted fs excludes d e (.file (d.join e.name))
  | linked : e.isLink = true → fs.isDirectory (d.join e.name) = true →
      Noted fs excludes d e (.linked (d.join e.name))
  | excluded : e.isDirectory = true → IsLeftOut excludes e.name (d.join e.name) →
      Noted fs excludes d e (.excluded (d.join e.name))
  | unknown {fault : IoFault} : e.fault? = some fault → Noted fs excludes d e (.unknown (d.join e.name) fault)

/-- Why the directory that a path leads to does not list its entries to their end. -/
def FileSystem.ending? (fs : FileSystem) (path : Path) : Option IoFault :=
  match fs.resolve path with
  | .ok (.directory _ _ refusals) => refusals.ending
  | _ => none

/-- What is come upon in the directories that are walked: what is noted about their entries, and that they
cannot be listed, or not to their end. -/
inductive Visited (fs : FileSystem) (excludes : List String) (root : Path) : Visit → Prop where
  | entry {d : Path} {entries : List Entry} {e : Entry} {v : Visit} : Walked fs excludes root d →
      fs.list d = .ok entries → e ∈ entries → Noted fs excludes d e v → Visited fs excludes root v
  | unreadable {d : Path} {fault : IoFault} : Walked fs excludes root d →
      fs.list d = .error fault → Visited fs excludes root (.unreadable d fault)
  | broken {d : Path} {entries : List Entry} {fault : IoFault} : Walked fs excludes root d →
      fs.list d = .ok entries → fs.ending? d = some fault → Visited fs excludes root (.broken d fault)

section Walked

variable {fs : FileSystem} {excludes : List String} {p d : Path} {v : Visit}

/-- What is walked from a directory that is walked is walked. -/
theorem Walked.trans {q : Path} (h : Walked fs excludes p d) (h' : Walked fs excludes d q) :
    Walked fs excludes p q := by
  induction h' with
  | root => exact h
  | entry _ hlist he hdirectory hkept ih => exact .entry ih hlist he hdirectory hkept

/-- A walk goes on in the directories that are listed where it starts. -/
theorem walked_iff {entries : List Entry} (hlist : fs.list p = .ok entries) :
    Walked fs excludes p d ↔ d = p ∨ ∃ e ∈ entries, e.isDirectory = true ∧
      ¬ IsLeftOut excludes e.name (p.join e.name) ∧ Walked fs excludes (p.join e.name) d := by
  constructor
  · intro h
    induction h with
    | root => exact .inl rfl
    | entry _ hlist' he hdirectory hkept ih =>
      rcases ih with rfl | ⟨first, hfirst, hdirectory', hkept', hwalked⟩
      · cases hlist.symm.trans hlist'
        exact .inr ⟨_, he, hdirectory, hkept, .root⟩
      · exact .inr ⟨first, hfirst, hdirectory', hkept', .entry hwalked hlist' he hdirectory hkept⟩
  · rintro (rfl | ⟨e, he, hdirectory, hkept, hwalked⟩)
    · exact .root
    · exact Walked.trans (.entry .root hlist he hdirectory hkept) hwalked

/-- What is come upon in a directory is noted there, or below it, or tells that the directory broke off. -/
theorem visited_iff {entries : List Entry} (hlist : fs.list p = .ok entries) :
    Visited fs excludes p v ↔
      (∃ e ∈ entries, Noted fs excludes p e v ∨ e.isDirectory = true ∧
        ¬ IsLeftOut excludes e.name (p.join e.name) ∧ Visited fs excludes (p.join e.name) v) ∨
      ∃ fault, fs.ending? p = some fault ∧ v = .broken p fault := by
  constructor
  · intro h
    cases h with
    | entry hwalked hlist' he hnoted =>
      -- either the directory itself was visited, or one that is walked from one of its entries
      rcases (walked_iff hlist).mp hwalked with rfl | ⟨first, hfirst, hdirectory, hkept, hwalked⟩
      · cases hlist.symm.trans hlist'
        exact .inl ⟨_, he, .inl hnoted⟩
      · exact .inl ⟨first, hfirst, .inr ⟨hdirectory, hkept, .entry hwalked hlist' he hnoted⟩⟩
    | unreadable hwalked hfault =>
      rcases (walked_iff hlist).mp hwalked with rfl | ⟨first, hfirst, hdirectory, hkept, hwalked⟩
      · cases hlist.symm.trans hfault
      · exact .inl ⟨first, hfirst, .inr ⟨hdirectory, hkept, .unreadable hwalked hfault⟩⟩
    | broken hwalked hlist' hending =>
      rcases (walked_iff hlist).mp hwalked with rfl | ⟨first, hfirst, hdirectory, hkept, hwalked⟩
      · exact .inr ⟨_, hending, rfl⟩
      · exact .inl ⟨first, hfirst, .inr ⟨hdirectory, hkept, .broken hwalked hlist' hending⟩⟩
  · rintro (⟨e, he, hnoted | ⟨hdirectory, hkept, hvisited⟩⟩ | ⟨fault, hending, rfl⟩)
    · exact .entry .root hlist he hnoted
    · have hfirst : Walked fs excludes p (p.join e.name) := .entry .root hlist he hdirectory hkept
      cases hvisited with
      | entry hwalked hlist' he' hnoted => exact .entry (hfirst.trans hwalked) hlist' he' hnoted
      | unreadable hwalked hfault => exact .unreadable (hfirst.trans hwalked) hfault
      | broken hwalked hlist' hending => exact .broken (hfirst.trans hwalked) hlist' hending
    · exact .broken .root hlist hending

/-- A walk ends where nothing can be listed. -/
theorem visited_iff_of_error {fault : IoFault} (hlist : fs.list p = .error fault) :
    Visited fs excludes p v ↔ v = .unreadable p fault := by
  -- nothing below is walked, as there are no entries
  have hwalked : ∀ d, Walked fs excludes p d → d = p := by
    intro d h
    induction h with
    | root => rfl
    | entry _ hlist' _ _ _ ih =>
      subst ih
      cases hlist.symm.trans hlist'
  constructor
  · intro h
    cases h with
    | entry h hlist' =>
      cases hwalked _ h
      cases hlist.symm.trans hlist'
    | unreadable h hfault =>
      cases hwalked _ h
      cases hlist.symm.trans hfault
      rfl
    | broken h hlist' =>
      cases hwalked _ h
      cases hlist.symm.trans hlist'
  · rintro rfl
    exact .unreadable .root hlist

end Walked

/-! ## The walk -/

section Walk

variable {fs : FileSystem} {excludes : List String} {p : Path} {v : Visit} {entries : List Entry}

/-- What is noted of an entry is that it is a source file, leads to a directory, is left out, or has no known type. -/
theorem noted_iff {e : Entry} :
    Noted fs excludes p e v ↔
      v = .file (p.join e.name) ∧ e.isDirectory = false ∧ fs.isFile (p.join e.name) = true ∧
        Path.IsSourceName e.name ∨
      v = .linked (p.join e.name) ∧ e.isLink = true ∧ fs.isDirectory (p.join e.name) = true ∨
      v = .excluded (p.join e.name) ∧ e.isDirectory = true ∧ IsLeftOut excludes e.name (p.join e.name) ∨
      ∃ fault, v = .unknown (p.join e.name) fault ∧ e.fault? = some fault := by
  constructor
  · rintro (⟨h₁, h₂, h₃⟩ | ⟨h₁, h₂⟩ | ⟨h₁, h₂⟩ | h)
    · exact .inl ⟨rfl, h₁, h₂, h₃⟩
    · exact .inr (.inl ⟨rfl, h₁, h₂⟩)
    · exact .inr (.inr (.inl ⟨rfl, h₁, h₂⟩))
    · exact .inr (.inr (.inr ⟨_, rfl, h⟩))
  · rintro (⟨rfl, h₁, h₂, h₃⟩ | ⟨rfl, h₁, h₂⟩ | ⟨rfl, h₁, h₂⟩ | ⟨_, rfl, h⟩)
    · exact .file h₁ h₂ h₃
    · exact .linked h₁ h₂
    · exact .excluded h₁ h₂
    · exact .unknown h

/-- An entry is picked if it leads to a regular file and has the name of a source file. -/
theorem mem_pick_iff {path : Path} :
    v ∈ fs.pick path ↔ v = .file path ∧ fs.isFile path = true ∧ path.isSupported = true := by
  rw [FileSystem.pick]
  split
  · rename_i h
    obtain ⟨hfile, hsupported⟩ := Bool.and_eq_true_iff.mp h
    simp [hfile, hsupported]
  · rename_i h
    refine iff_of_false List.not_mem_nil fun ⟨_, hfile, hsupported⟩ => h ?_
    rw [hfile, hsupported]
    rfl

/-- The entries of a directory are walked one after the other. -/
theorem walkAll_eq_flatMap (entries : List Entry) :
    Entry.walkAll fs excludes p entries = entries.flatMap (Entry.walk fs excludes p) := by
  induction entries with
  | nil => rfl
  | cons e entries ih => rw [Entry.walkAll, ih, List.flatMap_cons]

theorem mem_walkAll_iff :
    v ∈ Entry.walkAll fs excludes p entries ↔ ∃ e ∈ entries, v ∈ e.walk fs excludes p := by
  rw [walkAll_eq_flatMap, List.mem_flatMap]

/-- An entry that is no link is found under its joined path, unless this is too long or the entry is refused. -/
theorem resolve_entry (hfs : fs.IsProper) (hlist : fs.list p = .ok entries) {e : Entry} (he : e ∈ entries)
    (hlink : e.isLink = false) :
    ∃ refusals : Refusals, fs.resolve (p.join e.name) =
      if FileSystem.isTooLong (p.join e.name) then .error .nameTooLong else FileSystem.grant refusals e := by
  obtain ⟨_, refusals, hresolve, -⟩ := FileSystem.list_eq_ok_iff.mp hlist
  exact ⟨refusals, FileSystem.resolve_join hfs hresolve he hlink⟩

/-- The path of a listed directory leads to that directory, or nowhere. -/
theorem resolve_directory (hfs : fs.IsProper) (hlist : fs.list p = .ok entries) {name : RawText}
    {inner : List Entry} {refusals : Refusals} (he : .directory name inner refusals ∈ entries) :
    (∃ fault, fs.resolve (p.join name) = .error fault) ∨
      fs.resolve (p.join name) = .ok (.directory name inner refusals) := by
  obtain ⟨outer, hresolve⟩ := resolve_entry hfs hlist he rfl
  rw [Entry.name] at hresolve
  rw [hresolve]
  split
  · exact .inl ⟨_, rfl⟩
  · rw [FileSystem.grant]
    split
    · exact .inl ⟨_, rfl⟩
    · exact .inr rfl

/-- The path of a listed directory lists what the directory holds, if it lists anything, and breaks off where the
directory does. -/
theorem list_directory (hfs : fs.IsProper) (hlist : fs.list p = .ok entries) {name : RawText}
    {inner : List Entry} {refusals : Refusals} (he : .directory name inner refusals ∈ entries)
    {found : List Entry} (hfound : fs.list (p.join name) = .ok found) :
    inner = found ∧ fs.ending? (p.join name) = refusals.ending := by
  obtain ⟨_, _, hresolve, -⟩ := FileSystem.list_eq_ok_iff.mp hfound
  rcases resolve_directory hfs hlist he with ⟨fault, herror⟩ | hdirectory
  · cases hresolve.symm.trans herror
  · cases hresolve.symm.trans hdirectory
    exact ⟨rfl, by rw [FileSystem.ending?, hdirectory]⟩

/-- An entry that does not tell what it is leads to no file. -/
theorem not_isFile_unknown (hfs : fs.IsProper) (hlist : fs.list p = .ok entries) {name : RawText}
    {fault : IoFault} (he : .unknown name fault ∈ entries) : fs.isFile (p.join name) = false := by
  obtain ⟨outer, hresolve⟩ := resolve_entry hfs hlist he rfl
  rw [Entry.name] at hresolve
  rw [FileSystem.isFile, hresolve]
  cases FileSystem.isTooLong (p.join name) with
  | true => rfl
  | false =>
    rw [if_neg Bool.false_ne_true, FileSystem.grant, Entry.fault?]
    cases outer.search <;> rfl

theorem not_isFile_of_isDirectory {path : Path} (h : fs.isDirectory path = true) :
    fs.isFile path = false := by
  rw [FileSystem.isDirectory] at h
  split at h
  · rename_i heq
    rw [FileSystem.isFile, heq]
  · cases h

/-- A listing breaks off where the directory says so. -/
theorem mem_breaks_iff {path : Path} {name : RawText} {inner : List Entry} {refusals : Refusals} :
    v ∈ Entry.breaks path (.directory name inner refusals) ↔
      ∃ fault, refusals.ending = some fault ∧ v = .broken path fault := by
  rw [Entry.breaks, List.mem_map]
  simp only [Option.mem_toList, eq_comm]

/-- An entry of a listed directory is walked by the rules for its path. -/
theorem mem_walk_iff (hfs : fs.IsProper) {p : Path} {entries : List Entry}
    (hlist : fs.list p = .ok entries) (e : Entry) (he : e ∈ entries) :
    v ∈ e.walk fs excludes p ↔ Noted fs excludes p e v ∨ e.isDirectory = true ∧
      ¬ IsLeftOut excludes e.name (p.join e.name) ∧ Visited fs excludes (p.join e.name) v := by
  obtain ⟨hp, -, hnames⟩ := FileSystem.of_list hfs hlist
  rw [noted_iff, ← Path.isSupported_join_iff hp (hnames e he)]
  -- by the kind of the entry, as the walk goes; only a directory has more than one visit
  match e with
  | .file name content =>
    simp [Entry.walk, Entry.isDirectory, Entry.isLink, Entry.fault?, Entry.name, mem_pick_iff]
  | .device name =>
    simp [Entry.walk, Entry.isDirectory, Entry.isLink, Entry.fault?, Entry.name, mem_pick_iff]
  | .link name target =>
    by_cases hdirectory : fs.isDirectory (p.join name) = true
    · have hfile := not_isFile_of_isDirectory hdirectory
      simp [Entry.walk, Entry.isDirectory, Entry.isLink, Entry.fault?, Entry.name, hdirectory, hfile]
    · simp [Entry.walk, Entry.isDirectory, Entry.isLink, Entry.fault?, Entry.name, hdirectory, mem_pick_iff]
  | .unknown name fault =>
    have hfile := not_isFile_unknown hfs hlist he
    simp [Entry.walk, Entry.isDirectory, Entry.isLink, Entry.fault?, Entry.name, hfile]
  | .directory name inner refusals =>
    rw [Entry.name]
    by_cases hleft : IsLeftOut excludes name (p.join name)
    · simp [Entry.walk, Entry.isDirectory, Entry.isLink, Entry.fault?, isExcluded_iff, hleft]
    · -- the walk goes on below, by the same rules
      -- by recursion on the entries: those of a directory are smaller than the directory
      have hwalk : v ∈ (Entry.directory name inner refusals).walk fs excludes p ↔
          Visited fs excludes (p.join name) v := by
        rw [Entry.walk, if_neg (mt isExcluded_iff.mp hleft)]
        split
        · rename_i hfault
          rw [visited_iff_of_error hfault, List.mem_singleton]
        · rename_i hinner
          obtain ⟨rfl, hending⟩ := list_directory hfs hlist he hinner
          rw [visited_iff hinner, List.mem_append, mem_walkAll_iff, mem_breaks_iff, hending]
          refine or_congr_left ?_
          exact exists_congr fun e' => and_congr_right fun he' => mem_walk_iff hfs hinner e' he'
      rw [hwalk]
      simp [Entry.isDirectory, Entry.isLink, Entry.fault?, hleft]
termination_by sizeOf e
decreasing_by
  have := List.sizeOf_lt_of_mem he'
  simp
  omega

/-- From a root that is no file the walk comes upon what the rules say. -/
theorem mem_walkRoot_iff (hfs : fs.IsProper) {root : Path} {e : Entry} (hroot : fs.resolve root = .ok e)
    (hfile : fs.isFile root = false) :
    v ∈ walkRoot fs excludes root e ↔ Visited fs excludes root v := by
  have hnot : ∀ name content, e ≠ .file name content := by
    rintro name content rfl
    rw [FileSystem.isFile, hroot] at hfile
    cases hfile
  unfold walkRoot
  split
  · exact absurd rfl (hnot _ _)
  · split
    · rename_i hfault
      rw [visited_iff_of_error hfault, List.mem_singleton]
    · rename_i entries hlist
      obtain ⟨name, refusals, hdirectory, -⟩ := FileSystem.list_eq_ok_iff.mp hlist
      cases hroot.symm.trans hdirectory
      rw [visited_iff hlist, List.mem_append, mem_walkAll_iff, mem_breaks_iff, FileSystem.ending?, hroot]
      refine or_congr_left ?_
      exact exists_congr fun e' => and_congr_right fun he' => mem_walk_iff hfs hlist e' he'

end Walk

/-! ## No file twice -/

section Once

variable {fs : FileSystem} {excludes : List String}

/-- What is walked from a directory lies below it. -/
theorem components_of_walked (hfs : fs.IsProper) {p d : Path} (h : Walked fs excludes p d) :
    p.components <+: d.components := by
  induction h with
  | root => exact List.prefix_refl _
  | entry _ hlist he _ _ ih =>
    obtain ⟨hp, -, hnames⟩ := FileSystem.of_list hfs hlist
    rw [Path.components_join hp (hnames _ he)]
    exact ih.trans (List.prefix_append _ _)

/-- A file that is found by walking an entry has the name of the entry in its path. -/
theorem components_of_mem_walk (hfs : fs.IsProper) {p f : Path} {entries : List Entry}
    (hlist : fs.list p = .ok entries) {e : Entry} (he : e ∈ entries)
    (hf : Visit.file f ∈ e.walk fs excludes p) : p.components ++ [.name e.name] <+: f.components := by
  obtain ⟨hp, -, hnames⟩ := FileSystem.of_list hfs hlist
  rw [← Path.components_join hp (hnames e he)]
  rcases (mem_walk_iff hfs hlist e he).mp hf with hnoted | ⟨-, -, hvisited⟩
  · cases hnoted
    exact List.prefix_refl _
  · cases hvisited with
    | entry hwalked hlist' he' hnoted =>
      cases hnoted
      obtain ⟨hp', -, hnames'⟩ := FileSystem.of_list hfs hlist'
      rw [Path.components_join hp' (hnames' _ he')]
      exact (components_of_walked hfs hwalked).trans (List.prefix_append _ _)

/-- The files that visits found. -/
def filesOf (visits : List Visit) : List Path := visits.filterMap Visit.file?

/-- The files among visits are those that were visited as files. -/
theorem mem_filesOf {visits : List Visit} {f : Path} : f ∈ filesOf visits ↔ .file f ∈ visits := by
  rw [filesOf, List.mem_filterMap]
  constructor
  · rintro ⟨v, hv, hf⟩
    cases v with
    | file p =>
      cases hf
      exact hv
    | _ => cases hf
  · exact fun h => ⟨_, h, rfl⟩

/-- Paths that differ in their components. -/
def Path.Differ (p q : Path) : Prop := p.components ≠ q.components

/-- Entries have different names, so the files below one of them are not below another one. -/
theorem pairwise_walkAll (hfs : fs.IsProper) {p : Path} {entries : List Entry}
    (hlist : fs.list p = .ok entries)
    (hinner : ∀ e ∈ entries, (filesOf (e.walk fs excludes p)).Pairwise Path.Differ) :
    (filesOf (Entry.walkAll fs excludes p entries)).Pairwise Path.Differ := by
  obtain ⟨-, hnodup, -⟩ := FileSystem.of_list hfs hlist
  rw [filesOf, walkAll_eq_flatMap, List.filterMap_flatMap, List.pairwise_flatMap]
  refine ⟨hinner, (List.pairwise_map.mp hnodup).imp_of_mem ?_⟩
  intro a b ha hb hnames f hf g hg hsame
  obtain ⟨below, hbelow⟩ := components_of_mem_walk hfs hlist ha (mem_filesOf.mp hf)
  obtain ⟨below', hbelow'⟩ := components_of_mem_walk hfs hlist hb (mem_filesOf.mp hg)
  rw [← hbelow, ← hbelow', List.append_assoc, List.append_assoc, List.append_cancel_left_eq] at hsame
  exact hnames (Path.Component.name.inj (List.cons.inj hsame).1)

/-- At most one file is picked under a path. -/
theorem pairwise_pick (path : Path) : (filesOf (fs.pick path)).Pairwise Path.Differ := by
  rw [FileSystem.pick]
  split
  · exact List.pairwise_singleton _ _
  · exact .nil

/-- That a directory broke off is not a file. -/
theorem filesOf_append_breaks (visits : List Visit) (path : Path) (e : Entry) :
    filesOf (visits ++ e.breaks path) = filesOf visits := by
  have hbreaks : filesOf (e.breaks path) = [] := by
    refine List.filterMap_eq_nil_iff.mpr fun v hv => ?_
    unfold Entry.breaks at hv
    split at hv
    · obtain ⟨fault, -, rfl⟩ := List.mem_map.mp hv
      rfl
    · cases hv
  rw [filesOf, List.filterMap_append, ← filesOf, ← filesOf, hbreaks, List.append_nil]

/-- No two files that are found by walking an entry have the same components. -/
theorem pairwise_walk (hfs : fs.IsProper) {p : Path} {entries : List Entry}
    (hlist : fs.list p = .ok entries) (e : Entry) (he : e ∈ entries) :
    (filesOf (e.walk fs excludes p)).Pairwise Path.Differ := by
  match e with
  | .directory name inner refusals =>
    rw [Entry.walk]
    split
    · exact .nil
    · split
      · exact .nil
      · rename_i hinner
        obtain ⟨rfl, -⟩ := list_directory hfs hlist he hinner
        -- what a directory adds for an entry that cannot be read is no file
        rw [filesOf_append_breaks]
        exact pairwise_walkAll hfs hinner fun e' he' => pairwise_walk hfs hinner e' he'
  | .file name content => exact pairwise_pick _
  | .device name => exact pairwise_pick _
  | .link name target =>
    rw [Entry.walk]
    split
    · exact .nil
    · exact pairwise_pick _
  | .unknown name fault => exact .nil
termination_by sizeOf e
decreasing_by
  have := List.sizeOf_lt_of_mem he'
  simp
  omega

/-- No two files that are found from a root have the same components. -/
theorem pairwise_walkRoot (hfs : fs.IsProper) {root : Path} {e : Entry} (hroot : fs.resolve root = .ok e) :
    (filesOf (walkRoot fs excludes root e)).Pairwise Path.Differ := by
  unfold walkRoot
  split
  · split
    · exact List.pairwise_singleton _ _
    · exact .nil
  · split
    · exact .nil
    · rename_i entries hlist
      rw [filesOf_append_breaks]
      exact pairwise_walkAll hfs hlist fun e' he' => pairwise_walk hfs hlist e' he'

end Once

end Overdue
