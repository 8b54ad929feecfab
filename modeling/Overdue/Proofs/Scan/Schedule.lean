/-
Scans do not depend on who takes which file, and when.

A worker keeps the tables of every language that it has met, and that is all it carries from one file to
the next. So the invariant is that the tables it keeps are the tables of their language (`Reader.IsSound`):
a fresh reader has it, reading keeps it, and under it a file is inspected as by a fresh reader. What the
workers find is then a function of the file alone, and putting it back in order gives the sequential scan,
whatever the sharing.

The tables themselves are never opened here: they are far too large to be computed with in a proof, and
nothing in this file depends on what is in them.
-/
import Overdue.Proofs.FileSystem.Lookup
import Overdue.Workers

set_option autoImplicit false

namespace Overdue

/-! ## Inspections, case by case -/

section Cases

variable {fs : FileSystem} {path : Path}

/-- A file without a text cannot be inspected. -/
theorem inspect_of_textOf_error {e : ScanError} (h : textOf fs path = .error e) :
    inspect fs path = .error e := by
  unfold inspect
  rw [h]

/-- A file with a text contributes what is read from it. -/
theorem inspect_of_textOf_ok {found : Language × String} (h : textOf fs path = .ok found) :
    inspect fs path = sourceOf path (Source.read found.1 found.2) := by
  unfold inspect
  rw [h]

/-- A reader does not change at a file without a text. -/
theorem Reader.inspect_of_textOf_error {r : Reader} {e : ScanError} (h : textOf fs path = .error e) :
    r.inspect fs path = (⟨path, .error e⟩, r) := by
  unfold Reader.inspect
  rw [h]

/-- A reader that inspects a file with a text is the one that has read the text. -/
theorem Reader.inspect_of_textOf_ok {r : Reader} {found : Language × String}
    (h : textOf fs path = .ok found) :
    r.inspect fs path =
      (⟨path, sourceOf path (r.read found.1 found.2).1⟩, (r.read found.1 found.2).2) := by
  unfold Reader.inspect
  rw [h]

end Cases

/-! ## Readers -/

namespace Reader

/-- The tables that a reader keeps are those of their languages. -/
def IsSound (r : Reader) : Prop :=
  ∀ language tables, r.prepared.lookup language = some tables → tables = language.tables

theorem isSound_empty : IsSound {} := by
  intro language tables h
  cases h

/-- A sound reader has the tables of a language at hand, kept or made, and stays sound. -/
theorem tablesFor_of_isSound {r : Reader} (h : r.IsSound) (language : Language) :
    (r.tablesFor language).1 = language.tables ∧ (r.tablesFor language).2.IsSound := by
  rw [tablesFor]
  cases hkept : r.prepared.lookup language with
  | some tables => exact ⟨h language tables hkept, h⟩
  | none =>
    refine ⟨rfl, ?_⟩
    -- what is kept now is the new tables and what was kept before
    intro other tables hother
    rw [List.lookup_cons] at hother
    split at hother
    · rename_i heq
      rw [eq_of_beq heq]
      exact (Option.some.inj hother).symm
    · exact h other tables hother

theorem read_eq (r : Reader) (language : Language) (text : String) :
    r.read language text =
      (Source.readWith (r.tablesFor language).1 language text, (r.tablesFor language).2) := rfl

/-- A sound reader reads every text as it is. -/
theorem read_of_isSound {r : Reader} (h : r.IsSound) (language : Language) (text : String) :
    (r.read language text).1 = Source.read language text ∧ (r.read language text).2.IsSound := by
  obtain ⟨htables, hsound⟩ := tablesFor_of_isSound h language
  rw [read_eq, htables]
  refine ⟨?_, hsound⟩
  -- reading a text by itself is reading it with the tables of its language
  rw [Source.read]

/-- The reader after it has read texts, each in its language. -/
def after (r : Reader) (texts : List (Language × String)) : Reader :=
  texts.foldl (fun r x => (r.read x.1 x.2).2) r

/-- A sound reader stays so, whatever it reads. -/
theorem isSound_after {r : Reader} (h : r.IsSound) (texts : List (Language × String)) :
    (r.after texts).IsSound := by
  induction texts generalizing r with
  | nil => exact h
  | cons x texts ih => exact ih (read_of_isSound h x.1 x.2).2

/-- A sound reader inspects a file as it is. -/
theorem inspect_of_isSound {r : Reader} (h : r.IsSound) (fs : FileSystem) (path : Path) :
    (r.inspect fs path).1 = Inspection.of fs path ∧ (r.inspect fs path).2.IsSound := by
  cases htext : textOf fs path with
  | error e =>
    rw [inspect_of_textOf_error htext, Inspection.of, Overdue.inspect_of_textOf_error htext]
    exact ⟨rfl, h⟩
  | ok found =>
    obtain ⟨hread, hsound⟩ := read_of_isSound h found.1 found.2
    rw [inspect_of_textOf_ok htext, Inspection.of, Overdue.inspect_of_textOf_ok htext, hread]
    exact ⟨rfl, hsound⟩

theorem inspectAll_cons (fs : FileSystem) (r : Reader) (path : Path) (paths : List Path) :
    r.inspectAll fs (path :: paths) =
      (r.inspect fs path).1 :: (r.inspect fs path).2.inspectAll fs paths := by
  rfl

/-- A sound reader inspects files one after the other as if each were the first. -/
theorem inspectAll_of_isSound {r : Reader} (h : r.IsSound) (fs : FileSystem) (paths : List Path) :
    r.inspectAll fs paths = paths.map (Inspection.of fs) := by
  induction paths generalizing r with
  | nil => rfl
  | cons path paths ih =>
    obtain ⟨hfirst, hsound⟩ := inspect_of_isSound h fs path
    rw [inspectAll_cons, hfirst, ih hsound, List.map_cons]

end Reader

/-! ## Sharings -/

namespace Sharing

variable {fs : FileSystem} {config : Config} {paths : List Path} {s : Sharing}

/-- A worker finds, at each of its positions, the inspection of the file there. -/
theorem share_eq (fs : FileSystem) (paths : List Path) (positions : List Nat) :
    share fs paths positions =
      positions.filterMap fun i => paths[i]?.map fun path => (i, Inspection.of fs path) := by
  have hzip (taken : List (Nat × Path)) :
      (taken.map (·.1)).zip ((taken.map (·.2)).map (Inspection.of fs)) =
        taken.map fun x => (x.1, Inspection.of fs x.2) := by
    rw [List.map_map, List.zip_map']
    rfl
  rw [share, Reader.inspectAll_of_isSound Reader.isSound_empty, hzip, List.map_filterMap]
  congr 1
  funext i
  rw [Option.map_map]
  rfl

/-- Under a complete sharing what is found at a position is the inspection of the file there. -/
theorem lookup_of_isComplete (h : s.IsComplete paths.length) {i : Nat} {path : Path}
    (hi : paths[i]? = some path) :
    (s.flatMap (share fs paths)).lookup i = some (Inspection.of fs path) := by
  have hshares : s.flatMap (share fs paths) =
      s.flatten.filterMap fun i => paths[i]?.map fun path => (i, Inspection.of fs path) := by
    rw [List.filterMap_flatten, List.flatMap_def]
    congr 2
    funext positions
    exact share_eq fs paths positions
  have hmem : i ∈ s.flatten := by
    rw [h.mem_iff, List.mem_range]
    exact (List.getElem?_eq_some_iff.mp hi).1
  -- All that is found at a position is the same, so it does not matter which finding comes first.
  have hfound : (i, Inspection.of fs path) ∈ s.flatMap (share fs paths) := by
    rw [hshares, List.mem_filterMap]
    exact ⟨i, hmem, by rw [hi]; rfl⟩
  have hsame : ∀ x ∈ s.flatMap (share fs paths), x.1 = i → x.2 = Inspection.of fs path := by
    intro x hx hxi
    rw [hshares, List.mem_filterMap] at hx
    obtain ⟨j, -, hj⟩ := hx
    obtain ⟨other, hother, rfl⟩ := Option.map_eq_some_iff.mp hj
    cases hxi
    rw [hi] at hother
    cases hother
    rfl
  cases hlookup : (s.flatMap (share fs paths)).lookup i with
  | none =>
    rw [List.lookup_eq_none_iff] at hlookup
    exact absurd (hlookup _ hfound) (by simp)
  | some x =>
    obtain ⟨before, rest, hsplit, -⟩ := List.lookup_eq_some_iff.mp hlookup
    have hx : (i, x) ∈ s.flatMap (share fs paths) := by
      rw [hsplit]
      exact List.mem_append_right _ List.mem_cons_self
    exact congrArg some (hsame _ hx rfl)

/-- Findings by position, put in the order of the positions. -/
theorem filterMap_range_length {α β : Type} {found : Nat → Option β} {g : α → β} {xs : List α}
    (h : ∀ i x, xs[i]? = some x → found i = some (g x)) :
    (List.range xs.length).filterMap found = xs.map g := by
  induction xs generalizing found with
  | nil => rfl
  | cons x xs ih =>
    have hrest := @ih (found ∘ Nat.succ) fun i y hy => h (i + 1) y hy
    rw [List.length_cons, List.range_succ_eq_map, List.filterMap_cons_some (h 0 x rfl),
      List.filterMap_map, hrest, List.map_cons]

/-- Under a complete sharing every file is inspected, once and in its place. -/
theorem inspections_of_isComplete (h : s.IsComplete paths.length) :
    s.inspections fs paths = paths.map (Inspection.of fs) :=
  filterMap_range_length fun _ _ hi => lookup_of_isComplete h hi

/-- Every complete sharing gives the report of the scan that takes the files in their order. -/
theorem scanFiles_of_isComplete (h : s.IsComplete paths.length) :
    s.scanFiles fs config paths = Overdue.scanFiles fs config paths := by
  rw [Sharing.scanFiles, inspections_of_isComplete h, Overdue.scanFiles]

end Sharing

/-! ## Single files -/

/-- What a file contributes to a run: its remarks, or the error that it costs. -/
abbrev Contribution := Except ScanError (List Remark)

namespace Contribution

def remarks : Contribution → List Remark
  | .ok remarks => remarks
  | .error _ => []

def error? : Contribution → Option ScanError
  | .ok _ => none
  | .error e => some e

end Contribution

/-- The scan of one file by a reader. -/
def Reader.scanFile (fs : FileSystem) (config : Config) (r : Reader) (path : Path) : Contribution :=
  (r.inspect fs path).1.result.map (Source.remarks config.markerRules path)

section Files

variable {fs fs' : FileSystem} {config : Config} {path : Path}

/-- To a sound reader the file is all that counts. -/
theorem Reader.scanFile_of_isSound {r : Reader} (h : r.IsSound) :
    r.scanFile fs config path =
      (Overdue.inspect fs path).map (Source.remarks config.markerRules path) := by
  rw [Reader.scanFile, (inspect_of_isSound h fs path).1, Inspection.of]

/-- The remarks of an inspection are those of a scan by a fresh reader. -/
theorem remarks_inspectionOf :
    (Inspection.of fs path).remarks config.markerRules =
      (({} : Reader).scanFile fs config path).remarks := by
  rw [Reader.scanFile_of_isSound Reader.isSound_empty, Inspection.of, Inspection.remarks]
  cases inspect fs path <;> rfl

/-- The error of an inspection is that of a scan by a fresh reader. -/
theorem error?_inspectionOf :
    (Inspection.of fs path).error? = (({} : Reader).scanFile fs config path).error? := by
  rw [Reader.scanFile_of_isSound Reader.isSound_empty, Inspection.of, Inspection.error?]
  cases inspect fs path <;> rfl

/-- Every remark of a source names the file. -/
theorem Source.file_of_mem_remarks {source : Source} {rules : MarkerRules} {x : Remark}
    (hx : x ∈ source.remarks rules path) : x.file = path := by
  -- a remark is made only of a comment, and along the path it is given
  obtain ⟨c, -, hc⟩ := List.mem_filterMap.mp hx
  rw [Remark.ofComment?] at hc
  split at hc
  · cases hc
    rfl
  · cases hc
  · cases hc

/-- Every remark on a file names the file. -/
theorem file_of_mem_remarks {x : Remark}
    (hx : x ∈ (({} : Reader).scanFile fs config path).remarks) : x.file = path := by
  rw [Reader.scanFile_of_isSound Reader.isSound_empty] at hx
  cases hinspect : inspect fs path with
  | error e =>
    rw [hinspect] at hx
    cases hx
  | ok source =>
    rw [hinspect] at hx
    exact source.file_of_mem_remarks hx

/-- What keeps a file from having a text is about that file, and is not its language if it is a source file. -/
theorem textOf_eq_error {e : ScanError} (h : textOf fs path = .error e) :
    e.path = path ∧ (path.isSupported → e.kind ≠ .unsupportedLanguage) := by
  unfold textOf at h
  split at h
  case h_1 hlanguage =>
    cases h
    -- the scan knows the language of a file by the test that the walk uses
    refine ⟨rfl, fun hsupported => ?_⟩
    rw [Path.isSupported, hlanguage] at hsupported
    cases hsupported
  case h_2 =>
    split at h
    · cases h
      exact ⟨rfl, fun _ => ScanErrorKind.noConfusion⟩
    · split at h
      · cases h
        exact ⟨rfl, fun _ => ScanErrorKind.noConfusion⟩
      · cases h

/-- The error that a file costs names the file, and does not call a known language unknown. -/
theorem inspect_eq_error {e : ScanError} (h : inspect fs path = .error e) :
    e.path = path ∧ (path.isSupported → e.kind ≠ .unsupportedLanguage) := by
  cases htext : textOf fs path with
  | error e' =>
    rw [inspect_of_textOf_error htext] at h
    cases h
    exact textOf_eq_error htext
  | ok found =>
    rw [inspect_of_textOf_ok htext] at h
    cases hread : Source.read found.1 found.2 with
    | error e' =>
      rw [hread] at h
      cases h
      exact ⟨rfl, fun _ => nofun⟩
    | ok source =>
      rw [hread] at h
      cases h

/-- Only the bytes of a file count. -/
theorem inspect_congr (h : fs'.read path = fs.read path) : inspect fs' path = inspect fs path := by
  have htext : textOf fs' path = textOf fs path := by
    unfold textOf
    rw [h]
  unfold inspect
  rw [htext]

end Files

/-! ## Discovered files -/

section Discovered

variable {fs : FileSystem} {excludes : List String} {path : Path}

/-- Only source files are picked. -/
theorem isSupported_of_mem_pick {p : Path} (h : Visit.file path ∈ fs.pick p) : path.isSupported := by
  rw [FileSystem.pick] at h
  split at h
  · rename_i hkept
    cases List.mem_singleton.mp h
    exact (Bool.and_eq_true_iff.mp hkept).2
  · cases h

/-- Where a listing breaks off there is no file. -/
theorem file_not_mem_breaks {p : Path} (e : Entry) : Visit.file path ∉ e.breaks p := by
  intro h
  unfold Entry.breaks at h
  split at h
  · obtain ⟨_, -, hvisit⟩ := List.mem_map.mp h
    cases hvisit
  · cases h

mutual

/-- Only source files are visited below an entry. -/
theorem isSupported_of_mem_walk (parent : Path) (e : Entry)
    (h : Visit.file path ∈ e.walk fs excludes parent) : path.isSupported := by
  cases e with
  | file name content => exact isSupported_of_mem_pick h
  | device name => exact isSupported_of_mem_pick h
  | link name target =>
    rw [Entry.walk] at h
    split at h
    · cases List.mem_singleton.mp h
    · -- a link to a file is tested by its own name, like a file
      exact isSupported_of_mem_pick h
  | directory name entries refusals =>
    rw [Entry.walk] at h
    split at h
    · cases List.mem_singleton.mp h
    · split at h
      · cases List.mem_singleton.mp h
      · rcases List.mem_append.mp h with h | h
        · exact isSupported_of_mem_walkAll (parent.join name) entries h
        · exact absurd h (file_not_mem_breaks _)
  | unknown name fault => cases List.mem_singleton.mp h

theorem isSupported_of_mem_walkAll (parent : Path) (es : List Entry)
    (h : Visit.file path ∈ Entry.walkAll fs excludes parent es) : path.isSupported := by
  cases es with
  | nil => cases h
  | cons e es =>
    rw [Entry.walkAll] at h
    rcases List.mem_append.mp h with h | h
    · exact isSupported_of_mem_walk parent e h
    · exact isSupported_of_mem_walkAll parent es h

end

/-- Only source files are visited below a root. -/
theorem isSupported_of_mem_walkRoot {root : Path} {e : Entry}
    (h : Visit.file path ∈ walkRoot fs excludes root e) : path.isSupported := by
  unfold walkRoot at h
  split at h
  · split at h
    · rename_i hroot
      cases List.mem_singleton.mp h
      exact hroot
    · cases List.mem_singleton.mp h
  · split at h
    · cases List.mem_singleton.mp h
    · rcases List.mem_append.mp h with h | h
      · exact isSupported_of_mem_walkAll root _ h
      · exact absurd h (file_not_mem_breaks _)

/-- Only files of known languages are discovered: the walk and the scan tell them by the same test. -/
theorem isSupported_of_mem_discover {root : Path} {d : Discovery}
    (h : discover fs excludes root = .ok d) (hpath : path ∈ d.files) : path.isSupported := by
  rw [discover, visitsFrom] at h
  split at h
  · -- sorting the files adds none to them
    cases h
    rw [Discovery.ofVisits, List.mem_mergeSort, List.mem_filterMap] at hpath
    obtain ⟨visit, hvisit, hfile⟩ := hpath
    cases visit with
    | file p =>
      cases hfile
      exact isSupported_of_mem_walkRoot hvisit
    | unreadable | broken | unknown | excluded | linked | unsupported => cases hfile
  · cases h

end Discovered

/-! ## Runs -/

section Runs

variable {fs fs' : FileSystem} {config : Config} {paths : List Path} {s : Sharing}

/-- Under a complete sharing a run lists, in the order of the files, what a fresh reader finds in each. -/
theorem remarks_of_isComplete (h : s.IsComplete paths.length) :
    (s.scanFiles fs config paths).remarks =
      paths.flatMap fun path => (({} : Reader).scanFile fs config path).remarks := by
  rw [Sharing.scanFiles_of_isComplete h]
  calc (scanFiles fs config paths).remarks
      = (paths.map (Inspection.of fs)).flatMap (Inspection.remarks config.markerRules) := rfl
    _ = paths.flatMap fun path => (Inspection.of fs path).remarks config.markerRules := List.flatMap_map ..
    _ = _ := List.flatMap_congr fun path _ => remarks_inspectionOf

/-- The errors of a complete schedule are those of the files, one by one. -/
theorem errors_of_isComplete (h : s.IsComplete paths.length) :
    (s.scanFiles fs config paths).errors =
      paths.filterMap fun path => (({} : Reader).scanFile fs config path).error? := by
  rw [Sharing.scanFiles_of_isComplete h]
  calc (scanFiles fs config paths).errors
      = (paths.map (Inspection.of fs)).filterMap Inspection.error? := rfl
    _ = paths.filterMap fun path => (Inspection.of fs path).error? := List.filterMap_map ..
    _ = _ := List.filterMap_congr fun path _ => error?_inspectionOf

/-- An error is about the file that it came from, and not about its language if it is a source file. -/
theorem error?_eq_some {path : Path} {e : ScanError}
    (h : (({} : Reader).scanFile fs config path).error? = some e) :
    e.path = path ∧ (path.isSupported → e.kind ≠ .unsupportedLanguage) := by
  rw [Reader.scanFile_of_isSound Reader.isSound_empty] at h
  cases hinspect : inspect fs path with
  | error e' =>
    rw [hinspect] at h
    cases h
    exact inspect_eq_error hinspect
  | ok source =>
    rw [hinspect] at h
    cases h

/-- The errors of a run name the files that fail, in order. -/
theorem map_path_errors_of_isComplete (h : s.IsComplete paths.length) :
    (s.scanFiles fs config paths).errors.map ScanError.path =
      paths.filter fun path => (({} : Reader).scanFile fs config path).error?.isSome := by
  rw [errors_of_isComplete h, List.map_filterMap, ← List.filterMap_eq_filter]
  refine List.filterMap_congr fun path _ => ?_
  rw [Option.guard]
  cases hpath : (({} : Reader).scanFile fs config path).error? with
  | none => rfl
  | some e => exact congrArg some (error?_eq_some hpath).1

/-- A file whose bytes stay as they are contributes what it did. -/
theorem scanFile_congr {path : Path} (h : fs'.read path = fs.read path) :
    ({} : Reader).scanFile fs' config path = ({} : Reader).scanFile fs config path := by
  rw [Reader.scanFile_of_isSound Reader.isSound_empty, Reader.scanFile_of_isSound Reader.isSound_empty,
    inspect_congr h]

/-- Remarks of files that are kept are those of kept files. -/
theorem filter_remarks_scanFile (kept : Path → Bool) (path : Path) :
    (({} : Reader).scanFile fs config path).remarks.filter (kept ·.file) =
      if kept path then (({} : Reader).scanFile fs config path).remarks else [] := by
  have hfile : ∀ x ∈ (({} : Reader).scanFile fs config path).remarks, kept x.file = kept path :=
    fun x hx => by rw [file_of_mem_remarks hx]
  rw [List.filter_congr hfile]
  cases kept path with
  | true => exact List.filter_true _
  | false => exact List.filter_false _

/-- Errors of files that are kept are those of kept files. -/
theorem filter_error?_scanFile (kept : Path → Bool) (path : Path) :
    (({} : Reader).scanFile fs config path).error?.filter (kept ·.path) =
      if kept path then (({} : Reader).scanFile fs config path).error? else none := by
  cases hpath : (({} : Reader).scanFile fs config path).error? with
  | none => rw [Option.filter_none, ite_self]
  | some e => rw [Option.filter_some, (error?_eq_some hpath).1]

/-- Files whose bytes stay as they are contribute what they did, whatever becomes of the others. -/
theorem contributions_of_unchanged {s' : Sharing} {kept : Path → Bool} (h : s.IsComplete paths.length)
    (h' : s'.IsComplete paths.length)
    (hkept : ∀ path ∈ paths, kept path → fs'.read path = fs.read path) :
    (s'.scanFiles fs' config paths).remarks.filter (kept ·.file) =
      (s.scanFiles fs config paths).remarks.filter (kept ·.file) ∧
    (s'.scanFiles fs' config paths).errors.filter (kept ·.path) =
      (s.scanFiles fs config paths).errors.filter (kept ·.path) := by
  constructor
  · -- a filter by file keeps all that a file contributes or none of it, so the runs are compared
    -- file by file
    rw [remarks_of_isComplete h, remarks_of_isComplete h', List.filter_flatMap, List.filter_flatMap]
    refine List.flatMap_congr fun path hpath => ?_
    rw [filter_remarks_scanFile, filter_remarks_scanFile]
    split
    · rename_i hk
      rw [scanFile_congr (hkept path hpath hk)]
    · rfl
  · rw [errors_of_isComplete h, errors_of_isComplete h', List.filter_filterMap, List.filter_filterMap]
    refine List.filterMap_congr fun path hpath => ?_
    rw [filter_error?_scanFile, filter_error?_scanFile]
    split
    · rename_i hk
      rw [scanFile_congr (hkept path hpath hk)]
    · rfl

/-- A scan is that of the files that are discovered. -/
theorem scan_of_discover {root : Path} {d : Discovery}
    (h : discover fs config.excludes root = .ok d) :
    scan fs config root =
      .ok { scanFiles fs config d.files with directoriesSkipped := d.skipped } := by
  rw [discover] at h
  rw [scan, Survey.of]
  cases hvisits : visitsFrom fs config.excludes root with
  | error e =>
    rw [hvisits] at h
    cases h
  | ok visits =>
    rw [hvisits] at h
    cases h
    rfl

end Runs

/-- A run puts together, in the order of the files, what a fresh reader makes of each file by itself,
whichever worker takes which file and in whichever order: all files are counted, the remarks are those of
the files that can be scanned, and each of the others costs one error, which names it.

So nothing that a worker has read before bears on a later file; whatever becomes of some files, the rest
contribute what they did, in whatever sharings the two runs are made; and the run from a root is such a
run over the files that are discovered there, none of which is of an unsupported language. -/
theorem run_independent_of_sharing (fs : FileSystem) (config : Config) :
    (∀ (paths : List Path) (s : Sharing), s.IsComplete paths.length →
      (s.scanFiles fs config paths).filesScanned = paths.length ∧
      (s.scanFiles fs config paths).remarks =
        paths.flatMap (fun path => (({} : Reader).scanFile fs config path).remarks) ∧
      (s.scanFiles fs config paths).errors =
        paths.filterMap (fun path => (({} : Reader).scanFile fs config path).error?) ∧
      (s.scanFiles fs config paths).errors.map ScanError.path =
        paths.filter fun path => (({} : Reader).scanFile fs config path).error?.isSome) ∧
    (∀ (history : List (Language × String)) (path : Path),
      (({} : Reader).after history).scanFile fs config path =
        ({} : Reader).scanFile fs config path) ∧
    (∀ (fs' : FileSystem) (paths : List Path) (s s' : Sharing) (kept : Path → Bool),
      s.IsComplete paths.length → s'.IsComplete paths.length →
      (∀ path ∈ paths, kept path → fs'.read path = fs.read path) →
      (s'.scanFiles fs' config paths).remarks.filter (kept ·.file) =
        (s.scanFiles fs config paths).remarks.filter (kept ·.file) ∧
      (s'.scanFiles fs' config paths).errors.filter (kept ·.path) =
        (s.scanFiles fs config paths).errors.filter (kept ·.path)) ∧
    (∀ (root : Path) (d : Discovery) (s : Sharing),
      discover fs config.excludes root = .ok d → s.IsComplete d.files.length →
      scan fs config root =
        .ok { s.scanFiles fs config d.files with directoriesSkipped := d.skipped } ∧
      ∀ e ∈ (s.scanFiles fs config d.files).errors, e.kind ≠ .unsupportedLanguage) := by
  refine ⟨fun paths s h => ?_, fun history path => ?_, fun fs' paths s s' kept h h' hkept => ?_,
    fun root d s hd h => ?_⟩
  -- each file is scanned once, so every result comes from a list of the files
  · refine ⟨?_, remarks_of_isComplete h, errors_of_isComplete h, map_path_errors_of_isComplete h⟩
    rw [Sharing.scanFiles_of_isComplete h, scanFiles, Report.ofInspections, List.length_map]
  -- a reader that has read other texts is as sound as a fresh one
  · rw [Reader.scanFile_of_isSound (Reader.isSound_after Reader.isSound_empty history),
      Reader.scanFile_of_isSound Reader.isSound_empty]
  · exact contributions_of_unchanged h h' hkept
  · refine ⟨?_, fun e he => ?_⟩
    · rw [scan_of_discover hd, Sharing.scanFiles_of_isComplete h]
    -- discovery has asked for the language of each file already
    · rw [errors_of_isComplete h, List.mem_filterMap] at he
      obtain ⟨path, hpath, he⟩ := he
      exact (error?_eq_some he).2 (isSupported_of_mem_discover hd hpath)

/-- A directory with a source file of each language. -/
def bilingualTree : FileSystem :=
  ⟨[.file "a.go" (.ok "// TODO: stale:01-01-2020 x\nfunc f() {}\n".toUTF8),
    .file "b.rs" (.ok "// TODO: stale:01-01-2020 y\nfn g() {}\n".toUTF8)], []⟩

/-- The bytes of a text are read as that text. -/
theorem fromUTF8?_toUTF8 (text : String) : String.fromUTF8? text.toUTF8 = some text := dif_pos text.isValidUTF8

theorem textOf_bilingualTree :
    textOf bilingualTree ⟨"a.go"⟩ = .ok (.go, "// TODO: stale:01-01-2020 x\nfunc f() {}\n") ∧
    textOf bilingualTree ⟨"b.rs"⟩ = .ok (.rust, "// TODO: stale:01-01-2020 y\nfn g() {}\n") := by
  have hgoName : IsName "a.go" := by decide
  have hrustName : IsName "b.rs" := by decide
  have hgo : bilingualTree.resolve ⟨"a.go"⟩ =
      .ok (.file "a.go" (.ok "// TODO: stale:01-01-2020 x\nfunc f() {}\n".toUTF8)) :=
    FileSystem.resolve_name rfl hgoName rfl rfl rfl
  have hrust : bilingualTree.resolve ⟨"b.rs"⟩ =
      .ok (.file "b.rs" (.ok "// TODO: stale:01-01-2020 y\nfn g() {}\n".toUTF8)) :=
    FileSystem.resolve_name rfl hrustName rfl rfl rfl
  have hgoLanguage : Path.language? ⟨"a.go"⟩ = some .go := by decide +kernel
  have hrustLanguage : Path.language? ⟨"b.rs"⟩ = some .rust := by decide +kernel
  constructor
  · simp only [textOf, hgoLanguage, FileSystem.read, hgo, bind, Except.bind, fromUTF8?_toUTF8]
  · simp only [textOf, hrustLanguage, FileSystem.read, hrust, bind, Except.bind, fromUTF8?_toUTF8]

/-- Files of two languages, one of them listed twice, and one that is no source: a worker that takes most of them out of
order finds in each what a fresh reader would, and it is put in order. -/
theorem run_independent_of_sharing_two_workers :
    Sharing.IsComplete [[3, 2, 1], [0]] 4 ∧
    textOf bilingualTree ⟨"a.go"⟩ = .ok (.go, "// TODO: stale:01-01-2020 x\nfunc f() {}\n") ∧
    textOf bilingualTree ⟨"b.rs"⟩ = .ok (.rust, "// TODO: stale:01-01-2020 y\nfn g() {}\n") ∧
    (Sharing.scanFiles bilingualTree {} [[3, 2, 1], [0]] [⟨"a.go"⟩, ⟨"README"⟩, ⟨"b.rs"⟩, ⟨"a.go"⟩]).remarks =
      (({} : Reader).scanFile bilingualTree {} ⟨"a.go"⟩).remarks ++
        (({} : Reader).scanFile bilingualTree {} ⟨"b.rs"⟩).remarks ++
        (({} : Reader).scanFile bilingualTree {} ⟨"a.go"⟩).remarks ∧
    (Sharing.scanFiles bilingualTree {} [[3, 2, 1], [0]]
      [⟨"a.go"⟩, ⟨"README"⟩, ⟨"b.rs"⟩, ⟨"a.go"⟩]).filesScanned = 4 ∧
    .unsupportedLanguage ⟨"README"⟩ ∈ (Sharing.scanFiles bilingualTree {} [[3, 2, 1], [0]]
      [⟨"a.go"⟩, ⟨"README"⟩, ⟨"b.rs"⟩, ⟨"a.go"⟩]).errors := by
  have hcomplete : Sharing.IsComplete [[3, 2, 1], [0]] 4 := by
    rw [Sharing.IsComplete]
    decide
  have hreadme : textOf bilingualTree ⟨"README"⟩ = .error (.unsupportedLanguage ⟨"README"⟩) := by
    rw [textOf, show Path.language? ⟨"README"⟩ = none by decide]
  -- the file without a language is the one that costs an error, whoever scans it
  have hscan : ({} : Reader).scanFile bilingualTree {} ⟨"README"⟩ = .error (.unsupportedLanguage ⟨"README"⟩) := by
    rw [Reader.scanFile, Reader.inspect_of_textOf_error hreadme]
    rfl
  obtain ⟨hrun, -⟩ := run_independent_of_sharing bilingualTree {}
  obtain ⟨hcount, hremarks, herrors, -⟩ :=
    hrun [⟨"a.go"⟩, ⟨"README"⟩, ⟨"b.rs"⟩, ⟨"a.go"⟩] [[3, 2, 1], [0]] hcomplete
  refine ⟨hcomplete, textOf_bilingualTree.1, textOf_bilingualTree.2, ?_, hcount, ?_⟩
  · rw [hremarks]
    simp [hscan, Contribution.remarks]
  · rw [herrors, List.mem_filterMap]
    exact ⟨⟨"README"⟩, by simp, by rw [hscan]; rfl⟩

end Overdue
