/-
Scans that are shared out.

Several workers can take the files of a scan among them. Each has a reader of its own and takes its
files in some order; what they find is put back in the order of the files.
-/
import Overdue.Scan

set_option autoImplicit false

namespace Overdue

/-- The inspection of a file by a reader, and the reader for the next file. -/
def Reader.inspect (fs : FileSystem) (r : Reader) (path : Path) : Inspection × Reader :=
  match textOf fs path with
  | .error e => (⟨path, .error e⟩, r)
  | .ok (language, text) =>
    let (result, r) := r.read language text
    (⟨path, sourceOf path result⟩, r)

/-- The inspections of files by one reader, in the order in which it takes them. -/
def Reader.inspectAll (fs : FileSystem) (r : Reader) : List Path → List Inspection
  | [] => []
  | path :: paths =>
    let (i, r) := r.inspect fs path
    i :: inspectAll fs r paths

/-- How files are shared out: for each worker, the positions of its files in the order in which it
takes them. -/
abbrev Sharing := List (List Nat)

namespace Sharing

/-- Whether each of so many files is taken exactly once. -/
def IsComplete (s : Sharing) (count : Nat) : Prop := s.flatten.Perm (List.range count)

/-- What one worker finds, by position. -/
def share (fs : FileSystem) (paths : List Path) (positions : List Nat) : List (Nat × Inspection) :=
  let taken := positions.filterMap fun i => paths[i]?.map (i, ·)
  (taken.map (·.1)).zip (({} : Reader).inspectAll fs (taken.map (·.2)))

/-- What all workers find, in the order of the files. -/
def inspections (fs : FileSystem) (paths : List Path) (s : Sharing) : List Inspection :=
  (List.range paths.length).filterMap ((s.flatMap (share fs paths)).lookup ·)

/-- The report of a scan that is shared out. -/
def scanFiles (fs : FileSystem) (config : Config) (s : Sharing) (paths : List Path) : Report :=
  .ofInspections config.markerRules (s.inspections fs paths) []

end Sharing

end Overdue
