/-
The source files under a scan root.

A root that is a file is scanned if its language is known. Under any other root, directories are walked
without following links to directories; hidden ones, those with an underscore in front, those that
conventionally hold foreign or generated code, and those whose path contains an excluded text are left
out, but only if their name is a text. Links to files count as files. The files are listed in the order of
their paths.
-/
import Overdue.Error
import Overdue.FileSystem
import Overdue.Language.Basic

set_option autoImplicit false

namespace Overdue

open Overdue.Text

/-! ## Scan roots -/

/-- A path pattern without the dots that ask for everything below a directory. -/
def scanRoot (pattern : String) : Path :=
  match pattern.toList.reverse with
  | '.' :: '.' :: '.' :: base =>
    match (base.dropWhile fun c => c == '/' || c == '\\').reverse with
    | [] => ⟨"."⟩
    | base => ⟨String.ofList base⟩
  | _ => ⟨pattern⟩

/-! ## Rules -/

/-- The language of a file, by its extension. -/
def Path.language? (p : Path) : Option Language :=
  (p.extension?.bind RawText.text?).bind Language.ofExtension?

/-- Whether a file is of a known language. -/
def Path.isSupported (p : Path) : Bool := p.language?.isSome

/-- The names of directories that hold foreign or generated code. -/
def foreignDirectories : List String := ["target", "vendor", "node_modules", "testdata"]

/-- Whether a directory is left out, by its name and its path. One whose name is not a text never is. -/
def isExcluded (excludes : List String) (name : RawText) (path : Path) : Bool :=
  match name.text? with
  | none => false
  | some name =>
    name.toList.head? == some '.' || name.toList.head? == some '_' ||
    foreignDirectories.contains name ||
    excludes.any fun e => occursIn e.toList path.text.toList

/-! ## The walk -/

/-- What a walk came upon. -/
inductive Visit where
  /-- A file to be scanned. -/
  | file (path : Path)
  /-- A directory that could not be read. -/
  | unreadable (path : Path) (fault : IoFault)
  /-- A directory that could not be read to its end. -/
  | broken (path : Path) (fault : IoFault)
  /-- An entry that did not tell what it is. -/
  | unknown (path : Path) (fault : IoFault)
  /-- A directory that was left out. -/
  | excluded (path : Path)
  /-- A link to a directory, which is not followed. -/
  | linked (path : Path)
  /-- A root that is a file of no known language. -/
  | unsupported (path : Path)
deriving DecidableEq, Inhabited, Repr

namespace Visit

/-- The file that was found. -/
def file? : Visit → Option Path
  | file p => some p
  | _ => none

/-- The directory that could not be read, and why. -/
def unreadable? : Visit → Option (Path × IoFault)
  | unreadable p fault => some (p, fault)
  | _ => none

end Visit

/-- What a walk comes upon at a path of something that is no directory: a file, if the path leads to one and is
that of a source. -/
def FileSystem.pick (fs : FileSystem) (path : Path) : List Visit :=
  if fs.isFile path && path.isSupported then [.file path] else []

/-- What a walk comes upon behind the last entry of a directory. -/
def Entry.breaks (path : Path) : Entry → List Visit
  | .directory _ _ refusals => refusals.ending.toList.map (Visit.broken path)
  | _ => []

mutual

/-- Walks an entry of the directory at a path. -/
def Entry.walk (fs : FileSystem) (excludes : List String) (parent : Path) : Entry → List Visit
  | .file name _ | .device name => fs.pick (parent.join name)
  | .link name _ =>
    let path := parent.join name
    if fs.isDirectory path then [.linked path] else fs.pick path
  | .directory name entries refusals =>
    let path := parent.join name
    if isExcluded excludes name path then [.excluded path]
    else
      match fs.list path with
      | .error fault => [.unreadable path fault]
      | .ok _ =>
        Entry.walkAll fs excludes path entries ++ Entry.breaks path (.directory name entries refusals)
  | .unknown name fault => [.unknown (parent.join name) fault]

/-- Walks entries of the directory at a path. -/
def Entry.walkAll (fs : FileSystem) (excludes : List String) (parent : Path) :
    List Entry → List Visit
  | [] => []
  | e :: es => Entry.walk fs excludes parent e ++ Entry.walkAll fs excludes parent es

end

/-- Walks from a root that leads to a given entry. -/
def walkRoot (fs : FileSystem) (excludes : List String) (root : Path) (e : Entry) : List Visit :=
  match e with
  | .file _ _ => if root.isSupported then [.file root] else [.unsupported root]
  | _ =>
    match fs.list root with
    | .error fault => [.unreadable root fault]
    | .ok entries => Entry.walkAll fs excludes root entries ++ e.breaks root

/-! ## The files found -/

/-- What was found under a root: the files in order, and the directories that could not be read. -/
structure Discovery where
  files : List Path
  skipped : List (Path × IoFault)
deriving DecidableEq, Inhabited, Repr

/-- What a walk found. -/
def Discovery.ofVisits (visits : List Visit) : Discovery where
  files := (visits.filterMap Visit.file?).mergeSort Path.le
  skipped := visits.filterMap Visit.unreadable?

/-- The walk from a root, which must be there. -/
def visitsFrom (fs : FileSystem) (excludes : List String) (root : Path) :
    Except RunError (List Visit) :=
  match fs.resolve root with
  | .ok e => .ok (walkRoot fs excludes root e)
  | .error _ => .error (.io ("scan root not found: " ++ root.text))

/-- What is found under a root, which must be there. -/
def discover (fs : FileSystem) (excludes : List String) (root : Path) :
    Except RunError Discovery :=
  (visitsFrom fs excludes root).map Discovery.ofVisits

end Overdue
