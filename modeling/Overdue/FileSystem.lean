/-
A file system.

The file system is a tree of named entries with a working directory. A path is looked up one component
after the other; symbolic links on the way are followed, up to a limit on their number. A directory may refuse
to be listed, to be listed to the end, or to be searched, and an entry may not even tell what it is. Everything
a run does with files is a function of this tree.
-/
import Overdue.Path

set_option autoImplicit false

namespace Overdue

open Overdue.Text

/-! ## Faults -/

/-- Why the system did not do what was asked. A name is cut if a null character stands in it, where names
end. -/
inductive IoFault where
  | notFound
  | failure
  | denied
  | notADirectory
  | isADirectory
  | outOfSpace
  | brokenPipe
  | nameTooLong
  | nameCut
  | tooManyLinks
  | notText
deriving DecidableEq, Inhabited, Repr

/-- What is said about a fault. -/
def IoFault.message : IoFault → String
  | notFound => "No such file or directory (os error 2)"
  | failure => "Input/output error (os error 5)"
  | denied => "Permission denied (os error 13)"
  | notADirectory => "Not a directory (os error 20)"
  | isADirectory => "Is a directory (os error 21)"
  | outOfSpace => "No space left on device (os error 28)"
  | brokenPipe => "Broken pipe (os error 32)"
  | nameTooLong => "File name too long (os error 36)"
  | nameCut => "file name contained an unexpected NUL byte"
  | tooManyLinks => "Too many levels of symbolic links (os error 40)"
  | notText => "stream did not contain valid UTF-8"

/-! ## Entries -/

/-- What the system refuses to do with a directory. -/
structure Refusals where
  /-- It does not start to list the entries. -/
  listing : Option IoFault := none
  /-- It does not list the entries to their end. -/
  ending : Option IoFault := none
  /-- It does not look up any entry. -/
  search : Option IoFault := none
deriving DecidableEq, Inhabited, Repr

/-- An entry of a directory. -/
inductive Entry where
  /-- A regular file, with its content or why it cannot be read. -/
  | file (name : RawText) (content : Except IoFault ByteArray)
  /-- A node that is neither a file nor a directory; reading it gives nothing. -/
  | device (name : RawText)
  /-- A symbolic link. -/
  | link (name : RawText) (target : RawText)
  /-- A directory, with the entries that it lists. -/
  | directory (name : RawText) (entries : List Entry) (refusals : Refusals := {})
  /-- An entry that is listed, but does not tell what it is. -/
  | unknown (name : RawText) (fault : IoFault)

namespace Entry

/-- The name of an entry. -/
def name : Entry → RawText
  | file name _ | device name | link name _ | directory name _ _ | unknown name _ => name

instance : Inhabited Entry := ⟨device ""⟩

/-- The entry with a given name. -/
def lookup? (entries : List Entry) (name : RawText) : Option Entry :=
  entries.find? (·.name == name)

/-- The entries of a directory with one of them put in, in the place of the one with its name if there
is one. -/
def put (entries : List Entry) (e : Entry) : List Entry :=
  match entries with
  | [] => [e]
  | other :: rest => if other.name == e.name then e :: rest else other :: put rest e

end Entry

/-! ## Lookup -/

/-- A file system: the entries of its root, and the names that lead to the working directory. -/
structure FileSystem where
  root : List Entry
  working : List RawText

namespace FileSystem

/-- The largest number of links that the lookup of a path follows. -/
def linkLimit : Nat := 40

/-- The largest number of bytes of a name. -/
def nameLimit : Nat := 255

/-- The largest number of bytes of a path. -/
def pathLimit : Nat := 4095

/-- Whether a path is too long to be looked up. -/
def isTooLong (path : Path) : Bool := pathLimit < path.bytes.length

/-- The directory at the top of the tree. -/
def top (fs : FileSystem) : Entry := .directory "" fs.root

/-- The entry that names lead to from another one, without following links. -/
def entryAt (e : Entry) : List RawText → Option Entry
  | [] => some e
  | n :: rest =>
    match e with
    | .directory _ entries _ =>
      match Entry.lookup? entries n with
      | some inner => entryAt inner rest
      | none => none
    | _ => none

/-- The pieces of a path, and whether it must lead to a directory. -/
def steps (text : RawText) : List RawText :=
  (splitOn Path.slash text.bytes).map RawText.mk

/-- Looks up the pieces of a path from a directory, given by the names that lead to it. The result
is the names that lead to the entry and the entry itself. A piece after an entry asks for a directory,
also if the piece is empty; a piece that is not empty asks for one that can be searched. -/
def follow (fs : FileSystem) (links : Nat) (here : List RawText) (pieces : List RawText) :
    Except IoFault (List RawText × Entry) :=
  match pieces with
  | [] =>
    match entryAt fs.top here with
    | some e => .ok (here, e)
    | none => .error .notFound
  | piece :: rest =>
    match entryAt fs.top here with
    | some (.directory _ entries refusals) =>
      if piece = "" then follow fs links here rest
      else
        match refusals.search with
        | some fault => .error fault
        | none =>
          if piece = "." then follow fs links here rest
          else if piece = ".." then follow fs links here.dropLast rest
          else if nameLimit < piece.bytes.length then .error .nameTooLong
          else
            match Entry.lookup? entries piece with
            | none => .error .notFound
            | some (.unknown _ fault) => .error fault
            | some (.link _ target) =>
              match links with
              | 0 => .error .tooManyLinks
              | links + 1 =>
                let start := if target.bytes.head? = some Path.slash then [] else here
                follow fs links start (steps target ++ rest)
            | some _ => follow fs links (here ++ [piece]) rest
    | some _ => .error .notADirectory
    | none => .error .notFound
termination_by (links, pieces.length)

/-- The entry that a path leads to, through links, and the names that lead to it. -/
def locate (fs : FileSystem) (path : Path) : Except IoFault (List RawText × Entry) :=
  if path.bytes = [] then .error .notFound
  else if 0 ∈ path.bytes then .error .nameCut
  else if isTooLong path then .error .nameTooLong
  else follow fs linkLimit (if path.isAbsolute then [] else fs.working) (steps path.raw)

/-- The entry that a path leads to, through links. -/
def resolve (fs : FileSystem) (path : Path) : Except IoFault Entry :=
  (fs.locate path).map (·.2)

/-- Whether a path leads to a regular file. -/
def isFile (fs : FileSystem) (path : Path) : Bool :=
  match fs.resolve path with
  | .ok (.file _ _) => true
  | _ => false

/-- Whether a path leads to a directory. -/
def isDirectory (fs : FileSystem) (path : Path) : Bool :=
  match fs.resolve path with
  | .ok (.directory _ _ _) => true
  | _ => false

/-- The entries of the directory that a path leads to. -/
def list (fs : FileSystem) (path : Path) : Except IoFault (List Entry) :=
  match fs.resolve path with
  | .ok (.directory _ entries refusals) =>
    match refusals.listing with
    | some fault => .error fault
    | none => .ok entries
  | .ok _ => .error .notADirectory
  | .error fault => .error fault

/-- The bytes of the file that a path leads to. -/
def read (fs : FileSystem) (path : Path) : Except IoFault ByteArray := do
  match ← fs.resolve path with
  | .file _ content => content
  | .device _ => return ByteArray.empty
  | .directory _ _ _ => throw .isADirectory
  | .link _ _ => throw .notFound
  | .unknown _ fault => throw fault

/-- The text of the file that a path leads to. -/
def readText (fs : FileSystem) (path : Path) : Except IoFault String := do
  match String.fromUTF8? (← fs.read path) with
  | some text => return text
  | none => throw .notText

/-! ## Changes -/

/-- The entries of a tree with one put in at the end of names that lead through directories. -/
def putAt (entries : List Entry) (e : Entry) : List RawText → List Entry
  | [] => Entry.put entries e
  | n :: rest =>
    match Entry.lookup? entries n with
    | some (.directory _ inner refusals) => Entry.put entries (.directory n (putAt inner e rest) refusals)
    | some _ => entries
    | none => Entry.put entries (.directory n (putAt [] e rest))

/-- The names that a path leads to, where the last piece may be missing or a link and directories on
the way may be missing. -/
def placeOf (fs : FileSystem) (here : List RawText) : List RawText → List RawText
  | [] => here
  | [last] => here ++ [last]
  | piece :: rest =>
    match follow fs linkLimit here [piece] with
    | .ok (there, _) => placeOf fs there rest
    | .error _ => placeOf fs (here ++ [piece]) rest

/-- The file system with an entry put in at a path; the entry is given by its name. -/
def create (fs : FileSystem) (path : Path) (make : RawText → Entry) : FileSystem :=
  let pieces := (steps path.raw).filter fun (s : RawText) => s ≠ "" ∧ s ≠ "."
  let place := fs.placeOf (if path.isAbsolute then [] else fs.working) pieces
  match place.getLast? with
  | none => fs
  | some name => { fs with root := putAt fs.root (make name) place.dropLast }

/-- The file system with a file written at a path, through a link if one stands there. -/
def writeFile (fs : FileSystem) (path : Path) (content : Except IoFault ByteArray) : FileSystem :=
  match fs.locate path with
  | .ok (place, .file name _) => { fs with root := putAt fs.root (.file name content) place.dropLast }
  | _ => fs.create path (.file · content)

/-- The file system with a directory made at a path, unless there is one. -/
def makeDirectory (fs : FileSystem) (path : Path) : FileSystem :=
  if fs.isDirectory path then fs else fs.create path (.directory · [])

/-- The file system with a link made at a path. -/
def makeLink (fs : FileSystem) (path : Path) (target : RawText) : FileSystem :=
  fs.create path (.link · target)

end FileSystem

end Overdue
