/-
Paths.

A path is a text of the system whose components are separated by slashes. Repeated slashes and dots between
them do not count, except for a dot at the very start. Paths are compared by their components, and not as
texts; names among the components are compared byte by byte.
-/
import Overdue.RawText
import Overdue.Text.Split

set_option autoImplicit false

namespace Overdue

open Overdue.Text

/-- A path, as it was given. -/
structure Path where
  raw : RawText
deriving DecidableEq, Inhabited, Repr

namespace Path

/-- The byte that separates components. -/
def slash : UInt8 := 0x2f

/-- The byte of which a name for the current directory is made, and that comes before an extension. -/
def dot : UInt8 := 0x2e

/-- The bytes of a path. -/
def bytes (p : Path) : List UInt8 := p.raw.bytes

/-- A path as it is shown. -/
def text (p : Path) : String := p.raw.shown

/-- A path as a text, if it is one. -/
def text? (p : Path) : Option String := p.raw.text?

/-- A component of a path. -/
inductive Component where
  | root
  | current
  | parent
  | name (text : RawText)
deriving DecidableEq, Inhabited, Repr

/-- A component as a key for comparison: the kind, then the bytes of the name. -/
def Component.key : Component → Nat × List UInt8
  | root => (0, [])
  | current => (1, [])
  | parent => (2, [])
  | name text => (3, text.bytes)

/-- Whether a list comes no later than another one: what counts is the first place where they differ. -/
def lexLe {α : Type} [DecidableEq α] (le : α → α → Bool) : List α → List α → Bool
  | [], _ => true
  | _ :: _, [] => false
  | a :: as, b :: bs => if a = b then lexLe le as bs else le a b

/-- Whether a component comes no later than another one. -/
def Component.le (a b : Component) : Bool :=
  a.key.1 < b.key.1 || (a.key.1 == b.key.1 && lexLe (fun b c => decide (b ≤ c)) a.key.2 b.key.2)

/-! ## Segments -/

/-- Whether a path starts at the root of the file system. -/
def isAbsolute (p : Path) : Bool := p.bytes.head? == some slash

/-- The pieces of a path between its slashes, without the slash at the start of an absolute path. -/
def segments (p : Path) : List (List UInt8) :=
  splitOn slash (if p.isAbsolute then p.bytes.tail else p.bytes)

/-- Whether a piece that does not stand at the start of a path is a component. -/
def isSolid (segment : List UInt8) : Bool := segment != [] && segment != [dot]

/-- The component that a piece is. -/
def componentOf (segment : List UInt8) : Component :=
  if segment = [dot] then .current
  else if segment = [dot, dot] then .parent
  else .name ⟨segment⟩

/-- The components of a path. -/
def components (p : Path) : List Component :=
  if p.isAbsolute then .root :: (p.segments.filter isSolid).map componentOf
  else
    match p.segments with
    | [] => []
    | first :: rest =>
      if first = [dot] then .current :: (rest.filter isSolid).map componentOf
      else ((first :: rest).filter isSolid).map componentOf

/-- Whether a path comes no later than another one. -/
def le (p q : Path) : Bool := lexLe Component.le p.components q.components

/-! ## Names -/

/-- The last component of a path, if it is a name. -/
def fileName? (p : Path) : Option RawText :=
  match p.components.getLast? with
  | some (.name text) => some text
  | _ => none

/-- What stands after the last dot of a name, unless only that dot leads the name or there is none. -/
def extensionOf? (name : List UInt8) : Option (List UInt8) :=
  match name.reverse.span (· != dot) with
  | (_, []) | (_, [_]) => none
  | (after, _ :: _ :: _) => some after.reverse

/-- The extension of the last component of a path. -/
def extension? (p : Path) : Option RawText :=
  (p.fileName?.bind fun name => extensionOf? name.bytes).map RawText.mk

/-- The path of an entry of a directory. -/
def join (p : Path) (name : RawText) : Path :=
  if p.bytes = [] ∨ p.bytes.getLast? = some slash then ⟨⟨p.bytes ++ name.bytes⟩⟩
  else ⟨⟨p.bytes ++ slash :: name.bytes⟩⟩

/-! ## Parts -/

/-- Pieces without those at the end that are no components. -/
def trimSegments (segments : List (List UInt8)) : List (List UInt8) :=
  (segments.reverse.dropWhile fun s => !isSolid s).reverse

/-- The path made of pieces. -/
def ofSegments (absolute : Bool) (segments : List (List UInt8)) : Path :=
  ⟨⟨(if absolute then [slash] else []) ++ [slash].intercalate segments⟩⟩

/-- The path without its last component. A path that is the root or empty has none. -/
def parent? (p : Path) : Option Path :=
  let short (segments : List (List UInt8)) := trimSegments (trimSegments segments).dropLast
  if p.isAbsolute then
    if (trimSegments p.segments).isEmpty then none else some (ofSegments true (short p.segments))
  else
    match p.segments with
    | [] => none
    | first :: rest =>
      if first = [dot] then
        if (trimSegments rest).isEmpty then some ⟨""⟩
        else some (ofSegments false ([dot] :: short rest))
      else if (trimSegments (first :: rest)).isEmpty then none
      else some (ofSegments false (short (first :: rest)))

/-- The path without a dot at its start. -/
def dropCurrent (p : Path) : Path :=
  if p.isAbsolute then p
  else
    match p.segments with
    | [] => p
    | first :: rest =>
      if first = [dot] then ofSegments false (trimSegments (rest.dropWhile fun s => !isSolid s)) else p

end Path

end Overdue
