/-
Documents.

A document is the list of its items. If the text goes wrong, the document ends there and keeps the
fault: whoever reads it comes upon the fault only after all items before it. A reference stands for the
items that begin where its anchor stands.
-/
import Overdue.Yaml.Meaning
import Overdue.Yaml.Event

set_option autoImplicit false

namespace Overdue.Yaml

/-- A part of a document. -/
inductive Item where
  /-- A reference to the anchor with a given number. -/
  | reference (anchor : Nat)
  | scalar (s : Scalar)
  | sequenceStart
  | sequenceEnd
  | mappingStart
  | mappingEnd
  /-- What a text without any document holds. -/
  | void
deriving DecidableEq, Inhabited, Repr

/-- Why a document ends too early. -/
inductive Interruption where
  | fault (f : Fault)
  | unknownAnchor (mark : Mark)
deriving DecidableEq, Inhabited, Repr

/-- What is said about an interruption. -/
def Interruption.message : Interruption → String
  | fault f => f.message
  | unknownAnchor mark => "unknown anchor" ++ mark.suffix

/-- A document: its items and their places, where the anchors stand by their numbers, and why it ends too
early if it does. -/
structure Document where
  items : List (Item × Mark) := []
  anchors : List (Nat × Nat) := []
  interruption : Option Interruption := none
deriving Inhabited, Repr

namespace Document

/-- The state of reading a document: the names of the anchors with their numbers. -/
structure Names where
  numbers : List (String × Nat) := []
deriving Inhabited, Repr

namespace Names

/-- The number of an anchor. -/
def number? (n : Names) (name : String) : Option Nat :=
  (n.numbers.find? (·.1 == name)).map (·.2)

/-- The names with one more. A number is how many different names there were before. -/
def add (n : Names) (name : String) : Names :=
  ⟨(name, n.numbers.length) :: n.numbers.filter (·.1 != name)⟩

end Names

/-- The document with one more item, which may have an anchor. -/
def push (d : Document) (names : Names) (anchor : Option String) (item : Item) (mark : Mark) :
    Document × Names :=
  let grown := { d with items := d.items ++ [(item, mark)] }
  match anchor with
  | none => (grown, names)
  | some name =>
    let number := names.numbers.length
    ({ grown with anchors := (number, d.items.length) :: d.anchors }, names.add name)

/-- Reads a document: the document, and the parser after it unless the text ended or was interrupted. -/
def read : Nat → Document → Names → Parser → Document × Option Parser
  | 0, d, _, _ => (d, none)
  | fuel + 1, d, names, p =>
    match p.step with
    | .error f => ({ d with interruption := some (.fault f) }, none)
    | .ok (e, p) =>
      let go (anchor : Option String) (item : Item) : Document × Option Parser :=
        let (d, names) := d.push names anchor item e.mark
        read fuel d names p
      match e.kind with
      | .streamStart | .documentStart => read fuel d names p
      | .streamEnd => (if d.items.isEmpty then (d.push names none .void e.mark).1 else d, none)
      | .documentEnd => (d, some p)
      | .reference name =>
        match names.number? name with
        | none => ({ d with interruption := some (.unknownAnchor e.mark) }, none)
        | some n => go none (.reference n)
      | .scalar anchor tag text style => go anchor (.scalar ⟨tag, text, style⟩)
      | .sequenceStart anchor _ => go anchor .sequenceStart
      | .sequenceEnd => go none .sequenceEnd
      | .mappingStart anchor _ => go anchor .mappingStart
      | .mappingEnd => go none .mappingEnd

/-- Whether something follows the document before a parser, be it only a fault. -/
def hasNext (p : Parser) : Bool :=
  match p.step with
  | .ok (e, _) => e.kind != .streamEnd
  | .error _ => true

/-- The fault of a text with a character that may not occur in it. -/
def controlFault? (cs : List Char) : Option Fault :=
  let (before, rest) := cs.span isAllowed
  if rest.isEmpty then none
  else
    some { problem := "control characters are not allowed"
           offset := (String.ofList before).utf8ByteSize }

/-- The first document of a text, and whether more follow. -/
def first (text : String) : Document × Bool :=
  let cs := text.toList
  match controlFault? cs with
  | some f => ({ interruption := some (.fault f) }, false)
  | none =>
    let (d, p?) := read (16 * (cs.length + 2)) {} {} (.ofText cs)
    (d, p?.any hasNext)

/-- The item at a position, through a reference, and its own position. -/
def target? (d : Document) (i : Nat) : Option (Item × Mark × Nat) :=
  match d.items[i]? with
  | some (.reference n, _) => do
    let j ← (d.anchors.find? (·.1 == n)).map (·.2)
    let (item, mark) ← d.items[j]?
    return (item, mark, j)
  | some (item, mark) => some (item, mark, i)
  | none => none

end Document

end Overdue.Yaml
