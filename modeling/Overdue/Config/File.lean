/-
Configuration files.

A configuration file is a document with one mapping, whose keys are the names of the values of a layer.
The layer is read item by item, so what is wrong with an item counts before what is wrong with the text
behind it.
-/
import Overdue.Config.Layer
import Overdue.Error
import Overdue.FileSystem
import Overdue.Yaml.Document

set_option autoImplicit false

namespace Overdue

open Overdue.Yaml

/-! ## Errors -/

/-- Why a text is not a layer. -/
inductive LayerError where
  /-- A value is not what it should be: what is said about it, the path to it, and its place. -/
  | value (message : String) (path : String) (mark : Mark)
  /-- The document ends too early. -/
  | interrupted (i : Interruption)
  /-- There is no value where there should be one. -/
  | missing
  /-- There is more than one document. -/
  | manyDocuments
deriving DecidableEq, Inhabited, Repr

/-- What is said about an error. -/
def LayerError.message : LayerError → String
  | value text path mark => (if path.isEmpty then "" else path ++ ": ") ++ text ++ mark.suffix
  | interrupted i => i.message
  | missing => "EOF while parsing a value"
  | manyDocuments => "deserializing from YAML containing more than one document is not supported"

namespace LayerFile

/-! ## Values -/

/-- The item at a position, through a reference, and its own position. -/
def item (d : Document) (i : Nat) : Except LayerError (Item × Mark × Nat) :=
  match d.target? i with
  | some found => .ok found
  | none =>
    match d.interruption with
    | some i => .error (.interrupted i)
    | none => .error .missing

/-- The error of an item that stands where something else is expected. -/
def mismatch (it : Item) (expected path : String) (mark : Mark) : LayerError :=
  match it with
  | .scalar s => .value (s.mismatch expected) path mark
  | .sequenceStart => .value s!"invalid type: sequence, expected {expected}" path mark
  | .mappingStart => .value s!"invalid type: map, expected {expected}" path mark
  | .reference _ | .sequenceEnd | .mappingEnd | .void => .missing

/-- Whether the item at a position sets no value. The place is that of the mapping around it. -/
def isUnset (d : Document) (start : Mark) (i : Nat) : Except LayerError Bool := do
  match ← item d i with
  | (.scalar s, _, _) =>
    if s.style != .plain then return false
    else
      match s.tag with
      | none => return s.text.isEmpty || isNull s.text
      | some tag =>
        if tag != Scalar.typeTag "null" then return false
        else if isNull s.text then return true
        else throw (.value (s.mismatch "null") "" start)
  | (it, _, _) => return it == .void

/-- The text at a position. -/
def text (d : Document) (expected path : String) (i : Nat) : Except LayerError String := do
  match ← item d i with
  | (.scalar s, _, _) => return s.text
  | (it, mark, _) => throw (mismatch it expected path mark)

/-- The truth value at a position. -/
def truth (d : Document) (path : String) (i : Nat) : Except LayerError Bool := do
  let (it, mark, _) ← item d i
  match it with
  | .scalar s =>
    match if s.isTyped "bool" then bool? s.text else none with
    | some b => return b
    | none => throw (mismatch it "a boolean" path mark)
  | _ => throw (mismatch it "a boolean" path mark)

/-- The natural number of 32 bits at a position. -/
def number (d : Document) (path : String) (i : Nat) : Except LayerError Nat := do
  let (it, mark, _) ← item d i
  match it with
  | .scalar s =>
    match if s.isTyped "int" then natural? s.text.toList else none with
    | some n =>
      if n < Nat.pow 2 32 then return n
      else if n < Nat.pow 2 64 then
        throw (.value s!"invalid value: integer \x60{n}\x60, expected u32" path mark)
      else throw (mismatch it "u32" path mark)
    | none => throw (mismatch it "u32" path mark)
  | _ => throw (mismatch it "u32" path mark)

/-- The texts from a position to the end of their sequence, and the position after it. -/
def elements (d : Document) (path : String) :
    Nat → Nat → Nat → Except LayerError (List String × Nat)
  | 0, _, _ => .error .missing
  | fuel + 1, index, i => do
    match ← item d i with
    | (.sequenceEnd, _, _) => return ([], i + 1)
    | _ =>
      let s ← text d "a string" s!"{path}[{index}]" i
      let (rest, after) ← elements d path fuel (index + 1) (i + 1)
      return (s :: rest, after)

/-- The sequence of texts at a position, and the position after it. -/
def sequence (d : Document) (path : String) (i : Nat) : Except LayerError (List String × Nat) := do
  let (it, mark, j) ← item d i
  match it with
  | .sequenceStart =>
    let (texts, after) ← elements d path (d.items.length + 1) 0 (j + 1)
    return (texts, if i = j then after else i + 1)
  | .scalar s =>
    if s.isBlank then return ([], i + 1) else throw (mismatch it "a sequence" path mark)
  | _ => throw (mismatch it "a sequence" path mark)

/-! ## Layers -/

/-- The values of a layer. -/
inductive Key where
  | dateFormat
  | defaultExpiryDays
  | exclude
  | failOnExpired
deriving DecidableEq, Inhabited, Repr

/-- The name of a value. -/
def Key.name : Key → String
  | dateFormat => "date-format"
  | defaultExpiryDays => "default-expiry-days"
  | exclude => "exclude"
  | failOnExpired => "fail-on-expired"

/-- All values of a layer, in the order in which messages name them. -/
def Key.all : List Key := [.dateFormat, .defaultExpiryDays, .exclude, .failOnExpired]

/-- What is said about a key that is none. -/
def unknownKey (name : String) : String :=
  let names := ", ".intercalate (Key.all.map fun k => "\x60" ++ k.name ++ "\x60")
  "unknown field \x60" ++ name ++ "\x60, expected one of " ++ names

/-- The layer with the value of a key, which stands at a position, and the position after it. -/
def setValue (d : Document) (path : String) (layer : ConfigLayer) (k : Key) (i : Nat) :
    Except LayerError (ConfigLayer × Nat) := do
  match k with
  | .dateFormat => return ({ layer with dateFormat := some (← text d "a string" path i) }, i + 1)
  | .defaultExpiryDays =>
    return ({ layer with defaultExpiryDays := some (← number d path i) }, i + 1)
  | .failOnExpired => return ({ layer with failOnExpired := some (← truth d path i) }, i + 1)
  | .exclude =>
    let (texts, after) ← sequence d path i
    return ({ layer with exclude := some texts }, after)

/-- Reads the pairs from a position to the end of the mapping, which began at a place. The keys in `seen`
have had their value. -/
def pairs (d : Document) (start : Mark) :
    Nat → List Key → ConfigLayer → Nat → Except LayerError ConfigLayer
  | 0, _, layer, _ => .ok layer
  | fuel + 1, seen, layer, i => do
    match ← item d i with
    | (.mappingEnd, _, _) => return layer
    | (_, mark, j) =>
      let name ← text d "field identifier" "" i
      match Key.all.find? (·.name == name) with
      | none => throw (.value (unknownKey name) "" mark)
      | some k =>
        if seen.contains k then
          throw (.value ("duplicate field \x60" ++ name ++ "\x60") "" start)
        let path := if i = j then name else "?"
        if ← isUnset d start (i + 1) then pairs d start fuel (k :: seen) layer (i + 2)
        else
          let (layer, after) ← setValue d path layer k (i + 1)
          pairs d start fuel (k :: seen) layer after

/-- The layer that a document is. -/
def ofDocument (d : Document) : Except LayerError ConfigLayer := do
  let (it, mark, _) ← item d 0
  match it with
  | .mappingStart => pairs d mark (d.items.length + 1) [] {} 1
  | .void => return {}
  | .scalar s => if s.isBlank then return {} else throw (mismatch it expected "" mark)
  | _ => throw (mismatch it expected "" mark)
where
  /-- What a document should be. -/
  expected : String := "struct ConfigLayer"

/-- The layer that a text is. -/
def parse (text : String) : Except LayerError ConfigLayer := do
  let (d, more) := Document.first text
  let layer ← ofDocument d
  match d.interruption with
  | some i => throw (.interrupted i)
  | none => if more then throw .manyDocuments else return layer

/-! ## Files -/

/-- The layer in a file. -/
def load (fs : FileSystem) (path : Path) : Except RunError ConfigLayer :=
  match fs.readText path with
  | .error fault => .error (.io fault.message)
  | .ok content =>
    match parse content with
    | .ok layer => .ok layer
    | .error e => .error (.config (path.text ++ ": " ++ e.message))

/-- The name of the configuration file of a directory. -/
def fileName : String := ".stalewatch.yaml"

/-- The configuration file of a directory, if it has one. -/
def find? (fs : FileSystem) (directory : Path) : Option Path :=
  let path := directory.join fileName
  if fs.isFile path then some path else none

/-- The layer in the configuration file of a directory, if it has one. -/
def discover (fs : FileSystem) (directory : Path) : Except RunError (Option ConfigLayer) :=
  match find? fs directory with
  | none => .ok none
  | some path => (load fs path).map some

end LayerFile

end Overdue
