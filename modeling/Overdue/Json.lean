/-
JSON documents.

A document is written with one item a line and two more blanks of indent for each level; an empty list
is written as a pair of brackets. In texts only quotes, backslashes and control characters are escaped.
A document is written piece by piece, and a value in it may be one that cannot be written. Then the pieces
before that value are written, and nothing else.
-/

set_option autoImplicit false

namespace Overdue

/-- A document. -/
inductive Json where
  | null
  | truth (value : Bool)
  | number (value : Nat)
  | text (value : String)
  | list (items : List Json)
  | object (members : List (String × Json))
  /-- A value that cannot be written. -/
  | unwritable

namespace Json

/-! ## Texts -/

/-- A hexadecimal digit. -/
def hexDigit (n : Nat) : Char := if n < 10 then Char.ofNat (48 + n) else Char.ofNat (87 + n)

/-- A character as it is written in a text. -/
def escapeChar (c : Char) : List Char :=
  match c with
  | '"' => ['\\', '"']
  | '\\' => ['\\', '\\']
  | '\n' => ['\\', 'n']
  | '\r' => ['\\', 'r']
  | '\t' => ['\\', 't']
  | '\x08' => ['\\', 'b']
  | '\x0c' => ['\\', 'f']
  | c =>
    if c.toNat < 0x20 then ['\\', 'u', '0', '0', hexDigit (c.toNat / 16), hexDigit (c.toNat % 16)]
    else [c]

/-- A text in quotes. -/
def quote (s : String) : String := "\"" ++ String.ofList (s.toList.flatMap escapeChar) ++ "\""

/-- The start of a line at a level. -/
def indent (level : Nat) : String := String.ofList (List.replicate (2 * level) ' ')

/-! ## Pieces -/

/-- What is written, piece by piece. A missing piece is that of a value that cannot be written. -/
abbrev Writing := List (Option String)

namespace Writing

/-- Whether no piece is missing. -/
def isComplete (w : Writing) : Bool := w.all Option.isSome

/-- The text of the pieces before the first one that is missing. -/
def text : Writing → String
  | some s :: rest => s ++ text rest
  | none :: _ | [] => ""

end Writing

/-- Items in brackets, each on a line of its own, at a level. -/
def block (level : Nat) (opening closing : String) (items : List Writing) : Writing :=
  match items with
  | [] => [some (opening ++ closing)]
  | item :: items =>
    some (opening ++ "\n" ++ indent (level + 1)) :: item ++
      items.flatMap (some (",\n" ++ indent (level + 1)) :: ·) ++
      [some ("\n" ++ indent level ++ closing)]

mutual

/-- A document as it is written at a level. -/
def write (level : Nat) : Json → Writing
  | null => [some "null"]
  | truth b => [some (if b then "true" else "false")]
  | number n => [some n.repr]
  | text s => [some (quote s)]
  | list items => block level "[" "]" (writeItems (level + 1) items)
  | object members => block level "\x7b" "\x7d" (writeMembers (level + 1) members)
  | unwritable => [none]

/-- Items of a list as they are written at a level. -/
def writeItems (level : Nat) : List Json → List Writing
  | [] => []
  | j :: js => write level j :: writeItems level js

/-- Members of an object as they are written at a level. -/
def writeMembers (level : Nat) : List (String × Json) → List Writing
  | [] => []
  | (name, j) :: rest => (some (quote name ++ ": ") :: write level j) :: writeMembers level rest

end

/-- Whether a document can be written to its end. -/
def isWritable (j : Json) : Bool := (write 0 j).isComplete

/-- A document on lines of its own, as far as it can be written. -/
def pretty (j : Json) : String := (write 0 j ++ [some "\n"] : Writing).text

/-- An optional text. -/
def ofOption : Option String → Json
  | some s => text s
  | none => null

/-- A text that may be missing, and then cannot be written. -/
def ofText? : Option String → Json
  | some s => text s
  | none => unwritable

end Json

end Overdue
