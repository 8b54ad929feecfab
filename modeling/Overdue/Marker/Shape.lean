/-
The shape of a marker in a comment.

A marker is a keyword that does not continue a word, an optional tag in round brackets right after it,
a colon, and `stale:` with a date token. An `expires:` clause with a second date token may follow, and
then a message up to the end of the line:

    TODO(alice): stale:01-01-2025 expires:01-04-2025 drop the legacy path

White space may stand around the first colon and before the date tokens, and it ends a date token. What
has this shape is a marker, whether or not its tokens are dates.
-/
import Overdue.Text.Fold
import Overdue.Text.Space
import Overdue.Text.Word

set_option autoImplicit false

namespace Overdue

open Overdue.Text

/-- The keywords of markers. -/
inductive MarkerKind where
  | todo
  | fixme
deriving DecidableEq, Inhabited, Repr

/-- The keyword in capital letters. -/
def MarkerKind.label : MarkerKind → String
  | todo => "TODO"
  | fixme => "FIXME"

namespace Marker

/-- The parts of a marker as they stand in the text. -/
structure Shape where
  kind : MarkerKind
  tag : Option (List Char)
  warn : List Char
  expire : Option (List Char)
  message : List Char
deriving DecidableEq, Repr

/-- The keyword at the start of a text, and the rest. -/
def keyword? (cs : List Char) : Option (MarkerKind × List Char) :=
  match dropWord? ['t', 'o', 'd', 'o'] cs with
  | some rest => some (.todo, rest)
  | none => (dropWord? ['f', 'i', 'x', 'm', 'e'] cs).map (.fixme, ·)

/-- The tag at the start of a text, if there is one, and the rest. -/
def splitTag (cs : List Char) : Option (List Char) × List Char :=
  match cs with
  | '(' :: inner =>
    match splitWhile (· != ')') inner with
    | (tag, _ :: rest) => (some tag, rest)
    | (_, []) => (none, cs)
  | _ => (none, cs)

/-- The longest token without white space at the start of a text after white space, and the rest. -/
def token? (cs : List Char) : Option (List Char × List Char) :=
  match splitWhile (!isSpace ·) (trimStart cs) with
  | ([], _) => none
  | (token, rest) => some (token, rest)

/-- The token of an `expires:` clause at the start of a text, and the rest. White space must come
before the clause. -/
def expires? (cs : List Char) : Option (List Char × List Char) :=
  match cs with
  | [] => none
  | c :: rest =>
    if isSpace c then
      (dropWord? ['e', 'x', 'p', 'i', 'r', 'e', 's', ':'] (trimStart rest)).bind token?
    else none

/-- The message at the start of a text: after white space, up to the end of the line. -/
def messageOf (cs : List Char) : List Char :=
  trim ((trimStart cs).takeWhile (· != '\n'))

/-- The rest of a text after white space and `: stale:`. -/
def stale? (cs : List Char) : Option (List Char) :=
  match trimStart cs with
  | ':' :: rest => dropWord? ['s', 't', 'a', 'l', 'e', ':'] (trimStart rest)
  | _ => none

/-- The marker at the start of a text. -/
def shapeAt? (cs : List Char) : Option Shape := do
  let (kind, rest) ← keyword? cs
  let (tag, rest) := splitTag rest
  let (warn, rest) ← token? (← stale? rest)
  match expires? rest with
  | some (expire, rest) => return ⟨kind, tag, warn, some expire, messageOf rest⟩
  | none => return ⟨kind, tag, warn, none, messageOf rest⟩

/-- The first marker in a text, where `inWord` says that the text continues a word. -/
def shapeFrom? (inWord : Bool) : List Char → Option Shape
  | [] => none
  | c :: cs =>
    match if inWord then none else shapeAt? (c :: cs) with
    | some shape => some shape
    | none => shapeFrom? (isWord c) cs

/-- A comment without the white space at its end and without one mark that closes a block after it. -/
def body (raw : List Char) : List Char :=
  match (trimEnd raw).reverse with
  | '/' :: '*' :: rest => rest.reverse
  | _ => trimEnd raw

/-- The first marker in a comment. -/
def shape? (raw : List Char) : Option Shape := shapeFrom? false (body raw)

end Marker

end Overdue
