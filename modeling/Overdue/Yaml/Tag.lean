/-
Reading directives, anchors and tags.

A tag is a handle and the rest of the tag; directives may say what a handle stands for. Octets of a tag
can be written as escapes, which together must be characters.
-/
import Overdue.Yaml.Scalar
import Overdue.Yaml.Token

set_option autoImplicit false

namespace Overdue.Yaml

open Overdue.Text

/-! ## Names -/

/-- Reads the name of an anchor or of a reference to one, whose mark stands at the cursor. -/
def readAnchor (context : String) (c : Cursor) : Except Fault (String × Cursor) :=
  let start := c.mark
  let c := c.advance 1
  let name := c.rest.takeWhile isNameChar
  let c := c.advance name.length
  let ends :=
    match c.rest with
    | [] => true
    | b :: _ =>
      isBlank b || isBreak b || ['?', ':', ',', ']', '\x7d', '%', '@', '\x60'].contains b
  if name.isEmpty || !ends then
    .error (c.fault context start "did not find expected alphabetic or numeric character")
  else .ok (String.ofList name, c)

/-! ## Tags -/

/-- The number of octets of a character by the first of them. -/
def octetCount? (octet : Nat) : Option Nat :=
  if octet < 0x80 then some 1
  else if octet / 32 = 6 then some 2
  else if octet / 16 = 14 then some 3
  else if octet / 8 = 30 then some 4
  else none

/-- Reads so many escaped octets. -/
def readOctets (fail : Cursor → String → Fault) :
    Nat → List UInt8 → Cursor → Except Fault (List UInt8 × Cursor)
  | 0, octets, c => .ok (octets, c)
  | count + 1, octets, c =>
    match c.rest with
    | '%' :: a :: b :: _ =>
      match valueInBase? 16 [a, b] with
      | none => .error (fail c "did not find URI escaped octet")
      | some n =>
        if n / 64 = 2 then readOctets fail count (octets ++ [n.toUInt8]) (c.advance 3)
        else .error (fail c "found an incorrect trailing UTF-8 octet")
    | _ => .error (fail c "did not find URI escaped octet")

/-- Reads the escaped octets of one character. -/
def readEscapedChar (fail : Cursor → String → Fault) (c : Cursor) :
    Except Fault (List UInt8 × Cursor) :=
  match c.rest with
  | '%' :: a :: b :: _ =>
    match valueInBase? 16 [a, b] with
    | none => .error (fail c "did not find URI escaped octet")
    | some n =>
      match octetCount? n with
      | none => .error (fail c "found an incorrect leading UTF-8 octet")
      | some count => readOctets fail (count - 1) [n.toUInt8] (c.advance 3)
  | _ => .error (fail c "did not find URI escaped octet")

/-- Whether a character may stand in a tag; some may only in a verbatim tag. -/
def isTagChar (verbatim : Bool) (c : Char) : Bool :=
  isNameChar c ||
  [';', '/', '?', ':', '@', '&', '=', '+', '$', '.', '%', '!', '~', '*', '\'', '(', ')'].contains c ||
  (verbatim && [',', '[', ']'].contains c)

/-- Reads the octets of a tag as far as they go. -/
def readTagOctets (verbatim : Bool) (fail : Cursor → String → Fault) :
    Nat → List UInt8 → Cursor → Except Fault (List UInt8 × Cursor)
  | 0, octets, c => .ok (octets, c)
  | fuel + 1, octets, c =>
    match c.rest with
    | [] => .ok (octets, c)
    | b :: _ =>
      if !isTagChar verbatim b then .ok (octets, c)
      else if b == '%' then
        match readEscapedChar fail c with
        | .error f => .error f
        | .ok (more, c) => readTagOctets verbatim fail fuel (octets ++ more) c
      else readTagOctets verbatim fail fuel (octets ++ [b.toNat.toUInt8]) (c.advance 1)

/-- The text of octets, which are dropped if they are no text. -/
def textOfOctets (octets : List UInt8) : String :=
  (String.fromUTF8? ⟨octets.toArray⟩).getD ""

/-- Reads a tag or the rest of one after a head that was already read. Head and rest together must not be
empty; the exclamation mark in front of the head is not part of the tag. -/
def readTagText (verbatim inDirective : Bool) (head : List Char) (start : Mark) (c : Cursor) :
    Except Fault (String × Cursor) := do
  let context := if inDirective then "while parsing a %TAG directive" else "while parsing a tag"
  let fail (c : Cursor) (problem : String) : Fault := c.fault context start problem
  let (octets, next) ← readTagOctets verbatim fail (c.rest.length + 1) [] c
  if head.isEmpty && next.mark.index == c.mark.index then
    throw (fail c "did not find expected tag URI")
  return (String.ofList (head.drop 1) ++ textOfOctets octets, next)

/-- Reads a tag handle: an exclamation mark, a name and, except at times, a second mark. -/
def readHandle (inDirective : Bool) (start : Mark) (c : Cursor) :
    Except Fault (List Char × Cursor) :=
  let context := if inDirective then "while scanning a tag directive" else "while scanning a tag"
  match c.rest with
  | '!' :: rest =>
    let name := rest.takeWhile isNameChar
    let c := c.advance (name.length + 1)
    if c.rest.head? == some '!' then .ok ('!' :: name ++ ['!'], c.advance 1)
    else if inDirective && !name.isEmpty then
      .error (c.fault "while parsing a tag directive" start "did not find expected '!'")
    else .ok ('!' :: name, c)
  | _ => .error (c.fault context start "did not find expected '!'")

/-- Reads a tag, whose mark stands at the cursor. -/
def readTag (inFlow : Bool) (c : Cursor) : Except Fault (TokenKind × Cursor) := do
  let start := c.mark
  let (handle, rest, c) ←
    if c.rest.drop 1 |>.head? |>.any (· == '<') then do
      let (text, c) ← readTagText true false [] start (c.advance 2)
      if c.rest.head? == some '>' then pure ("", text, c.advance 1)
      else throw (c.fault "while scanning a tag" start "did not find the expected '>'")
    else do
      let (handle, c) ← readHandle false start c
      if 1 < handle.length && handle.getLast? == some '!' then do
        let (text, c) ← readTagText false false [] start c
        pure (String.ofList handle, text, c)
      else do
        let (text, c) ← readTagText false false handle start c
        if text.isEmpty then pure ("", "!", c) else pure ("!", text, c)
  if atBlank c.rest || (inFlow && c.rest.head? == some ',') then return (.tag handle rest, c)
  else
    throw (c.fault "while scanning a tag" start "did not find expected whitespace or line break")

/-! ## Directives -/

/-- Reads a part of a version number. -/
def readVersionPart (start : Mark) (c : Cursor) : Except Fault (Nat × Cursor) :=
  let ds := c.rest.takeWhile Char.isDigit
  let context := "while scanning a %YAML directive"
  if 9 < ds.length then
    .error ((c.advance 9).fault context start "found extremely long version number")
  else if ds.isEmpty then .error (c.fault context start "did not find expected version number")
  else .ok (valueOf ds, c.advance ds.length)

/-- Reads the version after the name of its directive. -/
def readVersion (start : Mark) (c : Cursor) : Except Fault (TokenKind × Cursor) := do
  let (major, c) ← readVersionPart start (c.skipWhile isBlank)
  if c.rest.head? != some '.' then
    throw (c.fault "while scanning a %YAML directive" start
      "did not find expected digit or '.' character")
  let (minor, c) ← readVersionPart start (c.advance 1)
  return (.versionDirective major minor, c)

/-- Reads a handle and what it stands for after the name of their directive. -/
def readExpansion (start : Mark) (c : Cursor) : Except Fault (TokenKind × Cursor) := do
  let context := "while scanning a %TAG directive"
  let (handle, c) ← readHandle true start (c.skipWhile isBlank)
  if !(c.rest.head?.any isBlank) then
    throw (c.fault context start "did not find expected whitespace")
  let (expansion, c) ← readTagText true true [] start (c.skipWhile isBlank)
  if !atBlank c.rest then
    throw (c.fault context start "did not find expected whitespace or line break")
  return (.tagDirective (String.ofList handle) expansion, c)

/-- Reads a directive, whose mark stands at the cursor: the token, the place where it ends, and the
cursor after its line. -/
def readDirective (c : Cursor) : Except Fault (TokenKind × Mark × Cursor) := do
  let start := c.mark
  let context := "while scanning a directive"
  let c := c.advance 1
  let name := c.rest.takeWhile isNameChar
  let c := c.advance name.length
  if name.isEmpty then throw (c.fault context start "could not find expected directive name")
  if !atBlank c.rest then
    throw (c.fault context start "found unexpected non-alphabetical character")
  let (kind, c) ←
    match String.ofList name with
    | "YAML" => readVersion start c
    | "TAG" => readExpansion start c
    | _ => throw (c.fault context start "found unknown directive name")
  let stop := c.mark
  let c := (c.skipWhile isBlank).skipComment
  if !atBreak c.rest then
    throw (c.fault context start "did not find expected comment or line break")
  return (kind, stop, c.takeBreak.2)

end Overdue.Yaml
