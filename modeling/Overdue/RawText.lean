/-
Texts of the system.

The system keeps names and paths as bytes. They are meant to encode characters, but nothing makes sure that
they do. Where a text of characters is asked for, such bytes either are one or not; where they are only shown,
each part that can begin no character or that ends inside of one is shown as a replacement character.
-/

set_option autoImplicit false

namespace Overdue

namespace Text

/-! ## Bytes of characters -/

/-- The bytes of characters. -/
def encode (cs : List Char) : List UInt8 := cs.flatMap String.utf8EncodeChar

/-- What is shown for bytes that are no character. -/
def replacement : Char := '\ufffd'

/-- A character that has begun: the number of bytes that it has after the next one, the bounds of the next one,
and what the bytes so far say of its number. -/
structure Begun where
  missing : Nat
  low : UInt8
  high : UInt8
  value : Nat
deriving DecidableEq, Repr

/-- What a byte says at a place where no character has begun: the characters that it settles, and the one that
it begins. The second byte has narrow bounds where the number would be too small for so many bytes, would
stand for half a character, or would be too large. -/
def lead (b : UInt8) : List Char × Option Begun :=
  if b < 0x80 then ([Char.ofNat b.toNat], none)
  else if b < 0xc2 then ([replacement], none)
  else if b < 0xe0 then ([], some ⟨0, 0x80, 0xbf, b.toNat - 0xc0⟩)
  else if b < 0xf0 then
    ([], some ⟨1, if b = 0xe0 then 0xa0 else 0x80, if b = 0xed then 0x9f else 0xbf, b.toNat - 0xe0⟩)
  else if b < 0xf5 then
    ([], some ⟨2, if b = 0xf0 then 0x90 else 0x80, if b = 0xf4 then 0x8f else 0xbf, b.toNat - 0xf0⟩)
  else ([replacement], none)

/-- The characters that bytes show, after those of a character that has begun. A byte that does not go on
with that character ends it, and begins anew. -/
def decodeFrom : Option Begun → List UInt8 → List Char
  | none, [] => []
  | some _, [] => [replacement]
  | none, b :: bs => (lead b).1 ++ decodeFrom (lead b).2 bs
  | some p, b :: bs =>
    if p.low ≤ b ∧ b ≤ p.high then
      let value := 64 * p.value + (b.toNat - 0x80)
      match p.missing with
      | 0 => Char.ofNat value :: decodeFrom none bs
      | missing + 1 => decodeFrom (some ⟨missing, 0x80, 0xbf, value⟩) bs
    else replacement :: ((lead b).1 ++ decodeFrom (lead b).2 bs)

/-- The characters that bytes show. -/
def decode (bs : List UInt8) : List Char := decodeFrom none bs

end Text

open Overdue.Text

/-! ## Texts of the system -/

/-- A text of the system: bytes, which need not be those of characters. -/
structure RawText where
  bytes : List UInt8
deriving DecidableEq, Inhabited, Repr

namespace RawText

/-- The bytes of a text. -/
def ofString (s : String) : RawText := ⟨encode s.toList⟩

instance : Coe String RawText := ⟨ofString⟩

instance : Coe (List String) (List RawText) := ⟨List.map ofString⟩

/-- The text whose bytes these are, if there is one. -/
def text? (t : RawText) : Option String := String.fromUTF8? t.bytes.toByteArray

/-- The text as it is shown. -/
def shown (t : RawText) : String := String.ofList (decode t.bytes)

end RawText

end Overdue
