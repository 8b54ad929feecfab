/-
Control sequences.

A terminal takes some characters for orders: the control characters, and the sequences that begin with an
escape character. A text that goes elsewhere is freed of both. White space stays, even where it stands
inside a sequence; the sequence then goes on with the next character that is not shown.
-/

set_option autoImplicit false

namespace Overdue.Text

/-! ## Characters -/

/-- Whether a character is white space that moves the place where the next one is shown. -/
def isMotion (c : Char) : Bool := c == '\t' || c == '\n' || c == '\x0c' || c == '\r'

/-- Whether a character is no order by itself. -/
def isShown (c : Char) : Bool := isMotion c || (0x20 ≤ c.toNat && c.toNat != 0x7f)

/-- Whether a character ends a string of data. The terminator is a byte, so it does so wherever its
encoding has that byte. -/
def endsString (c : Char) : Bool := (String.utf8EncodeChar c).contains 0x9c

/-! ## Sequences -/

/-- The part of a control sequence that a terminal has come to. -/
inductive Sequence where
  /-- Outside of all sequences. -/
  | outside
  /-- Behind the escape character. -/
  | escape
  /-- Behind the escape character and some more, one character before the end. -/
  | intermediate
  /-- In the numbers of an order. -/
  | order
  /-- In the numbers before a string of data. -/
  | header
  /-- In a string of data. -/
  | data
  /-- In a command for the system. -/
  | command
deriving DecidableEq, Inhabited, Repr

namespace Sequence

/-- Whether white space is shown at once. -/
def admitsMotion : Sequence → Bool
  | outside | escape | intermediate | order => true
  | header | data | command => false

/-- The part that follows the character behind an escape character. -/
def afterEscape (c : Char) : Sequence :=
  if c == '[' then order
  else if c == ']' then command
  else if c == 'P' then header
  else if c == 'X' || c == '^' || c == '_' then data
  else if ' ' ≤ c && c ≤ '/' then intermediate
  else if '0' ≤ c && c ≤ '~' then outside
  else escape

/-- The part that follows a character. Three characters cut every sequence short, and one of them begins
another one. -/
def next (s : Sequence) (c : Char) : Sequence :=
  if c == '\x1b' then escape
  else if c == '\x18' || c == '\x1a' then outside
  else
    match s with
    | outside => outside
    | escape => afterEscape c
    | intermediate => if '0' ≤ c && c ≤ '~' then outside else intermediate
    | order => if '@' ≤ c && c ≤ '~' then outside else order
    | header => if '@' ≤ c && c ≤ '~' then data else header
    | data => if endsString c then outside else data
    | command => if c == '\x07' then outside else command

end Sequence

/-! ## Texts -/

/-- The characters that are shown of a text which begins in some part of a sequence. The sequence may be
held up, after white space inside it. A character beyond the first 128 ends a sequence that is held up. -/
def shownFrom (s : Sequence) (heldUp : Bool) : List Char → List Char
  | [] => []
  | c :: cs =>
    if (heldUp || s = .outside) && isShown c then
      c :: shownFrom (if c.toNat < 0x80 then s else .outside) heldUp cs
    else if s.admitsMotion && isMotion c then c :: shownFrom s true cs
    else shownFrom (s.next c) false cs

/-- A text without control characters and control sequences. -/
def withoutControls (text : String) : String := String.ofList (shownFrom .outside false text.toList)

end Overdue.Text
