/-
White space.

The class is the property `White_Space` of the character standard. Texts are lists of characters here,
so that trimming is `dropWhile` from either end.
-/
import Overdue.Text.Range

set_option autoImplicit false

namespace Overdue.Text

/-- The code points of white space. -/
def spaceRanges : List (Nat × Nat) :=
  [(0x9, 0xd), (0x20, 0x20), (0x85, 0x85), (0xa0, 0xa0), (0x1680, 0x1680), (0x2000, 0x200a),
    (0x2028, 0x2029), (0x202f, 0x202f), (0x205f, 0x205f), (0x3000, 0x3000)]

/-- Whether a character is white space. -/
def isSpace (c : Char) : Bool := inRanges spaceRanges c

/-- A text without the white space at its start. -/
def trimStart (cs : List Char) : List Char := cs.dropWhile isSpace

/-- A text without the white space at its end. -/
def trimEnd (cs : List Char) : List Char := (cs.reverse.dropWhile isSpace).reverse

/-- A text without the white space around it. -/
def trim (cs : List Char) : List Char := trimEnd (trimStart cs)

/-- The longest start of a text that satisfies a test, and the rest. -/
def splitWhile {α : Type} (p : α → Bool) (cs : List α) : List α × List α :=
  (cs.takeWhile p, cs.dropWhile p)

/-- The rest of a text after a given start, if the text has that start. -/
def dropPrefix? : List Char → List Char → Option (List Char)
  | [], cs => some cs
  | _ :: _, [] => none
  | p :: ps, c :: cs => if p = c then dropPrefix? ps cs else none

end Overdue.Text
