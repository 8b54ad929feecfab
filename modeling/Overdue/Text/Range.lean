/-
Character classes given by code point intervals.

A class of characters that a standard defines is a table of closed intervals; membership is a search
through the table.
-/

set_option autoImplicit false

namespace Overdue.Text

/-- Whether the code point of `c` lies in one of the closed intervals. -/
def inRanges (ranges : List (Nat × Nat)) (c : Char) : Bool :=
  ranges.any fun (low, high) => low ≤ c.toNat && c.toNat ≤ high

end Overdue.Text
