/-
Numbers written in digits.
-/

set_option autoImplicit false

namespace Overdue.Text

/-- The value of a list of decimal digits. -/
def valueOf (ds : List Char) : Nat := ds.foldl (fun n c => n * 10 + (c.toNat - '0'.toNat)) 0

/-- The value of a digit in bases up to sixteen. -/
def hexValue? (c : Char) : Option Nat :=
  if c.isDigit then some (c.toNat - '0'.toNat)
  else if 'a' ≤ c && c ≤ 'f' then some (c.toNat - 'a'.toNat + 10)
  else if 'A' ≤ c && c ≤ 'F' then some (c.toNat - 'A'.toNat + 10)
  else none

/-- The value of a list of digits in a base up to sixteen, if all are digits of that base. There must be
one at least. -/
def valueInBase? (base : Nat) (ds : List Char) : Option Nat :=
  if ds.isEmpty then none
  else
    ds.foldlM (fun n c =>
      match hexValue? c with
      | some v => if v < base then some (n * base + v) else none
      | none => none) 0

end Overdue.Text
