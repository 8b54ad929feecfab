/-
Decimal numbers and the binary numbers of 64 bits.

A decimal text denotes the binary number nearest to it, the even one of two that are equally near. A
binary number is written with the fewest digits that denote it, and of those the nearest, always without
an exponent. Sums and quotients are the exact ones, rounded. All of it is exact arithmetic on natural
numbers.
-/
import Overdue.Text.Digit

set_option autoImplicit false

namespace Overdue.Decimal

open Overdue.Text

/-! ## Decimal numbers -/

/-- The decimal number `digits * 10 ^ exponent`, with a sign. -/
structure Numeral where
  negative : Bool
  digits : Nat
  exponent : Int
deriving DecidableEq, Inhabited, Repr

/-- The sign at the start of a text, as whether it is a minus, and the rest. -/
def splitSign : List Char → Bool × List Char
  | '-' :: rest => (true, rest)
  | '+' :: rest => (false, rest)
  | cs => (false, cs)

/-- The value of an exponent, which takes the whole text. -/
def exponent? (cs : List Char) : Option Int :=
  let (negative, ds) := splitSign cs
  if ds.isEmpty || !ds.all Char.isDigit then none
  else if negative then some (-(valueOf ds : Int)) else some (valueOf ds)

/-- The number that a text denotes: digits with at most one point among them, then an exponent. -/
def Numeral.ofText? (cs : List Char) : Option Numeral := do
  let (negative, cs) := splitSign cs
  let (whole, cs) := cs.span Char.isDigit
  let (part, cs) :=
    match cs with
    | '.' :: rest => rest.span Char.isDigit
    | cs => ([], cs)
  if whole.isEmpty && part.isEmpty then none
  let e ←
    match cs with
    | [] => some 0
    | c :: rest => if c == 'e' || c == 'E' then exponent? rest else none
  return ⟨negative, valueOf (whole ++ part), e - part.length⟩

/-! ## Binary numbers -/

/-- The binary number `mantissa * 2 ^ exponent`. -/
structure Binary where
  mantissa : Nat
  exponent : Int
deriving DecidableEq, Inhabited, Repr

/-- The natural number `n * base ^ e`, or zero if `e` is negative. -/
def scaleUp (n base : Nat) (e : Int) : Nat := n * Nat.pow base e.toNat

/-- A fraction rounded to the nearest natural number, to the even one of two. -/
def roundDiv (n d : Nat) : Nat :=
  let q := n / d
  let r := n % d
  if 2 * r < d then q else if d < 2 * r then q + 1 else if q % 2 = 0 then q else q + 1

/-- The least exponent of a binary number. -/
def leastExponent : Int := -1074

/-- The fraction `n / d` as a binary number, for positive `n` and `d`. -/
def Binary.ofFraction (n d : Nat) : Binary :=
  let guess : Int := (n.log2 : Int) - d.log2 - 53
  let exact (e : Int) : Nat × Nat := (scaleUp n 2 (-e), scaleUp d 2 e)
  let first := exact guess
  let e := if Nat.pow 2 53 ≤ first.1 / first.2 then guess + 1 else guess
  let e := max e leastExponent
  let parts := exact e
  let m := roundDiv parts.1 parts.2
  if m = Nat.pow 2 53 then ⟨Nat.pow 2 52, e + 1⟩ else ⟨m, e⟩

/-- The number of digits of a natural number. -/
def digitCount (n : Nat) : Nat := (Nat.toDigits 10 n).length

/-- The binary number nearest to `digits * 10 ^ exponent`, or nothing if that is too large. -/
def Binary.nearest? (digits : Nat) (exponent : Int) : Option Binary :=
  if digits = 0 then some ⟨0, leastExponent⟩
  else
    let magnitude := exponent + digitCount digits
    if 400 < magnitude then none
    else if magnitude < -400 then some ⟨0, leastExponent⟩
    else
      let b := Binary.ofFraction (scaleUp digits 10 exponent) (scaleUp 1 10 (-exponent))
      if 971 < b.exponent then none else some b

/-! ## Arithmetic -/

namespace Binary

/-- The value of a binary number as a fraction. -/
def fraction (b : Binary) : Nat × Nat := (scaleUp b.mantissa 2 b.exponent, scaleUp 1 2 (-b.exponent))

/-- A natural number, rounded. -/
def ofNat (n : Nat) : Binary := ofFraction n 1

/-- The sum of two numbers, rounded. -/
def add (a b : Binary) : Binary :=
  ofFraction (a.fraction.1 * b.fraction.2 + b.fraction.1 * a.fraction.2)
    (a.fraction.2 * b.fraction.2)

/-- The quotient of two numbers, rounded. -/
def div (a b : Binary) : Binary :=
  ofFraction (a.fraction.1 * b.fraction.2) (a.fraction.2 * b.fraction.1)

/-- Whether a number is less than another one. -/
def lt (a b : Binary) : Bool := a.fraction.1 * b.fraction.2 < b.fraction.1 * a.fraction.2

instance : Add Binary := ⟨add⟩

instance : Div Binary := ⟨div⟩

end Binary

/-! ## Shortest digits -/

/-- The place of the first digit of `n / d`: the least `k` with `n / d < 10 ^ k`, looking upwards from a
start that is low enough. -/
def firstPlace (n d : Nat) : Nat → Int → Int
  | 0, k => k
  | fuel + 1, k => if scaleUp n 10 (-k) < scaleUp d 10 k then k else firstPlace n d fuel (k + 1)

/-- The nearest of the two numbers with so many digits around `n / d` that denote `b`, as digits and
exponent. -/
def withDigits? (b : Binary) (n d : Nat) (place : Int) (count : Nat) : Option (Nat × Int) :=
  let e := place - count
  let top := scaleUp n 10 (-e)
  let bottom := scaleUp d 10 e
  let low := top / bottom
  let denotes (m : Nat) : Bool := Binary.nearest? m e == some b
  let lowNearer := 2 * (top % bottom) ≤ bottom
  match denotes low, denotes (low + 1) with
  | true, true => some (if lowNearer then low else low + 1, e)
  | true, false => some (low, e)
  | false, true => some (low + 1, e)
  | false, false => none

/-- A decimal number without zeros at the end of its digits, of which there are at most so many. -/
def dropZeros : Nat → Nat × Int → Nat × Int
  | 0, number => number
  | fuel + 1, (digits, e) =>
    if digits % 10 = 0 then dropZeros fuel (digits / 10, e + 1) else (digits, e)

/-- The shortest decimal number that denotes a positive binary number, as digits and exponent. -/
def shortest (b : Binary) : Nat × Int :=
  let (n, d) := b.fraction
  let place := firstPlace n d 700 (-330)
  dropZeros 17 (((List.range 17).findSome? fun i => withDigits? b n d place (i + 1)).getD (0, 0))

/-- A decimal number without an exponent. It always has a point. -/
def positional (digits : Nat) (exponent : Int) : List Char :=
  let ds := Nat.toDigits 10 digits
  if 0 ≤ exponent then ds ++ List.replicate exponent.toNat '0' ++ ['.', '0']
  else
    let places := exponent.natAbs
    if places < ds.length then ds.take (ds.length - places) ++ ['.'] ++ ds.drop (ds.length - places)
    else ['0', '.'] ++ List.replicate (places - ds.length) '0' ++ ds

/-- The shortest text of a binary number with a sign. -/
def Binary.render (negative : Bool) (b : Binary) : List Char :=
  let body :=
    if b.mantissa = 0 then ['0', '.', '0']
    else
      let (digits, exponent) := shortest b
      positional digits exponent
  if negative then '-' :: body else body

end Overdue.Decimal
