/-
Patterns: the texts that a token can be.

A pattern is a regular expression over sets of characters. It says nothing about how it is looked for:
`Syntax.Nfa` reads all patterns of a grammar at once.
-/

set_option autoImplicit false

namespace Overdue.Syntax

/-! ## Sets of characters -/

/-- A set of characters, as closed intervals of code points in increasing order. -/
structure CharSet where
  ranges : List (Nat × Nat)
deriving DecidableEq, Hashable, Inhabited, Repr

namespace CharSet

/-- The last code point. -/
def last : Nat := 0x10ffff

/-- Joins neighbouring and overlapping intervals of a list that is sorted by its lower ends. -/
def join : List (Nat × Nat) → List (Nat × Nat)
  | [] => []
  | [r] => [r]
  | (a, b) :: (c, d) :: rest =>
    if c ≤ b + 1 then join ((a, max b d) :: rest) else (a, b) :: join ((c, d) :: rest)
termination_by ranges => ranges.length

/-- The set of the code points in some intervals. -/
def ofRanges (ranges : List (Nat × Nat)) : CharSet :=
  ⟨join (ranges.mergeSort fun x y => x.1 ≤ y.1)⟩

/-- The set of one character. -/
def single (c : Char) : CharSet := ⟨[(c.toNat, c.toNat)]⟩

/-- The set of the characters of a text. -/
def ofString (s : String) : CharSet := ofRanges (s.toList.map fun c => (c.toNat, c.toNat))

/-- The characters from one to another. -/
def range (first final : Char) : CharSet := ⟨[(first.toNat, final.toNat)]⟩

/-- The characters of either set. -/
def union (a b : CharSet) : CharSet := ofRanges (a.ranges ++ b.ranges)

/-- The gaps of a list of intervals from a code point on. -/
def gaps (start : Nat) : List (Nat × Nat) → List (Nat × Nat)
  | [] => if start ≤ last then [(start, last)] else []
  | (a, b) :: rest => if start < a then (start, a - 1) :: gaps (b + 1) rest else gaps (b + 1) rest

/-- The characters that are not in a set. -/
def complement (a : CharSet) : CharSet := ⟨gaps 0 a.ranges⟩

/-- The characters of the first set that are not in the second. -/
def diff (a b : CharSet) : CharSet := (a.complement.union b).complement

end CharSet

/-! ## Patterns -/

/-- What the characters of a token look like. -/
inductive Pattern where
  /-- No characters. -/
  | blank
  /-- One character of a set. -/
  | one (set : CharSet)
  /-- One pattern after the other. -/
  | seq (first second : Pattern)
  /-- Either of two patterns. -/
  | choice (first second : Pattern)
  /-- A pattern once or more often. -/
  | repeat1 (body : Pattern)
deriving DecidableEq, Hashable, Inhabited, Repr

namespace Pattern

/-- Patterns one after the other. -/
def all : List Pattern → Pattern
  | [] => blank
  | [p] => p
  | p :: ps => seq p (all ps)

/-- Any one of some patterns. -/
def any : List Pattern → Pattern
  | [] => blank
  | [p] => p
  | p :: ps => choice p (any ps)

/-- A given text. -/
def text (s : String) : Pattern := all (s.toList.map fun c => one (.single c))

/-- One of the characters of a text. -/
def oneOf (s : String) : Pattern := one (.ofString s)

/-- A character that is not in a text. -/
def noneOf (s : String) : Pattern := one (CharSet.ofString s).complement

/-- A pattern or nothing. -/
def opt (p : Pattern) : Pattern := choice p blank

/-- A pattern any number of times. -/
def many (p : Pattern) : Pattern := opt (repeat1 p)

/-- A pattern a given number of times. -/
def times : Nat → Pattern → Pattern
  | 0, _ => blank
  | 1, p => p
  | n + 1, p => seq p (times n p)

/-- A decimal digit. -/
def digit : Pattern := one (.range '0' '9')

/-- A hexadecimal digit. -/
def hexDigit : Pattern := one (.ofRanges [(0x30, 0x39), (0x41, 0x46), (0x61, 0x66)])

/-- An octal digit. -/
def octalDigit : Pattern := one (.range '0' '7')

/-- The sets of characters that a pattern mentions. -/
def sets : Pattern → List CharSet
  | blank => []
  | one set => [set]
  | seq a b | choice a b => a.sets ++ b.sets
  | repeat1 a => a.sets

end Pattern

end Overdue.Syntax
