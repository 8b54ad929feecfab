/-
The characters as the patterns of a grammar see them.

No pattern tells two characters apart that are in the same of its sets. An alphabet puts such
characters into one class, so that what reads the patterns has a small table for each state instead of
one entry for every character.
-/
import Std.Data.HashMap
import Overdue.Syntax.Pattern

set_option autoImplicit false

namespace Overdue.Syntax

/-- A partition of the characters into classes. The code points are divided into intervals, and every
interval belongs to one class. -/
structure Alphabet where
  /-- The first code points of the intervals, in increasing order. -/
  starts : Array Nat
  /-- The class of each interval. -/
  classes : Array Nat
  /-- The classes of the first 128 characters. -/
  basic : Array Nat
  /-- How many classes there are. -/
  count : Nat
  /-- The classes that make up a set. -/
  members : Std.HashMap CharSet (List Nat)

namespace Alphabet

/-- The number of the last interval that starts at or before a code point; `low` is one that does, and
`high` one that does not. -/
def search (starts : Array Nat) (code : Nat) : Nat → Nat → Nat → Nat
  | 0, low, _ => low
  | fuel + 1, low, high =>
    if high ≤ low + 1 then low
    else
      let middle := (low + high) / 2
      if starts.getD middle 0 ≤ code then search starts code fuel middle high
      else search starts code fuel low middle

/-- The interval that a code point lies in. -/
def intervalOf (starts : Array Nat) (code : Nat) : Nat := search starts code 32 0 starts.size

/-- The class of a character. -/
def classOf (a : Alphabet) (c : Char) : Nat :=
  let code := c.toNat
  if code < 128 then a.basic.getD code 0
  else a.classes.getD (intervalOf a.starts code) 0

/-- The classes that make up a set. -/
def classesOf (a : Alphabet) (set : CharSet) : List Nat := a.members.getD set []

/-- The places where some of the sets starts or ends. -/
def boundaries (sets : List CharSet) : Array Nat :=
  let ends := sets.flatMap fun s => s.ranges.flatMap fun (x, y) => [x, y + 1]
  let sorted := (0 :: ends).mergeSort (· ≤ ·)
  sorted.foldl (fun acc x => if acc.back? == some x then acc else acc.push x) #[]

/-- Notes for each interval that a set contains it. -/
def mark (starts : Array Nat) (marks : Array (List Nat)) (set : CharSet) (number : Nat) :
    Array (List Nat) :=
  set.ranges.foldl
    (fun marks (x, y) =>
      let first := intervalOf starts x
      let last := intervalOf starts y
      (List.range (last + 1 - first)).foldl (fun marks i => marks.modify (first + i) (number :: ·))
        marks)
    marks

/-- The coarsest alphabet for some sets. -/
def ofSets (sets : List CharSet) : Alphabet := Id.run do
  let mut known : Std.HashMap CharSet Nat := {}
  let mut distinct : Array CharSet := #[]
  for set in sets do
    if !known.contains set then
      known := known.insert set distinct.size
      distinct := distinct.push set
  let starts := boundaries distinct.toList
  let mut marks : Array (List Nat) := Array.replicate starts.size []
  for h : i in [0:distinct.size] do
    marks := mark starts marks distinct[i] i
  let mut numbers : Std.HashMap (List Nat) Nat := {}
  let mut classes : Array Nat := #[]
  let mut contents : Array (List Nat) := Array.replicate distinct.size []
  for sets in marks do
    match numbers[sets]? with
    | some c => classes := classes.push c
    | none =>
      let c := numbers.size
      numbers := numbers.insert sets c
      classes := classes.push c
      for i in sets do
        contents := contents.modify i (c :: ·)
  let found := contents
  let members := known.fold
    (fun (acc : Std.HashMap CharSet (List Nat)) set i => acc.insert set (found.getD i []).reverse) {}
  let all := classes
  return {
    starts, classes, count := numbers.size, members
    basic := (Array.range 128).map fun code => all.getD (intervalOf starts code) 0 }

end Alphabet

end Overdue.Syntax
