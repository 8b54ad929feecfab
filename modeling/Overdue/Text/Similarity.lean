/-
Similarity of words.

Two characters of two words match if they are equal and stand not too far apart; each is matched once,
from left to right. Words are the more similar the larger the matched part of each is, and the fewer of
the matched characters stand in another order. The measure lies between zero and one. It is computed in
binary numbers of 64 bits, whose rounding decides which of two words is the nearer one if they are about
equally near.
-/
import Overdue.Decimal.Binary64

set_option autoImplicit false

namespace Overdue.Text

open Overdue.Decimal

/-- The first position of a character from `low` up to but not including `high` that is not taken. -/
def freePlace? (c : Char) (word : List Char) (taken : List Nat) (low high : Nat) : Option Nat :=
  (word.zipIdx.find? fun (d, j) => low ≤ j && j < high && c == d && !taken.contains j).map (·.2)

/-- The positions in the second word that match characters of the first one from position `i` on, each
with its character of the first word. -/
def matchesFrom (reach : Nat) (word : List Char) (taken : List Nat) (i : Nat) :
    List Char → List (Char × Nat)
  | [] => []
  | c :: cs =>
    match freePlace? c word taken (i - reach) (i + reach + 1) with
    | some j => (c, j) :: matchesFrom reach word (j :: taken) (i + 1) cs
    | none => matchesFrom reach word taken (i + 1) cs

/-- How similar two words are: the mean of the matched part of either word and of the part of the matched
characters that stands in order. Two characters out of place are one change of order. -/
def similarity (a b : List Char) : Binary :=
  let reach := max a.length b.length / 2 - 1
  let found := matchesFrom reach b [] 0 a
  let inOrder := (b.zipIdx.filter fun (_, j) => found.any (·.2 == j)).map (·.1)
  let swapped := ((found.map (·.1)).zip inOrder).filter (fun (c, d) => c != d)
  let count := Binary.ofNat found.length
  if a = [] ∧ b = [] then .ofNat 1
  else if found = [] then .ofNat 0
  else
    (count / .ofNat a.length + count / .ofNat b.length +
      Binary.ofNat (found.length - swapped.length / 2) / count) / .ofNat 3

/-- The word of a list that is most similar to a given one, if it is more similar than a bound. Of equally
similar words it is the last. -/
def mostSimilar? (bound : Binary) (word : List Char) (words : List String) : Option String :=
  let similar := (words.map fun w => (w, similarity word w.toList)).filter fun (_, s) => bound.lt s
  (similar.foldl (fun (best : Option (String × Binary)) entry =>
    match best with
    | some b => if entry.2.lt b.2 then some b else some entry
    | none => some entry) none).map (·.1)

end Overdue.Text
