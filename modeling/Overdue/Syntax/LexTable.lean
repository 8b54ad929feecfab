/-
The automaton that finds the next token.

What is looked for at a place is a set of tokens. For each such set, a state of this automaton says how
far each of them has been recognized: it is a set of cells, at most one for each token. A state accepts
the token that is preferred among those that are complete, and goes on as long as that cannot take a
preferred token away. Sets of tokens that do not get in each other's way share a state, so that a token
that a parser cannot use is often recognized all the same.
-/
import Overdue.Syntax.Lexicon

set_option autoImplicit false

namespace Overdue.Syntax

/-! ## States -/

/-- What reading a character leads to: the next state, and whether the character is a blank before the
token. -/
structure Advance where
  state : Nat
  blank : Bool
deriving Inhabited

/-- A state of the automaton. -/
structure LexState where
  /-- The token that is complete here. -/
  accept : Option Nat
  /-- Whether the end of the text is a token here. -/
  atEnd : Bool
  /-- What each letter leads to. -/
  moves : Array (Option Advance)
deriving Inhabited

/-- The cells of a state, and whether the end of the text is a token there. -/
abbrev LexKey := Array Nat × Bool

/-- An automaton in the making. -/
structure LexTable where
  states : Array LexState
  keys : Array LexKey
  numbers : Std.HashMap LexKey Nat

/-- The automaton without states. -/
def LexTable.initial : LexTable := ⟨#[], #[], {}⟩

/-- The number of the state with a key. -/
def LexTable.number (t : LexTable) (key : LexKey) : Nat × LexTable :=
  match t.numbers[key]? with
  | some n => (n, t)
  | none =>
    let n := t.keys.size
    (n, { t with keys := t.keys.push key, numbers := t.numbers.insert key n })

/-! ## Moves of a set of cells -/

/-- What the cells of a state come to on a letter: the cells after it, whether it is a blank for all of
them, and the highest priority of their moves. -/
structure Joint where
  cells : List Nat
  blank : Bool
  priority : Int
deriving DecidableEq, Inhabited

/-- Adds the move of a cell. -/
def Joint.add (j : Option Joint) (m : Move) (claim : Claim) : Joint :=
  match j with
  | none => ⟨[m.target], m.blank, m.priority claim⟩
  | some j => ⟨m.target :: j.cells, j.blank && m.blank, max j.priority (m.priority claim)⟩

/-- What a set of cells comes to on each letter. -/
def Recognizer.joints (r : Recognizer) (claims : Array Claim) (cells : Array Nat) :
    Array (Option Joint) :=
  cells.foldl
    (fun acc number =>
      let cell := r.cell number
      match claims[cell.token]? with
      | none => acc
      | some claim =>
        cell.moves.foldl (fun acc m => acc.modify m.letter fun j => some (Joint.add j m claim)) acc)
    (Array.replicate r.alphabet.count none)

/-- The token that is complete in a set of cells. -/
def Recognizer.completed (r : Recognizer) (claims : Array Claim) (cells : Array Nat) :
    Option Claim :=
  cells.foldl
    (fun best number =>
      let cell := r.cell number
      if cell.accepts then
        match best, claims[cell.token]? with
        | some b, some c => if c.beats b then some c else best
        | none, some c => some c
        | _, none => best
      else best)
    none

/-- The move on a letter, if the state goes on there. The character with code point zero is also what
stands at the end of a text, so it is not read by a move that reads nearly everything: one that also
reads the last character. -/
def Recognizer.follows? (r : Recognizer) (complete : Option Claim) (waits : Bool) (last : Option Joint)
    (null : Bool) (joint : Option Joint) : Option Joint :=
  joint.bind fun j =>
    let allowed := match complete with
      | none => true
      | some c =>
        let still := j.cells.any fun number => (r.cell number).token == c.token
        goesOn j.priority j.blank still c.priority waits
    if allowed && !(null && joint == last) then some j else none

/-- Finds what the states lead to, one after the other, until all have been seen. -/
def Recognizer.fillStates (r : Recognizer) (claims : Array Claim) : Nat → LexTable → LexTable
  | 0, t => t
  | fuel + 1, t =>
    match t.keys[t.states.size]? with
    | none => t
    | some (cells, atEnd) =>
      let complete := r.completed claims cells
      let waits := cells.any fun number => (r.cell number).waits
      let joints := r.joints claims cells
      let null := r.alphabet.classOf '\x00'
      let last := joints.getD (r.alphabet.classOf (Char.ofNat CharSet.last)) none
      let (moves, keys, numbers) := (List.range joints.size).foldl
        (fun (moves, keys, numbers) letter =>
          match r.follows? complete waits last (letter == null) (joints.getD letter none) with
          | none => (moves.push none, keys, numbers)
          | some j =>
            let key : LexKey := ((j.cells.mergeSort (· ≤ ·)).toArray, atEnd && j.blank)
            let (n, t') := LexTable.number ⟨#[], keys, numbers⟩ key
            (moves.push (some ⟨n, j.blank⟩), t'.keys, t'.numbers))
        ((#[] : Array (Option Advance)), t.keys, t.numbers)
      let state : LexState := { accept := complete.map (·.token), atEnd, moves }
      r.fillStates claims fuel { states := t.states.push state, keys, numbers }

/-! ## Sets of tokens that share a state -/

/-- Whether two sets of tokens can be looked for at once. -/
def Lexicon.compatible (l : Lexicon) (a b : TokenSet) : Bool :=
  let goodIn := fun (t : Nat) (set : TokenSet) =>
    let o := l.overlaps
    let clash := (o.conflicts t).union (Overlaps.pick o.begins t)
    let near := (o.meetings t).union (Overlaps.pick l.metBy t)
    !clash.meets set && !(near.diff (Overlaps.pick l.beside t)).meets set
  !((a.diff b).any fun t => !goodIn t b) && !((b.diff a).any fun t => !goodIn t a)

/-- Groups of tokens that are looked for at once, and the group of each set that was met. -/
structure LexGroups where
  groups : Array TokenSet
  known : Std.HashMap TokenSet Nat

/-- Puts a set of tokens into the first group that it goes with, or else into one of its own. -/
def Lexicon.addGroup (l : Lexicon) (g : LexGroups) (set : TokenSet) : LexGroups × Nat :=
  match g.known[set]? with
  | some i => (g, i)
  | none =>
    match g.groups.findIdx? fun group => l.compatible group set with
    | some i =>
      ({ groups := g.groups.modify i (·.union set), known := g.known.insert set i }, i)
    | none =>
      let i := g.groups.size
      ({ groups := g.groups.push set, known := g.known.insert set i }, i)

/-- The cells in which the tokens of a set start. -/
def Recognizer.startCells (r : Recognizer) (set : TokenSet) : LexKey :=
  let cells := set.toList.filterMap fun t => r.starts.getD t none
  ((cells.mergeSort (· ≤ ·)).toArray, set.contains 0)

end Overdue.Syntax
