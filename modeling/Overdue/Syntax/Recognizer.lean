/-
Automata that recognize the tokens of a grammar.

The pattern of every token becomes a deterministic automaton over the classes of an alphabet. Before a
token that is not immediate, blanks can be read; these are part of the automaton, and a move on a
character that is nothing but such a blank is marked. The states of all tokens are numbered together,
so that a set of them says how far each token has been recognized.
-/
import Overdue.Syntax.Alphabet
import Overdue.Syntax.Production

set_option autoImplicit false

namespace Overdue.Syntax

/-- The characters that separate tokens. -/
def blanks : CharSet := .ofRanges [(0x09, 0x0d), (0x20, 0x20)]

/-! ## The places of a pattern -/

/-- How a part of a pattern begins and ends: whether it can be nothing, and the places of characters
that can be first and last in it. -/
structure Fragment where
  empty : Bool
  first : List Nat
  last : List Nat

/-- A place of a character in a pattern: its classes, and the places that can come next. -/
structure PatternPlace where
  classes : List Nat
  next : List Nat
deriving Inhabited

/-- Notes that some places can come after others. -/
def connect (places : Array PatternPlace) (last first : List Nat) : Array PatternPlace :=
  last.foldl (fun places i => places.modify i fun p => { p with next := p.next ++ first }) places

/-- Finds the places of a pattern and which can come after which. -/
def Pattern.fragment (classesOf : CharSet → List Nat) :
    Pattern → Array PatternPlace → Fragment × Array PatternPlace
  | .blank, places => (⟨true, [], []⟩, places)
  | .one set, places =>
    (⟨false, [places.size], [places.size]⟩, places.push ⟨classesOf set, []⟩)
  | .seq a b, places =>
    let (x, places) := a.fragment classesOf places
    let (y, places) := b.fragment classesOf places
    ({ empty := x.empty && y.empty
       first := if x.empty then x.first ++ y.first else x.first
       last := if y.empty then y.last ++ x.last else y.last },
      connect places x.last y.first)
  | .choice a b, places =>
    let (x, places) := a.fragment classesOf places
    let (y, places) := b.fragment classesOf places
    (⟨x.empty || y.empty, x.first ++ y.first, x.last ++ y.last⟩, places)
  | .repeat1 a, places =>
    let (x, places) := a.fragment classesOf places
    (x, connect places x.last x.first)

/-! ## Cells -/

/-- A move on a class of characters; `blank` tells whether such a character can only be a blank before
the token. -/
structure Move where
  letter : Nat
  target : Nat
  blank : Bool
deriving Inhabited

/-- A state of the automaton of a token. -/
structure Cell where
  token : Nat
  accepts : Bool
  /-- Whether blanks can still be read before the token. -/
  waits : Bool
  /-- The moves, in the order of their classes. -/
  moves : Array Move
deriving Inhabited

/-- The automata of the tokens of a grammar. -/
structure Recognizer where
  alphabet : Alphabet
  cells : Array Cell
  /-- The cell in which each token starts, by token; a token without a look has none. -/
  starts : Array (Option Nat)

/-- The cell with a number. -/
def Recognizer.cell (r : Recognizer) (i : Nat) : Cell := r.cells.getD i default

/-- What is known of the token whose automaton is made. -/
structure Making where
  token : Nat
  places : Array PatternPlace
  whole : Fragment
  /-- The classes of blanks that can be read before the token. -/
  blanks : List Nat
  /-- The number of classes. -/
  count : Nat

/-- The key of a cell: whether it is one in which the token has not started, and the places of the
pattern that have just been read. -/
abbrev CellKey := Bool × List Nat

/-- The places that can be read next in a cell. -/
def Making.pending (m : Making) (key : CellKey) : List Nat :=
  let after := key.2.flatMap fun i => (m.places.getD i default).next
  ((if key.1 then m.whole.first else []) ++ after).mergeSort (· ≤ ·) |>.eraseDups

/-- The keys of the cells after each class. -/
def Making.targets (m : Making) (key : CellKey) : List (Nat × CellKey × Bool) :=
  let reads := (m.pending key).foldl
    (fun (acc : Array (List Nat)) i =>
      (m.places.getD i default).classes.foldl (fun acc c => acc.modify c (i :: ·)) acc)
    (Array.replicate m.count [])
  (List.range m.count).filterMap fun c =>
    let places := (reads.getD c []).reverse
    let waits := key.1 && m.blanks.contains c
    if places.isEmpty && !waits then none else some (c, (waits, places), waits && places.isEmpty)

/-- Finds the cells of a token, one after the other; `keys` are those found so far, whose numbers start
at `base`. -/
def Making.explore (m : Making) (base : Nat) :
    Nat → Nat → Array CellKey → Std.HashMap CellKey Nat → Array Cell → Array Cell
  | 0, _, _, _, cells => cells
  | fuel + 1, i, keys, numbers, cells =>
    match keys[i]? with
    | none => cells
    | some key =>
      let (moves, keys, numbers) := (m.targets key).foldl
        (fun (moves, keys, numbers) (c, target, blank) =>
          match numbers[target]? with
          | some n => (moves.push ⟨c, n, blank⟩, keys, numbers)
          | none =>
            let n := base + keys.size
            (moves.push ⟨c, n, blank⟩, keys.push target, numbers.insert target n))
        ((#[] : Array Move), keys, numbers)
      let accepts := (key.1 && m.whole.empty) || key.2.any fun i => m.whole.last.contains i
      m.explore base fuel (i + 1) keys numbers
        (cells.push { token := m.token, accepts, waits := key.1 && !m.blanks.isEmpty, moves })

/-- The pattern of a token. -/
def Lexeme.pattern (t : Lexeme) : Pattern :=
  match t.shape with
  | .spelled s => .text s
  | .pattern p => p

/-- The automata of the tokens of a grammar. -/
def Outline.recognizer (o : Outline) : Recognizer := Id.run do
  let looks := o.tokens.map fun t => t.lexeme.map fun l => (l, l.pattern)
  let sets := looks.toList.flatMap fun look => (look.map fun (_, p) => p.sets).getD []
  let alphabet := Alphabet.ofSets
    (blanks :: .single '\x00' :: ⟨[(CharSet.last, CharSet.last)]⟩ :: sets)
  let mut cells : Array Cell := #[]
  let mut starts : Array (Option Nat) := #[]
  for h : i in [0:looks.size] do
    match looks[i] with
    | none => starts := starts.push none
    | some (lexeme, pattern) =>
      let (whole, places) := pattern.fragment alphabet.classesOf #[]
      let m : Making :=
        { token := i, places, whole, count := alphabet.count
          blanks := if lexeme.immediate then [] else alphabet.classesOf blanks }
      let base := cells.size
      let start : CellKey := (true, [])
      cells := m.explore base 10000 0 #[start] (({} : Std.HashMap CellKey Nat).insert start base)
        cells
      starts := starts.push (some base)
  return { alphabet, cells, starts }

end Overdue.Syntax
