/-
How tokens get in each other's way.

Two tokens can match the same text; one can match the beginning of what the other one matches; or one
can match blanks that only separate the other one from what is before it. In a state where both could
come next, such tokens are told apart by priority and length. Where only one of them can come next, the
other one must not be looked for, or it would be taken instead. `Overlaps` says for each pair of tokens
in which of these ways they meet, by following the automata of both at once.
-/
import Overdue.Syntax.Recognizer
import Overdue.Syntax.Automaton

set_option autoImplicit false

namespace Overdue.Syntax

/-! ## Preferences -/

/-- What decides between tokens that match the same text. -/
structure Claim where
  token : Nat
  priority : Int
  rank : Nat
  place : Nat

/-- How much a token is preferred for the way it is described: a spelling before a pattern, and a token
that follows at once before one that need not. -/
def Lexeme.rank (t : Lexeme) : Nat :=
  let base := match t.shape with
    | .spelled _ => 2
    | .pattern _ => 0
  if t.immediate then base + 1 else base

/-- The claim of a token. -/
def Outline.claim (o : Outline) (token : Nat) : Claim :=
  let info := o.tokens.getD token default
  { token, place := info.place
    priority := (info.lexeme.map (·.priority)).getD 0, rank := (info.lexeme.map (·.rank)).getD 0 }

/-- Whether a token is preferred to another one that matches the same text. -/
def Claim.beats (a b : Claim) : Bool :=
  if a.priority ≠ b.priority then a.priority > b.priority
  else if a.rank ≠ b.rank then a.rank > b.rank
  else a.place < b.place

/-- Whether to go on where a token is complete already: with a move of some priority, which reads a
blank or not, and after which the complete token is still possible or not. `waits` tells whether
blanks can be read here. -/
def goesOn (priority : Int) (blank still : Bool) (complete : Int) (waits : Bool) : Bool :=
  if priority < complete then false
  else if priority = complete then !blank && (!waits || still)
  else true

/-! ## Pairs of tokens -/

/-- The ways in which a token meets another one. -/
structure Meeting where
  /-- The token is taken although the other one could go on. -/
  begins : Bool := false
  /-- The token goes on where the other one is complete. -/
  continues : Bool := false
  /-- It does so with a character that can come after the other one. -/
  follows : Bool := false
  /-- The token is complete where blanks are read. -/
  blanks : Bool := false
  /-- The token is preferred for a text that both match. -/
  same : Bool := false
  /-- The token matches something that the other one does not. -/
  other : Bool := false
deriving DecidableEq, Inhabited

/-- A token of a pair: its claim and the letters that can come after it. -/
structure Party where
  claim : Claim
  after : Array Bool

/-- The moves of two cells for the same letters. -/
def joinMoves : Nat → List Move → List Move → List (Nat × Option Move × Option Move)
  | 0, _, _ => []
  | _ + 1, [], [] => []
  | fuel + 1, m :: ms, [] => (m.letter, some m, none) :: joinMoves fuel ms []
  | fuel + 1, [], n :: ns => (n.letter, none, some n) :: joinMoves fuel [] ns
  | fuel + 1, m :: ms, n :: ns =>
    if m.letter < n.letter then (m.letter, some m, none) :: joinMoves fuel ms (n :: ns)
    else if n.letter < m.letter then (n.letter, none, some n) :: joinMoves fuel (m :: ms) ns
    else (m.letter, some m, some n) :: joinMoves fuel ms ns

/-- The priority of a move: blanks have none. -/
def Move.priority (m : Move) (c : Claim) : Int := if m.blank then 0 else c.priority

/-- What a pair of cells says about the two tokens. -/
def meetHere (x y : Party) (a b : Cell) (found : Meeting × Meeting) : Meeting × Meeting :=
  let waits := a.waits || b.waits
  let (p, q) := found
  let p := if a.accepts && waits then { p with blanks := true } else p
  let q := if b.accepts && waits then { q with blanks := true } else q
  if a.accepts && b.accepts then
    if x.claim.beats y.claim then ({ p with same := true }, q) else (p, { q with same := true })
  else (p, q)

/-- What a move on which one token ends says: `mine` is the meeting of the token that is complete,
`theirs` that of the one that could go on. -/
def meetMove (complete other : Party) (waits : Bool) (letter : Nat) (move : Move)
    (mine theirs : Meeting) : Meeting × Meeting :=
  if goesOn (move.priority other.claim) move.blank false complete.claim.priority waits then
    let valid := complete.after.getD letter false
    (mine, { theirs with continues := true, follows := theirs.follows || valid })
  else ({ mine with begins := true }, theirs)

/-- What the moves of a pair of cells say, and the pairs of cells that they lead to. -/
def meetMoves (x y : Party) (a b : Cell) (found : Meeting × Meeting) :
    (Meeting × Meeting) × List (Nat × Nat) :=
  let waits := a.waits || b.waits
  let xWins := a.accepts && (!b.accepts || x.claim.beats y.claim)
  let yWins := b.accepts && !xWins
  let joined := joinMoves (a.moves.size + b.moves.size + 1) a.moves.toList b.moves.toList
  joined.foldl
    (fun ((p, q), next) (letter, m?, n?) =>
      match m?, n? with
      | some m, some n => ((p, q), (m.target, n.target) :: next)
      | some m, none =>
        let p := { p with other := true }
        if yWins then
          let (q, p) := meetMove y x waits letter m q p
          ((p, q), next)
        else ((p, q), next)
      | none, some n =>
        let q := { q with other := true }
        if xWins then (meetMove x y waits letter n p q, next) else ((p, q), next)
      | none, none => ((p, q), next))
    (found, [])

/-- Follows two automata at once, pair of cells by pair of cells. -/
def meet (r : Recognizer) (x y : Party) :
    Nat → List (Nat × Nat) → Std.HashSet (Nat × Nat) → Meeting × Meeting → Meeting × Meeting
  | 0, _, _, found => found
  | _ + 1, [], _, found => found
  | fuel + 1, (i, j) :: queue, seen, found =>
    let a := r.cell i
    let b := r.cell j
    let found := meetHere x y a b found
    let (found, next) := meetMoves x y a b found
    let (queue, seen) := next.foldl
      (fun (queue, seen) pair =>
        if seen.contains pair then (queue, seen) else (pair :: queue, seen.insert pair))
      (queue, seen)
    meet r x y fuel queue seen found

/-! ## All pairs -/

/-- The ways in which all tokens meet: for each token, the set of those that it meets in each way. -/
structure Overlaps where
  begins : Array TokenSet
  continues : Array TokenSet
  follows : Array TokenSet
  blanks : Array TokenSet
  same : Array TokenSet
  other : Array TokenSet

/-- Notes how a token meets another one. -/
def Overlaps.add (o : Overlaps) (i j : Nat) (m : Meeting) : Overlaps :=
  let put := fun (sets : Array TokenSet) (b : Bool) => if b then sets.modify i (·.insert j) else sets
  { begins := put o.begins m.begins, continues := put o.continues m.continues
    follows := put o.follows m.follows, blanks := put o.blanks m.blanks
    same := put o.same m.same, other := put o.other m.other }

/-- The tokens that can come right after each token. -/
def Frame.following (f : Frame) : Array TokenSet := Id.run do
  let o := f.outline
  let last := o.lastSets
  let mut sets : Array TokenSet := Array.replicate o.tokens.size .empty
  for p in o.productions do
    for (s, t) in p.steps.zip (p.steps.drop 1) do
      let right := t.symbol.edge f.first
      sets := (s.symbol.edge last).fold (fun sets token => sets.modify token (·.union right)) sets
  let all := TokenSet.ofList (List.range o.scannerStart)
  for extra in o.extras do
    match extra with
    | .token e =>
      sets := sets.map (·.insert e)
      sets := sets.set! e all
    | .rule _ => pure ()
  return sets

/-- The letters that a token can start with, blanks before it included. -/
def Recognizer.startLetters (r : Recognizer) (token : Nat) : List Nat :=
  match r.starts.getD token none with
  | some start => ((r.cell start).moves.map (·.letter)).toList
  | none => []

/-- The letters that can come right after each token. -/
def Recognizer.lettersAfter (r : Recognizer) (following : Array TokenSet) : Array (Array Bool) :=
  following.map fun tokens =>
    tokens.fold
      (fun (acc : Array Bool) t => (r.startLetters t).foldl (fun acc c => acc.set! c true) acc)
      (Array.replicate r.alphabet.count false)

/-- How the tokens of a grammar meet. -/
def Recognizer.overlaps (r : Recognizer) (f : Frame) : Overlaps := Id.run do
  let count := f.outline.tokens.size
  let after := r.lettersAfter f.following
  let party := fun t => ({ claim := f.outline.claim t, after := after.getD t #[] } : Party)
  let parties := (Array.range count).map party
  let none := Array.replicate count TokenSet.empty
  let mut o : Overlaps := ⟨none, none, none, none, none, none⟩
  for i in [0:count] do
    match r.starts.getD i .none with
    | .none => pure ()
    | some a =>
      for j in [0:i] do
        match r.starts.getD j .none with
        | .none => pure ()
        | some b =>
          let (m, n) := meet r (parties.getD i (party i)) (parties.getD j (party j)) 100000 [(a, b)]
            {} ({}, {})
          o := (o.add i j m).add j i n
  return o

namespace Overlaps

/-- The set of an array of sets for a token. -/
def pick (sets : Array TokenSet) (i : Nat) : TokenSet := sets.getD i .empty

/-- The tokens beside which a token cannot be looked for unless both are meant: it would be taken for
what the other one is followed by, or instead of it. -/
def conflicts (o : Overlaps) (i : Nat) : TokenSet :=
  ((pick o.follows i).union (pick o.blanks i)).union (pick o.same i)

/-- The tokens that a token meets in any way. -/
def meetings (o : Overlaps) (i : Nat) : TokenSet :=
  ((pick o.blanks i).union (pick o.begins i)).union ((pick o.same i).union (pick o.continues i))

/-- Whether a token can match more or less than another one, blanks before the other one apart. -/
def differs (o : Overlaps) (i j : Nat) : Bool :=
  ((pick o.follows i).contains j || (pick o.blanks i).contains j) && !(pick o.blanks j).contains i

/-- How a token meets another one. -/
def meeting (o : Overlaps) (i j : Nat) : Meeting :=
  { begins := (pick o.begins i).contains j, continues := (pick o.continues i).contains j
    follows := (pick o.follows i).contains j, blanks := (pick o.blanks i).contains j
    same := (pick o.same i).contains j, other := (pick o.other i).contains j }

end Overlaps

end Overdue.Syntax
