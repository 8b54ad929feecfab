/-
Merging states.

States with the same core do the same things, but some of them do so for more tokens than others. Such
states are merged where that cannot be noticed on a text without errors: no token may be treated in two
ways, and a token that only one of them knows must not get in the way of what the other one looks for.
Whatever the symbols then lead to must have been merged as well.
-/
import Overdue.Syntax.Lexicon

set_option autoImplicit false

namespace Overdue.Syntax

/-! ## Groups -/

/-- A partition of the states. -/
structure Grouping where
  /-- The group of each state. -/
  groupOf : Array Nat
  /-- The states of each group, in increasing order. -/
  members : Array (Array Nat)

namespace Grouping

/-- The group of a state. -/
def get (g : Grouping) (state : Nat) : Nat := g.groupOf.getD state 0

/-- Moves some states of a group to a new one. -/
def split (g : Grouping) (group : Nat) (kept moved : Array Nat) : Grouping :=
  let new := g.members.size
  { groupOf := moved.foldl (fun acc s => acc.set! s new) g.groupOf
    members := (g.members.set! group kept).push moved }

/-- Groups the states by their cores. -/
def ofCores (a : Automaton) : Grouping :=
  { groupOf := a.states.map (·.core)
    members := (a.states.foldl (fun (acc, i) s => (acc.modify s.core fun m : Array Nat => m.push i, i + 1))
      (Array.replicate a.cores.size #[], 0)).1 }

end Grouping

/-! ## What keeps states apart -/

/-- What is needed to compare states. -/
structure Merger where
  frame : Frame
  automaton : Automaton
  valid : Array TokenSet
  /-- For each token, those beside which it must not be looked for. -/
  hazards : Array TokenSet
  /-- The tokens that no state may gain. -/
  barred : TokenSet

namespace Merger

/-- The core of a state. -/
def coreOf (m : Merger) (s : State) : Core := m.automaton.cores.getD s.core default

/-- What a state does with a token. -/
def decision (m : Merger) (s : State) (token : Nat) : Decision :=
  let core := m.coreOf s
  let active := (List.range core.complete.size).filterMap fun i =>
    if (m.automaton.looks.get (s.complete.getD i 0)).contains token then
      (core.complete[i]?).map (·.1)
    else none
  let canShift := core.edges.any fun e => e.symbol == .token token
  decide m.frame core.kernel token canShift active

/-- The tokens after the complete productions of a state. -/
def completing (m : Merger) (s : State) : TokenSet :=
  s.complete.foldl (fun acc i => acc.union (m.automaton.looks.get i)) .empty

/-- Whether a token that only one of two states knows gets in the way of the other one. -/
def intrudes (m : Merger) (known other : TokenSet) : Bool :=
  let new := known.diff other
  new.meets m.barred || new.any fun t => (m.hazards.getD t .empty).meets other

/-- The tokens for which different productions are complete in two states of the same core. -/
def unlike (m : Merger) (s t : State) : TokenSet :=
  (List.range s.complete.size).foldl
    (fun acc i =>
      let x := m.automaton.looks.get (s.complete.getD i 0)
      let y := m.automaton.looks.get (t.complete.getD i 0)
      acc.union ((x.diff y).union (y.diff x)))
    .empty

/-- Whether the edges of two states of a core lead to different groups, from a given edge on. An edge
for a token that a state does not follow does not count, and edges for rules only count if asked
for. -/
def divided (m : Merger) (g : Grouping) (rules : Bool) (core : Core) (s t : State) (i : Nat) : Bool :=
  if h : i < core.edges.size then
    let x := s.targets.getD i 0
    let y := t.targets.getD i 0
    if x != y && g.get x != g.get y &&
        (match core.edges[i].symbol with
          | .token token =>
            !(m.completing s).contains token || (m.decision s token).shift.isSome
          | .rule _ => rules) then true
    else divided m g rules core s t (i + 1)
  else false
termination_by core.edges.size - i

/-- Whether two states of the same core must be kept apart. -/
def conflict (m : Merger) (g : Grouping) (l r : Nat) : Bool :=
  let s := m.automaton.states.getD l default
  let t := m.automaton.states.getD r default
  let x := m.valid.getD l .empty
  let y := m.valid.getD r .empty
  (s.complete != t.complete &&
    (m.intrudes x y || m.intrudes y x ||
      ((m.unlike s t).inter (x.inter y)).any fun token => m.decision s token != m.decision t token)) ||
    m.divided g false (m.coreOf s) s t 0

/-! ## Splitting groups -/

/-- Splits a list of states: those that are kept, in turn, send away all later ones that they do not
go with. States that have the same signature as an earlier one that was kept send away the same ones,
and need not be asked. -/
def sendAway (apart : Nat → Nat → Bool) (signature : Nat → Array Nat) :
    Nat → List Nat → List (Array Nat) → Array Nat → List Nat → Array Nat × List Nat
  | 0, _, _, kept, moved => (kept, moved)
  | _ + 1, [], _, kept, moved => (kept, moved)
  | fuel + 1, l :: rest, seen, kept, moved =>
    let mine := signature l
    if seen.contains mine then sendAway apart signature fuel rest seen (kept.push l) moved
    else
      let (go, stay) := rest.partition (apart l)
      sendAway apart signature fuel stay (mine :: seen) (kept.push l) (moved ++ go)

/-- Splits the groups one after the other by what keeps states apart, those that come up on the way
included. -/
def separate (m : Merger) : Nat → Nat → Grouping → Grouping
  | 0, _, g => g
  | fuel + 1, group, g =>
    if group < g.members.size then
      let states := g.members.getD group #[]
      let signature := fun i =>
        let s := m.automaton.states.getD i default
        s.complete ++ s.targets.map g.get
      let (kept, moved) :=
        sendAway (m.conflict g) signature (states.size + 1) states.toList [] #[] []
      m.separate fuel (group + 1)
        (if moved.isEmpty then g else g.split group kept moved.toArray)
    else g

/-- Splits the groups one after the other by where their states lead to: those that lead elsewhere than
the first one go to a new group. Returns whether there was anything to split. -/
def refine (m : Merger) : Nat → Nat → Grouping → Bool → Grouping × Bool
  | 0, _, g, changed => (g, changed)
  | fuel + 1, group, g, changed =>
    if group < g.members.size then
      let states := g.members.getD group #[]
      let s := m.automaton.states.getD (states.getD 0 0) default
      let core := m.coreOf s
      let (moved, kept) := if states.size < 2 then (#[], states) else
        states.partition fun i =>
          m.divided g true core s (m.automaton.states.getD i default) 0
      if moved.isEmpty then m.refine fuel (group + 1) g changed
      else m.refine fuel (group + 1) (g.split group kept moved) true
    else (g, changed)

/-- Splits groups until the states of each group lead to the same groups. -/
def settle (m : Merger) (bound : Nat) : Nat → Grouping → Grouping
  | 0, g => g
  | fuel + 1, g =>
    match m.refine bound 0 g false with
    | (g, true) => settle m bound fuel g
    | (g, false) => g

/-- The groups of states to be merged. -/
def grouping (m : Merger) : Grouping :=
  let bound := m.automaton.states.size + 1
  m.settle bound bound (m.separate bound 0 (.ofCores m.automaton))

end Merger

/-- What is needed to compare states. A word and a keyword can be looked for side by side. -/
def Merger.ofLexicon (f : Frame) (a : Automaton) (valid : Array TokenSet) (l : Lexicon) : Merger :=
  let count := f.outline.tokens.size
  let word := f.outline.word
  let scanned := (List.range (count + 1)).filter fun t => f.outline.scannerStart ≤ t
  { frame := f, automaton := a, valid
    barred := .ofList scanned
    hazards := (Array.range count).map fun t =>
      let set := l.overlaps.conflicts t
      if t = word then set.diff l.keywords
      else if l.keywords.contains t then set.diff (.singleton word)
      else set }

end Overdue.Syntax
