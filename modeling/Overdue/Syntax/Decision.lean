/-
Which of several actions to take.

In a state, the next token may complete productions and may as well be read on. Precedences decide
between these where they can: among complete productions the highest level stays; reading on wins over
a lower level, loses against a higher one, and at the same level the leaning decides. What is left
after that is all kept, and the parser follows each of it.

A repetition that can be put together in two ways is no question of precedence: it is put together
first, and that the token could be read on is kept only to be seen.
-/
import Overdue.Syntax.Automaton

set_option autoImplicit false

namespace Overdue.Syntax

/-! ## Comparing levels -/

/-- A level as a number; no level is level zero. -/
def levelOf (level : Option Int) : Int := level.getD 0

/-- The order of leanings: none, to the left, to the right. -/
def assocRank : Option Assoc → Nat
  | none => 0
  | some .left => 1
  | some .right => 2

/-- The order in which complete productions are considered: shorter ones first, then by rule, weight,
level and leaning. -/
def Position.precedes (p q : Position) : Bool :=
  if p.dot ≠ q.dot then p.dot < q.dot
  else if p.head ≠ q.head then p.head < q.head
  else if p.weight ≠ q.weight then p.weight < q.weight
  else if p.level ≠ q.level then
    match p.level, q.level with
    | none, _ => true
    | some _, none => false
    | some x, some y => x ≤ y
  else assocRank p.assoc ≤ assocRank q.assoc

/-! ## Reductions -/

/-- The reductions that are left after comparing their levels, and what is known of them. -/
structure Reductions where
  positions : List Nat := []
  level : Int := 0
  left : Bool := false
  right : Bool := false
  neither : Bool := false

/-- Takes another reduction into account: a higher level replaces what was there, a lower one is
dropped. -/
def Reductions.add (f : Frame) (r : Reductions) (number : Nat) : Reductions :=
  let p := f.positions.get number
  let level := levelOf p.level
  if !r.positions.isEmpty && level < r.level then r
  else
    let base : Reductions := if r.positions.isEmpty || r.level < level then {} else r
    { positions := base.positions ++ [number]
      level
      left := base.left || p.assoc = some .left
      right := base.right || p.assoc = some .right
      neither := base.neither || p.assoc = none }

/-! ## Decisions -/

/-- What to do with a token: complete some productions, and read on or not. -/
structure Decision where
  reductions : List Nat
  /-- Whether to read on; if so, whether that is only kept to be seen. -/
  shift : Option Bool
deriving DecidableEq, Inhabited

/-- Decides between reading on and the productions that a token completes in a core. -/
def decide (f : Frame) (kernel : Array Nat) (token : Nat) (canShift : Bool) (complete : List Nat) :
    Decision :=
  let ordered := complete.mergeSort fun x y => (f.positions.get x).precedes (f.positions.get y)
  let reductions := ordered.foldl (Reductions.add f) {}
  let reduces := reductions.positions
  if !canShift then ⟨reduces, none⟩
  else if reduces.isEmpty then ⟨[], some false⟩
  else
    let positions := kernel.toList.flatMap fun number => (f.bundles.get number).positions
    let shifting := positions.filter fun number =>
      let p := f.positions.get number
      p.dot > 0 && (p.next.map fun s => (s.edge f.first).contains token).getD false
    let heads := (shifting ++ complete).map fun number => (f.positions.get number).head
    let repeats := match heads with
      | [] => false
      | h :: rest => rest.all (· == h) && (f.outline.rules.getD h default).repetition
    if repeats then ⟨reduces, some true⟩
    else
      let levels := shifting.map fun number => levelOf (f.positions.get number).level
      let more := levels.any (· > reductions.level)
      let less := levels.any (· < reductions.level)
      if more && !less then ⟨[], some false⟩
      else if less && !more then ⟨reduces, none⟩
      else if !more && !less && reductions.left && !reductions.right && !reductions.neither then
        ⟨reduces, none⟩
      else if !more && !less && reductions.right && !reductions.left && !reductions.neither then
        ⟨[], some false⟩
      else ⟨reduces, some false⟩

end Overdue.Syntax
