/-
Positions in productions.

While a text is read, a production is known by how far it has been read. Two productions of a rule
that agree on all that is still to come, and on how what was read will show, need not be told apart
any more: they share a position. Positions are numbered, and each knows the position after the next
symbol. Positions of the same rule that have been read equally far go together in bundles.
-/
import Std.Data.HashMap
import Overdue.Syntax.Production
import Overdue.Syntax.TokenSet

set_option autoImplicit false

namespace Overdue.Syntax

/-! ## Names that shine through -/

/-- Whether a step hands on names: those of a rule that does not show belong to the rule above. -/
def Outline.handsOn (o : Outline) (named : Array Bool) (s : Step) : Bool :=
  match s.symbol with
  | .token _ => false
  | .rule r =>
    let info := o.rules.getD r default
    s.display.isNone && !info.visible && !info.group && named.getD r false

/-- One round of marking the rules that have names for some of their parts. -/
def Outline.growNamed (o : Outline) (named : Array Bool) : Array Bool :=
  o.productions.foldl
    (fun acc p =>
      if p.steps.any fun s => s.field.isSome || o.handsOn acc s then acc.setIfInBounds p.head true
      else acc)
    named

/-- The rules that have names for some of their parts. A round for each rule is enough. -/
def Outline.namedRules (o : Outline) : Array Bool :=
  let rec go : Nat → Array Bool → Array Bool
    | 0, named => named
    | n + 1, named =>
      let next := o.growNamed named
      if next = named then named else go n next
  go o.rules.size (Array.replicate (o.rules.size + 1) false)

/-- Whether a symbol is a rule without a name of its own that has names for some of its parts. -/
def Outline.isThrough (o : Outline) (named : Array Bool) : Symbol → Bool
  | .token _ => false
  | .rule r => !(o.rules.getD r default).declared && named.getD r false

/-- Whether a production leaves its parts as they are: none shows under another kind or has a name. -/
def Outline.isPlain (o : Outline) (named : Array Bool) (p : Production) : Bool :=
  p.steps.all fun s => s.display.isNone && s.field.isNone && !o.isThrough named s.symbol

/-! ## Positions -/

/-- A production, read up to a place. -/
structure Position where
  head : Nat
  /-- The first of the productions that share the position. -/
  production : Nat
  /-- How many places have been read. -/
  dot : Nat
  /-- How many places there are. -/
  length : Nat
  weight : Int
  /-- The level that holds here. -/
  level : Option Int
  /-- The leaning that holds here. -/
  assoc : Option Assoc
  /-- What is to be read next. -/
  next : Option Symbol
  /-- What is to be read after that. -/
  after : Option Symbol
  /-- The position after the next symbol. -/
  successor : Nat
deriving Inhabited

/-- What tells positions apart: the rule, the length, what holds here, how the places that were read
show, and all of the places that are left. -/
structure PositionKey where
  head : Nat
  dot : Nat
  length : Nat
  weight : Int
  level : Option Int
  assoc : Option Assoc
  before : List (Option Display × Option String × Option Symbol)
  remaining : List Step
deriving DecidableEq, Hashable

/-- What tells a position apart. The symbols that were read count where one of them hands on names,
because the names then belong to that symbol. -/
def Production.keyAt (p : Production) (through : Symbol → Bool) (dot : Nat) : PositionKey :=
  let read := p.steps.take dot
  let mixed := read.any fun s => through s.symbol
  let last := read.getLast?
  { head := p.head, dot, length := p.steps.length, weight := p.weight
    level := last.bind (·.level), assoc := last.bind (·.assoc)
    before := read.map fun s => (s.display, s.field, if mixed then some s.symbol else none)
    remaining := p.steps.drop dot }

/-- The positions of a grammar. -/
structure Positions where
  table : Array Position
  /-- The position at the start of each production. -/
  starts : Array Nat

/-- The position with a number. -/
def Positions.get (ps : Positions) (i : Nat) : Position := ps.table.getD i default

/-- Numbers the positions of one production, the last one first, and returns the one at its start. -/
def addPositions (through : Symbol → Bool) (number : Nat) (p : Production)
    (numbers : Std.HashMap PositionKey Nat) (table : Array Position) :
    Nat × Std.HashMap PositionKey Nat × Array Position :=
  let length := p.steps.length
  (List.range (length + 1)).reverse.foldl
    (fun (successor, numbers, table) dot =>
      let key := p.keyAt through dot
      match numbers[key]? with
      | some i => (i, numbers, table)
      | none =>
        let i := table.size
        let here : Position :=
          { head := p.head, production := number, dot, length, weight := p.weight
            level := key.level, assoc := key.assoc
            next := (p.steps[dot]?).map (·.symbol), after := (p.steps[dot + 1]?).map (·.symbol)
            successor }
        (i, numbers.insert key i, table.push here))
    (0, numbers, table)

/-- The positions of all productions. -/
def Outline.positions (o : Outline) : Positions := Id.run do
  let named := o.namedRules
  let mut numbers : Std.HashMap PositionKey Nat := {}
  let mut table : Array Position := #[]
  let mut starts : Array Nat := #[]
  for h : i in [0:o.productions.size] do
    let (start, numbers', table') := addPositions (o.isThrough named) i o.productions[i] numbers table
    numbers := numbers'
    table := table'
    starts := starts.push start
  return ⟨table, starts⟩

/-! ## What can start, end and begin -/

/-- The tokens that a symbol can start or end with, given the sets found so far for the rules. -/
def Symbol.edge (sets : Array TokenSet) : Symbol → TokenSet
  | .token i => .singleton i
  | .rule i => sets.getD i .empty

/-- One round of adding to each rule the tokens at an end of its productions. -/
def growEdges (pick : List Step → Option Step) (productions : Array Production)
    (sets : Array TokenSet) : Array TokenSet :=
  productions.foldl
    (fun acc p =>
      match pick p.steps with
      | some s => acc.modify p.head (·.union (s.symbol.edge acc))
      | none => acc)
    sets

/-- The tokens at an end of each rule: rounds are repeated until nothing is new, which takes at most
one round for each rule. -/
def Outline.edgeSets (o : Outline) (pick : List Step → Option Step) : Array TokenSet :=
  let count := o.rules.size + 1
  let rec go : Nat → Array TokenSet → Array TokenSet
    | 0, sets => sets
    | n + 1, sets =>
      let next := growEdges pick o.productions sets
      if next = sets then sets else go n next
  go count (Array.replicate count .empty)

/-- The tokens that each rule can start with. -/
def Outline.firstSets (o : Outline) : Array TokenSet := o.edgeSets List.head?

/-- The tokens that each rule can end with. -/
def Outline.lastSets (o : Outline) : Array TokenSet := o.edgeSets List.getLast?

/-- A rule that can begin where another one begins. -/
structure Reach where
  rule : Nat
  /-- The tokens that can follow it there. -/
  follow : TokenSet
  /-- Whether what follows the other rule can follow it too. -/
  passes : Bool
deriving Inhabited

/-- The rules in the first place of a production and the tokens that can follow them there; no token
set means that the rule ends the production. -/
def Production.lead? (first : Array TokenSet) (p : Production) : Option (Nat × Option TokenSet) :=
  match p.steps with
  | { symbol := .rule r, .. } :: rest => some (r, rest.head?.map (·.symbol.edge first))
  | _ => none

/-- The rules that can begin where a rule begins. Each round follows the leads of what was found so
far; a rule is found again only with more tokens, so the rounds end. -/
def reachFrom (leads : Array (List (Nat × Option TokenSet))) (count start : Nat) : Array Reach :=
  let rec go : Nat → List Nat → Array (Option (TokenSet × Bool)) → Array (Option (TokenSet × Bool))
    | 0, _, found => found
    | _ + 1, [], found => found
    | n + 1, r :: queue, found =>
      match found.getD r none with
      | none => go n queue found
      | some (follow, passes) =>
        let (queue, found) := (leads.getD r []).foldl
          (fun (queue, found) (target, next?) =>
            let (add, pass) := match next? with
              | some next => (next, false)
              | none => (follow, passes)
            match found.getD target none with
            | none => (target :: queue, found.set! target (some (add, pass)))
            | some (old, oldPass) =>
              let new := old.union add
              let newPass := oldPass || pass
              if new = old && newPass == oldPass then (queue, found)
              else (target :: queue, found.set! target (some (new, newPass))))
          (queue, found)
        go n queue found
  let found := go (count * count * 8) [start]
    ((Array.replicate count none).set! start (some (.empty, true)))
  (Array.range count).filterMap fun r =>
    (found.getD r none).map fun (follow, passes) => ⟨r, follow, passes⟩

/-- For each rule, the rules that can begin where it begins. -/
def Outline.reach (o : Outline) (first : Array TokenSet) : Array (Array Reach) :=
  let count := o.rules.size + 1
  let leads := o.productions.foldl
    (fun (acc : Array (List (Nat × Option TokenSet))) p =>
      match p.lead? first with
      | some lead => acc.modify p.head fun known => if lead ∈ known then known else lead :: known
      | none => acc)
    (Array.replicate count [])
  (Array.range count).map (reachFrom leads count)

/-! ## Bundles -/

/-- Positions of productions of the same rule, read equally far. They are at the same place of a text
together, and the same tokens can come after them. -/
structure Bundle where
  /-- The positions, in increasing order. -/
  positions : List Nat
  /-- The bundle after each symbol that can come next. -/
  successors : List (Symbol × Nat)
  /-- The positions at which the productions are complete. -/
  complete : List Nat
  /-- The rules that can begin here, with the tokens that can always follow them, and whether what
  comes after the bundle can. -/
  begins : List Reach
deriving Inhabited

/-- The bundles of a grammar. -/
structure Bundles where
  table : Array Bundle
  numbers : Std.HashMap (List Nat) Nat

namespace Bundles

/-- The bundle with a number. -/
def get (b : Bundles) (i : Nat) : Bundle := b.table.getD i default

/-- The number of the bundle of some positions. -/
def number (b : Bundles) (positions : List Nat) : Nat × Bundles :=
  match b.numbers[positions]? with
  | some i => (i, b)
  | none =>
    let i := b.table.size
    (i, { table := b.table.push { positions, successors := [], complete := [], begins := [] }
          numbers := b.numbers.insert positions i })

end Bundles

/-- The rules that can begin at some positions. -/
def beginsAt (first : Array TokenSet) (reach : Array (Array Reach)) (positions : List Position) :
    List Reach :=
  let leads := positions.filterMap fun p =>
    match p.next with
    | some (.rule r) => some (r, p.after)
    | _ => none
  let found := (firstCopies leads).foldl
    (fun (acc : Std.HashMap Nat Reach) (r, after) =>
      (reach.getD r #[]).foldl
        (fun acc x =>
          let old := acc.getD x.rule ⟨x.rule, .empty, false⟩
          let follow := match after with
            | some s => if x.passes then x.follow.union (s.edge first) else x.follow
            | none => x.follow
          acc.insert x.rule
            ⟨x.rule, old.follow.union follow, old.passes || (x.passes && after.isNone)⟩)
        acc)
    {}
  found.toList.map (·.2)

/-- Finds what the bundles lead to, one after the other, until all have been seen. -/
def Bundles.explore (ps : Positions) (first : Array TokenSet) (reach : Array (Array Reach)) :
    Nat → Nat → Bundles → Bundles
  | 0, _, b => b
  | fuel + 1, i, b =>
    match b.table[i]? with
    | none => b
    | some bundle =>
      let positions := bundle.positions.map ps.get
      let symbols := firstCopies (positions.filterMap (·.next))
      let (successors, b) := symbols.foldl
        (fun (acc, b) symbol =>
          let after := positions.filterMap fun p =>
            if p.next == some symbol then some p.successor else none
          let (n, b) := Bundles.number b (firstCopies after |>.mergeSort (· ≤ ·))
          ((symbol, n) :: acc, b))
        (([] : List (Symbol × Nat)), b)
      let filled : Bundle :=
        { bundle with
          successors := successors.reverse
          complete := bundle.positions.filter fun i => (ps.get i).next.isNone
          begins := beginsAt first reach positions }
      explore ps first reach fuel (i + 1) { b with table := b.table.setIfInBounds i filled }

/-- The bundles of a grammar. The first ones are the starts of the rules, in the order of the rules. -/
def Outline.bundles (o : Outline) (ps : Positions) (first : Array TokenSet)
    (reach : Array (Array Reach)) : Bundles :=
  let starts := (o.productions.foldl
    (fun (acc, i) p => (acc.modify p.head fun known : List Nat => ps.starts.getD i 0 :: known, i + 1))
    (Array.replicate (o.rules.size + 1) [], 0)).1
  let table := starts.map fun positions =>
    { positions := positions.mergeSort (· ≤ ·), successors := [], complete := [], begins := []
      : Bundle }
  Bundles.explore ps first reach 1000000 0 ⟨table, {}⟩

end Overdue.Syntax
