/-
The states of a left-to-right parser.

A state is a set of bundles of positions that a reader of the text can be at, each with the tokens that
can come after the whole productions. States that agree in their bundles have a core in common. What
follows from a core is found once: its successors, and for every bundle of a successor which tokens can
come after it, some of them fixed and some carried over from bundles of the core. The states are then
numbered one after the other, beginning with the start of a text, by looking up where each symbol
leads to.

State 0 is the state of a parser that has lost track; it has no positions. State 1 is the start. The
states after that are those behind the first token of a rule that may stand anywhere, such as a
comment; such a rule ends whatever comes next, which is written down as a token of its own.
-/
import Overdue.Syntax.Position

set_option autoImplicit false

namespace Overdue.Syntax

/-! ## A pool of token sets -/

/-- Token sets that are known by numbers, and the unions that have been formed of them. Number 0 is
the empty set. -/
structure LookPool where
  sets : Array TokenSet
  numbers : Std.HashMap TokenSet Nat
  unions : Std.HashMap (Nat × Nat) Nat

namespace LookPool

/-- The pool of the empty set. -/
def initial : LookPool :=
  { sets := #[.empty], numbers := ({} : Std.HashMap TokenSet Nat).insert .empty 0, unions := {} }

/-- The set with a number. -/
def get (p : LookPool) (i : Nat) : TokenSet := p.sets.getD i .empty

/-- The number of a set. -/
def number (p : LookPool) (set : TokenSet) : Nat × LookPool :=
  match p.numbers[set]? with
  | some i => (i, p)
  | none =>
    let i := p.sets.size
    (i, { p with sets := p.sets.push set, numbers := p.numbers.insert set i })

/-- The number of the union of two sets. -/
def union (p : LookPool) (a b : Nat) : Nat × LookPool :=
  if a = b || b = 0 then (a, p)
  else if a = 0 then (b, p)
  else
    match p.unions[(a, b)]? with
    | some i => (i, p)
    | none =>
      let (i, p) := p.number ((p.get a).union (p.get b))
      (i, { p with unions := p.unions.insert (a, b) i })

end LookPool

/-! ## Cores and states -/

/-- Where the tokens after a bundle come from: a set that is always there, by number, and the tokens
after some bundles of the core. -/
structure Source where
  fixed : Nat
  carried : List Nat
deriving Inhabited

/-- A symbol that can come next, the core that it leads to, and the source for each bundle there. -/
structure Edge where
  symbol : Symbol
  core : Nat
  sources : Array Source
deriving Inhabited

/-- A set of bundles. -/
structure Core where
  kernel : Array Nat
  edges : Array Edge
  /-- The productions that can be complete here, by position. -/
  complete : Array (Nat × Source)
deriving Inhabited

/-- A core with the tokens that can come after each of its bundles, by number. -/
structure State where
  core : Nat
  looks : Array Nat
  /-- The states that the edges of the core lead to. -/
  targets : Array Nat
  /-- The tokens that can come after each of the complete productions, by number. -/
  complete : Array Nat
deriving Inhabited

/-- What is known of a grammar before its states are. -/
structure Frame where
  outline : Outline
  positions : Positions
  first : Array TokenSet
  bundles : Bundles
  /-- The tokens, those of the scanner first and the others in the order of the grammar. -/
  order : Array Nat
  /-- The token that stands for whatever comes after a rule that may stand anywhere. -/
  anything : Nat

/-- The states of a grammar. -/
structure Automaton where
  cores : Array Core
  coreNumbers : Std.HashMap (Array Nat) Nat
  /-- How many cores have their edges. -/
  finished : Nat
  looks : LookPool
  states : Array State
  stateNumbers : Std.HashMap (Array Nat) Nat

/-! ## What is known before -/

/-- Prepares a grammar. -/
def Outline.frame (o : Outline) : Frame :=
  let first := o.firstSets
  let positions := o.positions
  let place := fun t => (o.tokens.getD t default).place
  let scanned := (Array.range o.tokens.size).filter fun t => o.scannerStart ≤ t
  let others := (List.range o.scannerStart).drop 1 |>.mergeSort fun a b => place a ≤ place b
  { outline := o, positions, first, bundles := o.bundles positions first (o.reach first)
    order := scanned ++ others.toArray, anything := o.tokens.size }

/-- The number of rules, the one for the whole text included. -/
def Frame.ruleCount (f : Frame) : Nat := f.outline.rules.size + 1

/-! ## Edges of a core -/

/-- What can begin in a core: for each rule the tokens that can always follow it, and the bundles of the
core whose tokens can. -/
structure Begins where
  fixed : Array TokenSet
  carried : Array (List Nat)
  begun : Array Bool

/-- What can begin in a core. -/
def Frame.begins (f : Frame) (kernel : Array Nat) : Begins :=
  let count := f.ruleCount
  (kernel.foldl
    (fun (b, i) number =>
      ((f.bundles.get number).begins.foldl
        (fun (b : Begins) reach =>
          { fixed := b.fixed.modify reach.rule (·.union reach.follow)
            carried := if reach.passes then b.carried.modify reach.rule (i :: ·) else b.carried
            begun := b.begun.set! reach.rule true })
        b, i + 1))
    ({ fixed := Array.replicate count .empty, carried := Array.replicate count []
       begun := Array.replicate count false : Begins }, 0)).1

/-- The successors of a core in the making: the bundles after each symbol with the sources of what can
come after them. -/
structure Buckets where
  byToken : Array (List (Nat × Source))
  byRule : Array (List (Nat × Source))
  complete : Array (Nat × Source)

/-- Adds a bundle of a core, or one at the start of a rule. -/
def Buckets.add (f : Frame) (b : Buckets) (number : Nat) (source : Source) : Buckets :=
  let bundle := f.bundles.get number
  let b := bundle.complete.foldl
    (fun b p => { b with complete := b.complete.push (p, source) }) b
  bundle.successors.foldl
    (fun b (symbol, next) =>
      match symbol with
      | .token t => { b with byToken := b.byToken.modify t ((next, source) :: ·) }
      | .rule r => { b with byRule := b.byRule.modify r ((next, source) :: ·) })
    b

/-- Sorts the bundles of the successors of a core. -/
def Frame.buckets (f : Frame) (pool : LookPool) (kernel : Array Nat) : Buckets × LookPool := Id.run do
  let mut pool := pool
  let mut b : Buckets :=
    { byToken := Array.replicate (f.anything + 1) [], byRule := Array.replicate f.ruleCount []
      complete := #[] }
  for h : i in [0:kernel.size] do
    b := b.add f kernel[i] ⟨0, [i]⟩
  let begins := f.begins kernel
  for r in [0:f.ruleCount] do
    if begins.begun.getD r false then
      let (fixed, pool') := pool.number (begins.fixed.getD r .empty)
      pool := pool'
      b := b.add f r ⟨fixed, begins.carried.getD r []⟩
  return (b, pool)

/-! ## Finding the states -/

namespace Automaton

/-- The number of the core with a kernel. -/
def coreNumber (a : Automaton) (kernel : Array Nat) : Nat × Automaton :=
  match a.coreNumbers[kernel]? with
  | some n => (n, a)
  | none =>
    let n := a.cores.size
    (n, { a with cores := a.cores.push { kernel, edges := #[], complete := #[] }
                 coreNumbers := a.coreNumbers.insert kernel n })

/-- Turns the bundles after a symbol into an edge. -/
def addEdge (a : Automaton) (edges : Array Edge) (symbol : Symbol) (bucket : List (Nat × Source)) :
    Array Edge × Automaton :=
  if bucket.isEmpty then (edges, a)
  else
    let sorted := (bucket.mergeSort fun x y => x.1 ≤ y.1).toArray
    let (core, a) := a.coreNumber (sorted.map (·.1))
    (edges.push { symbol, core, sources := sorted.map (·.2) }, a)

/-- Finds the edges of the next core that has none yet. -/
def finishCore (f : Frame) (a : Automaton) : Automaton := Id.run do
  let number := a.finished
  let kernel := (a.cores.getD number default).kernel
  let (b, pool) := f.buckets a.looks kernel
  let mut a := { a with looks := pool, finished := number + 1 }
  let mut edges : Array Edge := #[]
  for t in f.order do
    (edges, a) := a.addEdge edges (.token t) (b.byToken.getD t [])
  for r in [0:b.byRule.size] do
    (edges, a) := a.addEdge edges (.rule r) (b.byRule.getD r [])
  let found := edges
  return { a with cores := a.cores.modify number fun c =>
    { c with edges := found, complete := b.complete } }

/-- The tokens that a source gives rise to in a state. -/
def lookOf (pool : LookPool) (looks : Array Nat) (source : Source) : Nat × LookPool :=
  source.carried.foldl (fun (acc, pool) i => pool.union acc (looks.getD i 0)) (source.fixed, pool)

/-- The number of a state. -/
def stateNumber (a : Automaton) (core : Nat) (looks : Array Nat) : Nat × Automaton :=
  let key := looks.push core
  match a.stateNumbers[key]? with
  | some n => (n, a)
  | none =>
    let n := a.states.size
    (n, { a with states := a.states.push { core, looks, targets := #[], complete := #[] }
                 stateNumbers := a.stateNumbers.insert key n })

/-- Finds where the edges of a state lead to. -/
def finishState (f : Frame) (a : Automaton) (number : Nat) : Automaton := Id.run do
  let s := a.states.getD number default
  let mut a := if s.core < a.finished then a else a.finishCore f
  let core := a.cores.getD s.core default
  let mut targets : Array Nat := Array.mkEmpty core.edges.size
  for edge in core.edges do
    let mut looks : Array Nat := Array.mkEmpty (edge.sources.size + 1)
    for source in edge.sources do
      let (look, pool) := lookOf a.looks s.looks source
      a := { a with looks := pool }
      looks := looks.push look
    let (target, a') := a.stateNumber edge.core looks
    a := a'
    targets := targets.push target
  let mut complete : Array Nat := #[]
  for (_, source) in core.complete do
    let (look, pool) := lookOf a.looks s.looks source
    a := { a with looks := pool }
    complete := complete.push look
  let found := targets
  let done := complete
  return { a with states := a.states.modify number fun s =>
    { s with targets := found, complete := done } }

/-- Goes through the states in the order in which they were found, until all have been seen; `fuel`
bounds their number. -/
def explore (f : Frame) : Nat → Nat → Automaton → Automaton
  | 0, _, a => a
  | fuel + 1, i, a => if i < a.states.size then explore f fuel (i + 1) (a.finishState f i) else a

/-- The bundles behind the first token of the rules that may stand anywhere, by token. -/
def extraKernels (f : Frame) : List (Nat × Array Nat) :=
  let starts := f.outline.extras.flatMap fun
    | .token _ => []
    | .rule r => (f.bundles.get r).successors.filterMap fun (symbol, next) =>
      match symbol with
      | .token t => some (t, next)
      | .rule _ => none
  f.order.toList.filterMap fun t =>
    let here := (starts.filter (·.1 == t)).map (·.2)
    if here.isEmpty then none else some (t, (here.mergeSort (· ≤ ·)).toArray)

/-- The states of a grammar, and the states behind the first tokens of the rules that may stand
anywhere. -/
def ofFrame (f : Frame) : Automaton × List (Nat × Nat) := Id.run do
  let mut a : Automaton :=
    { cores := #[], coreNumbers := {}, finished := 0, looks := .initial, states := #[]
      stateNumbers := {} }
  let (lost, a') := a.coreNumber #[]
  let (_, a') := a'.stateNumber lost #[]
  a := a'
  let (start, a') := a.coreNumber #[f.outline.rules.size]
  let (look, pool) := a'.looks.number (.singleton 0)
  let (_, a') := { a' with looks := pool }.stateNumber start #[look]
  a := a'
  let mut extras : List (Nat × Nat) := []
  let (look, pool) := a.looks.number (.singleton f.anything)
  a := { a with looks := pool }
  for (token, kernel) in extraKernels f do
    let (core, a') := a.coreNumber kernel
    let (state, a') := a'.stateNumber core (kernel.map fun _ => look)
    a := a'
    extras := extras ++ [(token, state)]
  return (explore f 1000000 0 a, extras)

end Automaton

end Overdue.Syntax
