/-
The parser: from a text to the best tree for it.

The parser reads a text from left to right with the tables of a grammar. Where the tables allow
several actions, it follows each of them in a version of its own, and versions that come to the same
point are merged again. A text that the grammar does not derive still gets a tree. When no version can
use the next token, the parser looks for cheap repairs:

* it inserts a token that is missing, if the rest can then go on;
* it goes back to an earlier state in which the token fits, and wraps what was read since into an
  error;
* it skips the token.

All repairs are followed side by side, versions that are clearly worse than others are dropped, and
the complete tree of the lowest cost is the result. So a tree without cost exists exactly when no
repair was needed.

Every loop is bounded by a number computed from the text, so that the parser is a total function. The
bounds are far above what a text of that length has been seen to need, but that they suffice is not
proved: a parser that comes to a bound has no tree, and what is proved of trees is proved of those that
there are.
-/
import Overdue.Syntax.Stack

set_option autoImplicit false

namespace Overdue.Syntax

/-! ## The state of the parser -/

/-- The token that was read last: where, after what the scanner remembered, and which one. -/
structure LastToken where
  bytes : Nat
  memory : Option Nat
  token : Tree

/-- A parser at work. -/
structure Parser where
  tables : Tables
  stack : Stack
  last : Option LastToken
  /-- The best complete tree so far. -/
  finished : Option Tree
  /-- How many complete trees there were. -/
  accepted : Nat

/-- A step of the parser. -/
abbrev Parse := StateM Parser

namespace Parser

/-- Applies a change to the stack. -/
def onStack (f : Stack → Stack) : Parse Unit :=
  modify fun p => { p with stack := f p.stack }

/-- Applies a change to the stack that has a result. -/
def fromStack {α : Type} (f : Stack → α × Stack) : Parse α :=
  modifyGet fun p => let (a, s) := f p.stack; (a, { p with stack := s })

/-- Reads something off the stack. -/
def look {α : Type} (f : Stack → α) : Parse α := do
  return f (← get).stack

/-- The tables of the grammar. -/
def grammar : Parse Tables := do
  return (← get).tables

/-- The actions of a state for a token. -/
def actionsOn (t : Tables) (state token : Nat) : List Action :=
  (t.rows.getD state default).actions.getD token []

/-- The actions of a state for a tree as the next token. At the end of a rule that may stand anywhere
there is no such tree, and what to do is written down under the end of the text. -/
def actionsFor (t : Tables) (state : Nat) (next : Option Tree) : List Action :=
  match next with
  | none => actionsOn t state 0
  | some tree =>
    match tree.token? with
    | some token => actionsOn t state token
    | none => []

/-! ## Comparing versions -/

/-- What versions are compared by. -/
structure Standing where
  cost : Nat
  nodes : Nat
  weight : Int
  inError : Bool

/-- How two versions compare. -/
inductive Comparison where
  | takeFirst
  | preferFirst
  | none
  | preferSecond
  | takeSecond
deriving DecidableEq

/-- The difference in cost, weighted by progress, from which on a version is clearly worse. -/
def maxCostDifference : Nat := 18 * costSkippedTree

/-- Compares two versions: one that has lost track stands behind one that has not; a lower cost is
preferred, and taken if the difference is large for the progress made. -/
def Standing.compare (a b : Standing) : Comparison :=
  if !a.inError && b.inError then
    if a.cost < b.cost then .takeFirst else .preferFirst
  else if a.inError && !b.inError then
    if b.cost < a.cost then .takeSecond else .preferSecond
  else if a.cost < b.cost then
    if (b.cost - a.cost) * (1 + a.nodes) > maxCostDifference then .takeFirst else .preferFirst
  else if b.cost < a.cost then
    if (a.cost - b.cost) * (1 + b.nodes) > maxCostDifference then .takeSecond else .preferSecond
  else if a.weight > b.weight then .preferFirst
  else if b.weight > a.weight then .preferSecond
  else .none

/-- The standing of a version. -/
def standing (v : Nat) : Parse Standing := do
  let nodes ← fromStack (·.nodesSinceError v)
  let s := (← get).stack
  let paused := s.isPaused v
  return { cost := s.cost v + (if paused then costSkippedTree else 0)
           nodes
           weight := (s.top v).weight
           inError := paused || s.state v == 0 }

/-- Whether some other version, or a complete tree, is better than what a version would become at a
given cost. -/
def betterExists (v : Nat) (inError : Bool) (cost : Nat) : Parse Bool := do
  if let some t := (← get).finished then
    if t.cost ≤ cost then return true
  let nodes ← fromStack (·.nodesSinceError v)
  let s := (← get).stack
  let here := (s.top v).place.bytes
  let mine : Standing := { cost, nodes, weight := (s.top v).weight, inError }
  for i in [0:s.count] do
    let s := (← get).stack
    if i ≠ v && s.isActive i && here ≤ (s.top i).place.bytes then
      match mine.compare (← standing i) with
      | .takeSecond => return true
      | .preferSecond => if (← get).stack.canMerge i v then return true
      | _ => pure ()
  return false

/-! ## Reducing and accepting -/

/-- Merges a version into the first earlier one, other than `v`, that has come to the same point. -/
def mergeIntoEarlier (v new : Nat) : Parse Bool := do
  for j in [0:new] do
    if j ≠ v then
      if ← fromStack (·.merge j new) then return true
  return false

/-- Puts the trees on top of a version together by a production. If versions had merged, there are
several ways to do so: ways that lead to the same vertex are compared and one is kept, each other way
becomes a new version. The first new version is returned. `ending` tells whether the end of a rule that
may stand anywhere has come. -/
def reduce (v production : Nat) (ending : Bool) : Parse (Option Nat) := do
  let t ← grammar
  let p := t.productions.getD production default
  let initial ← look (·.count)
  let slices ← fromStack (·.popCount v p.steps.length)
  let s := (← get).stack
  let halted := ((List.range s.count).filter s.isHalted).length
  let mut removed := 0
  for (number, alternatives) in slices do
    let version := number - removed
    if version > maxVersions + maxVersionOverflow + halted then
      onStack (·.remove version)
      removed := removed + 1
    else
      let label := Label.rule p.head production
      let mut best : Option (Tree × List Tree) := none
      for trees in alternatives do
        let (children, trailing) := Tree.splitTrailingExtras trees
        let tree := Tree.build t label false children
        match best with
        | none => best := some (tree, trailing)
        | some (old, _) =>
          if old.prefersSecond t.tokens.size tree then best := some (tree, trailing)
      match best with
      | none => pure ()
      | some (tree, trailing) =>
        let state ← look (·.state version)
        let next := (t.rows.getD state default).gotos.getD p.head 0
        let tree := if ending && next == state then tree.setExtra true else tree
        onStack (·.push version (some (tree.addWeight p.weight)) next)
        for extra in trailing do
          onStack (·.push version (some extra) next)
        if ← mergeIntoEarlier v version then removed := removed + 1
  let after ← look (·.count)
  return if after > initial then some initial else none

/-- Replaces the last tree that does not stand anywhere by its parts, and puts all under its label. A
token has no parts and is not the tree of a text. -/
def makeRoot (t : Tables) (trees : List Tree) : Option Tree :=
  let reversed := trees.reverse
  let trailing := reversed.takeWhile (·.extra)
  match reversed.drop trailing.length with
  | [] => none
  | core :: before =>
    match core.label with
    | .token _ => none
    | label => some (Tree.build t label false (before.reverse ++ core.parts ++ trailing.reverse))

/-- Ends a version with a complete tree, which is made of what lies below it and the trees that come last. -/
def accept (v : Nat) (last : List Tree) : Parse Unit := do
  let t ← grammar
  let slices ← fromStack (·.popAll v)
  for tree in last do
    onStack (·.push v (some tree) 1)
  for (_, alternatives) in slices do
    for trees in alternatives do
      match makeRoot t (trees ++ last) with
      | none => pure ()
      | some root =>
        modify fun p =>
          let keep := match p.finished with
            | none => true
            | some old => old.prefersSecond t.tokens.size root
          { p with finished := if keep then some root else p.finished, accepted := p.accepted + 1 }
  match slices with
  | (number, _) :: _ => onStack (·.remove number)
  | [] => pure ()
  onStack (·.halt v)

/-! ## Recovery -/

/-- The different reductions that a state can make, and whether it can shift, for one token or, if
none is given, for any. -/
def possibleActions (state : Nat) (token? : Option Nat) : Parse (List Nat × Bool) := do
  let t ← grammar
  let range := match token? with
    | some token => [token]
    | none => (List.range t.tokens.size).drop 1
  let mut reductions : List Nat := []
  let mut shifts := false
  for token in range do
    for action in actionsOn t state token do
      match action with
      | .shift _ repetition => if !repetition then shifts := true
      | .recover => shifts := true
      | .reduce production =>
        let p := t.productions.getD production default
        let known := reductions.any fun i =>
          let q := t.productions.getD i default
          q.head == p.head && q.steps.length == p.steps.length
        if !p.steps.isEmpty && !known then reductions := reductions ++ [production]
      | _ => pure ()
  return (reductions, shifts)

/-- Merges a version into an earlier one from a given number on. -/
def mergeFrom (first v : Nat) : Parse Bool := do
  for j in [first:v] do
    if ← fromStack (·.merge j v) then return true
  return false

/-- Makes all reductions that can follow each other from a version on, whatever the next token is or,
if it is given, with that token next. Tells whether some version can then shift. -/
def reduceAll (first : Nat) (token? : Option Nat) : Parse Bool := do
  let initial ← look (·.count)
  let rec go : Nat → Nat → Nat → Bool → Parse Bool
    | 0, _, _, shiftable => pure shiftable
    | fuel + 1, i, v, shiftable => do
      let count ← look (·.count)
      if v ≥ count then return shiftable
      if ← mergeFrom initial v then go fuel (i + 1) v shiftable
      else
        let state ← look (·.state v)
        let (reductions, shifts) ← possibleActions state token?
        let mut reduced : Option Nat := none
        for production in reductions do
          reduced ← reduce v production false
        let next := if v = first then count else v + 1
        if shifts then go fuel (i + 1) next true
        else
          match reduced with
          | some r =>
            if i < maxVersions then
              onStack (·.renumber r v)
              go fuel (i + 1) v shiftable
            else if token?.isSome then
              onStack (·.remove v)
              go fuel (i + 1) next shiftable
            else go fuel (i + 1) next shiftable
          | none =>
            if token?.isSome then
              onStack (·.remove v)
              go fuel (i + 1) next shiftable
            else go fuel (i + 1) next shiftable
  go 1000 0 first false

/-- Goes back to a state some trees down, and wraps those trees into an error. -/
def recoverTo (v depth state : Nat) : Parse Bool := do
  let t ← grammar
  let slices ← fromStack (·.popCount v depth)
  let mut done := false
  for (number, alternatives) in slices do
    if (← look (·.state number)) ≠ state then onStack (·.halt number)
    else
      match alternatives with
      | [] => pure ()
      | trees :: _ =>
        let earlier ← fromStack (·.popError number)
        let trees := (earlier.map (·.parts)).getD [] ++ trees
        let (children, trailing) := Tree.splitTrailingExtras trees
        if !children.isEmpty then
          onStack (·.push number (some (Tree.build t .error true children)) state)
        for extra in trailing do
          onStack (·.push number (some extra) state)
        done := true
  return done

/-- Tries to go back to a state that a version has passed and in which the next token fits. -/
def recoverToPassed (v : Nat) (next : Tree) (nodes cost : Nat) : Parse Bool := do
  let s := (← get).stack
  let place := (s.top v).place
  let count := s.count
  match (s.version v).trail with
  | none => return false
  | some trail =>
    if next.isError then return false
    for entry in trail do
      if entry.state ≠ 0 && entry.bytes ≠ place.bytes then
        let depth := if nodes > 0 then entry.depth + 1 else entry.depth
        let s := (← get).stack
        let redundant := (List.range count).any fun j =>
          s.state j == entry.state && (s.top j).place.bytes == place.bytes
        if !redundant then
          let new := cost + entry.depth * costSkippedTree + (place.bytes - entry.bytes)
            + (place.row - entry.row) * costSkippedLine
          if ← betterExists v false new then return false
          if !(actionsFor (← grammar) entry.state next).isEmpty then
            if ← recoverTo v depth entry.state then return true
    return false

/-- Removes the versions from a given number on that do not go on. -/
def removeInactive (first : Nat) : Parse Unit := do
  let s := (← get).stack
  for i in (List.range s.count).reverse do
    if first ≤ i && !(← look (·.isActive i)) then onStack (·.remove i)

/-- Skips the next token: it joins the text that is being skipped on top of a version. -/
def skipToken (v : Nat) (next : Tree) (nodes : Nat) : Parse Unit := do
  let t ← grammar
  let isExtra := (actionsFor t 1 next).getLast? == some .shiftExtra
  let token := if isExtra then next.setExtra true else next
  let skipped := Tree.build t .skipped false [token]
  if nodes > 0 then
    let slices ← fromStack (·.popCount v 1)
    match slices with
    | [] => onStack (·.push v (some skipped) 0)
    | (number, alternatives) :: _ =>
      for i in (List.range (← look (·.count))).reverse do
        if i > number then onStack (·.remove i)
      onStack (·.renumber number v)
      let trees := alternatives.headD []
      onStack (·.push v (some (Tree.build t .skipped false (trees ++ [skipped]))) 0)
  else onStack (·.push v (some skipped) 0)
  onStack (·.remember v next)

/-- Recovers with the next token in a version that has lost track. -/
def recover (v : Nat) (next : Tree) : Parse Unit := do
  let t ← grammar
  let before ← look (·.count)
  let nodes ← fromStack (·.nodesSinceError v)
  let cost ← look (·.cost v)
  let found ← recoverToPassed v next nodes cost
  removeInactive before
  if next.isEnd then
    accept v [Tree.build t .error false [], next]
  else if found && ((← look (·.count)) > maxVersions || next.summary.newMemory) then
    onStack (·.halt v)
  else
    let extent := next.total
    let new := cost + costSkippedTree + extent.bytes + extent.rows * costSkippedLine
    if ← betterExists v false new then onStack (·.halt v)
    else skipToken v next nodes

/-- Tries to go on after inserting a token that is missing in front of the next one. -/
def insertMissing (v : Nat) (next : Tree) : Parse Bool := do
  let t ← grammar
  let state ← look (·.state v)
  match next.token? with
  | none => return false
  | some token =>
    for missing in (List.range t.tokens.size).drop 1 do
      let target := t.stateAfter state missing
      if target ≠ 0 && target ≠ state then
        if let some (.reduce _) := (actionsOn t target token).head? then
          let new ← fromStack (·.copy v)
          onStack (·.push new (some (Tree.missingLeaf t missing)) target)
          if ← reduceAll new (if token = 0 then none else some token) then return true
    return false

/-- Starts the recovery of a version that cannot use the next token. -/
def handleError (v : Nat) (next : Tree) : Parse Unit := do
  let before ← look (·.count)
  let _ ← reduceAll v none
  let after ← look (·.count)
  let candidates := v :: (List.range after).drop before
  let mut inserted := false
  for w in candidates do
    if !inserted then inserted ← insertMissing w next
    onStack (·.push w none 0)
  for _ in [before:after] do
    let _ ← fromStack (·.merge v before)
  onStack (·.recordTrail v)
  recover v next

/-! ## Advancing -/

/-- What following the actions for a token came to. -/
inductive Followed where
  /-- The token was used, or the version ended. -/
  | done
  /-- A reduction made a new version. -/
  | reduced (version : Nat)
  /-- All reductions led to versions that were there already. -/
  | merged
  /-- There was nothing to do. -/
  | stuck

/-- Takes the next token. -/
def shift (v : Nat) (next : Option Tree) (extra : Bool) (target : Nat) : Parse Unit :=
  match next with
  | none => pure ()
  | some token => do
    onStack (·.push v (some (token.setExtra extra)) target)
    onStack (·.remember v token)

/-- Follows the actions for the next token in a version; `so` is what came of the actions so far. -/
def follow (v : Nat) (next : Option Tree) (state : Nat) : List Action → Followed → Parse Followed
  | [], so => pure so
  | .shift target repetition :: rest, so =>
    if repetition then follow v next state rest so
    else do
      shift v next false target
      return .done
  | .shiftExtra :: _, _ => do
    shift v next true state
    return .done
  | .reduce production :: rest, so => do
    match ← reduce v production next.isNone, so with
    | some new, _ => follow v next state rest (.reduced new)
    | none, .reduced old => follow v next state rest (.reduced old)
    | none, _ => follow v next state rest .merged
  | .accept :: _, _ => do
    match next with
    | some token => accept v [token]
    | none => pure ()
    return .done
  | .recover :: _, _ => do
    match next with
    | some token => recover v token
    | none => pure ()
    return .done

/-- Reads the next token for a version in a state, and keeps it for versions that come to the same
place. -/
def readToken (v state : Nat) : Parse (Option Tree) := do
  let p ← get
  let place := (p.stack.top v).place
  let memory := (p.stack.version v).memory
  let search : Search := { place, state, memory, advanced := p.stack.hasAdvanced v }
  let next := search.next p.tables
  match next with
  | some token => set { p with last := some ⟨place.bytes, memory, token⟩ }
  | none => pure ()
  return next

/-- Whether a token that was read in another state would be read in a state as well. -/
def fits (t : Tables) (state : Nat) (tree : Tree) : Bool :=
  match tree.token? with
  | none => false
  | some token =>
    let s := tree.summary
    let here := t.rows.getD state default
    let there := t.rows.getD s.soughtIn default
    let alike := here.lex == there.lex && here.scanned == there.scanned && !there.ends
    if here.ends then false
    else if !(here.actions.getD token []).isEmpty && alike &&
        (token ≠ t.word || (!s.keyword && s.soughtIn == state)) then true
    else if s.size.bytes = 0 && token ≠ 0 then false
    else here.scanned.isEmpty && here.stable.contains token

/-- The token that was read last, if it is what a version in a state would read. -/
def lastToken? (v state : Nat) : Parse (Option Tree) := do
  let p ← get
  match p.last with
  | none => return none
  | some last =>
    let same := last.bytes == (p.stack.top v).place.bytes && last.memory == (p.stack.version v).memory
    return if same && fits p.tables state last.token then some last.token else none

/-- Reads a keyword as a plain word, if the state can use a word. -/
def asWord? (t : Tables) (state : Nat) (next : Tree) : Option Tree :=
  match next.token? with
  | some token =>
    if next.summary.keyword && token ≠ t.word && !(actionsOn t state t.word).isEmpty then
      some (next.setToken t t.word)
    else none
  | none => none

/-- What becomes of a version that cannot use the next token. -/
def giveUp (v state : Nat) (next : Tree) : Parse Unit :=
  if state = 0 then recover v next else onStack (·.pause v next)

/-- Uses a token in a version, after as many reductions as it takes. Where there is no token because a
rule that may stand anywhere has ended, the next one is read after the reduction. -/
def useToken : Nat → Nat → Option Tree → Parse Unit
  | 0, v, _ => onStack (·.halt v)
  | fuel + 1, v, next => do
    let state ← look (·.state v)
    let t ← grammar
    match ← follow v next state (actionsFor t state next) .stuck with
    | .done => return ()
    | .reduced r =>
      onStack (·.renumber r v)
      match next with
      | some _ => useToken fuel v next
      | none => useToken fuel v (← readToken v (← look (·.state v)))
    | .merged => onStack (·.halt v)
    | .stuck =>
      match next with
      | none => onStack (·.halt v)
      | some token =>
        match asWord? t state token with
        | some word => useToken fuel v (some word)
        | none => giveUp v state token

/-- Moves a version on by one token. -/
def advance (fuel v : Nat) : Parse Unit := do
  let state ← look (·.state v)
  match ← lastToken? v state with
  | some token => useToken fuel v (some token)
  | none => useToken fuel v (← readToken v state)

/-! ## Rounds -/

/-- Moves a version on until it has come further than the last one, or has stopped. -/
def advancePast (bound : Nat) : Nat → Nat → Nat → Parse Nat
  | 0, _, last => pure last
  | fuel + 1, v, last => do
    if !(← look (·.isActive v)) then return last
    advance bound v
    let place := (← look (·.top v)).place.bytes
    if place > last || (v > 0 && place == last) then return place
    advancePast bound fuel v last

/-- Moves all versions on, one after the other; versions that come up on the way are moved on too. -/
def advanceAll (bound : Nat) : Nat → Nat → Nat → Parse Nat
  | 0, _, last => pure last
  | fuel + 1, v, last => do
    if v ≥ (← look (·.count)) then return last
    let last ← advancePast bound bound v last
    advanceAll bound fuel (v + 1) last

/-- Compares version `i`, whose standing is given, with the earlier ones from `j` on. Returns whether it
is gone; an earlier one that is clearly worse is removed, and a less promising one changes places with
it. -/
def rank (b : Standing) : Nat → Nat → Nat → Parse (Nat × Bool)
  | 0, i, _ => pure (i, false)
  | fuel + 1, i, j => do
    if j ≥ i then return (i, false)
    let a ← standing j
    match a.compare b with
    | .takeFirst =>
      onStack (·.remove i)
      return (i, true)
    | .preferFirst | .none =>
      if ← fromStack (·.merge j i) then return (i, true)
      rank b fuel i (j + 1)
    | .preferSecond =>
      if ← fromStack (·.merge j i) then return (i, true)
      onStack (·.swap i j)
      rank b fuel i (j + 1)
    | .takeSecond =>
      onStack (·.remove j)
      rank b fuel (i - 1) j

/-- Drops versions that are given up or clearly worse than others, and sorts the rest. Returns the
lowest cost of a version that has not lost track. -/
def condense : Nat → Nat → Option Nat → Parse (Option Nat)
  | 0, _, least => pure least
  | fuel + 1, i, least => do
    if i ≥ (← look (·.count)) then return least
    if ← look (·.isHalted i) then
      onStack (·.remove i)
      condense fuel i least
    else
      let s ← standing i
      let least := if s.inError then least
        else match least with
          | some c => some (min c s.cost)
          | none => some s.cost
      let (i, gone) ← rank s (fuel + 1) i 0
      condense fuel (if gone then i else i + 1) least

/-- Starts the recovery of the best version that waits, if no version goes on; versions that wait
behind one that goes on are dropped. Only the first `count` versions are looked at. -/
def resumePaused : Nat → Nat → Nat → Bool → Option Nat → Parse (Option Nat)
  | 0, _, _, _, least => pure least
  | fuel + 1, count, i, goesOn, least => do
    if i ≥ count then return least
    if ← look (·.isPaused i) then
      if !goesOn && (← get).accepted < maxVersions then
        let cost ← look (·.cost i)
        match ← fromStack (·.resume i) with
        | some next => handleError i next
        | none => pure ()
        resumePaused fuel count (i + 1) true (some cost)
      else
        onStack (·.remove i)
        resumePaused fuel (count - 1) i goesOn least
    else resumePaused fuel count (i + 1) true least

/-- Reads on, token by token, until all versions have ended or a complete tree is better than what
any version can become. -/
def run (bound : Nat) : Nat → Nat → Parse Unit
  | 0, _ => pure ()
  | fuel + 1, last => do
    let last ← advanceAll bound bound 0 last
    let least ← condense bound 0 none
    let excess := (List.range (← look (·.count))).drop maxVersions
    for _ in excess do
      onStack (·.remove maxVersions)
    let count ← look (·.count)
    let least ← resumePaused (2 * count + 2) count 0 false least
    let finished := (← get).finished
    match finished with
    | some t =>
      match least with
      | some c => if t.cost < c then return ()
      | none => return ()
    | none => pure ()
    if (← look (·.count)) = 0 then return ()
    run bound fuel last

end Parser

/-- The best tree for a text. -/
def parseTree (t : Tables) (text : List Char) : Option Tree :=
  let bound := 64 * (text.length + 64)
  let start : Parser :=
    { tables := t, stack := Stack.start text, last := none, finished := none, accepted := 0 }
  ((Parser.run bound bound 0).run start).2.finished

end Overdue.Syntax
