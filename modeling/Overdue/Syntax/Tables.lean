/-
The tables that a parser works with.

`Tables.ofGrammar` makes them once for a grammar: it finds the states, merges them, writes down for
each what to do with every token and where every rule leads to, and finds the automaton that reads the
tokens. The rows of the tables are in the order of their sizes, the larger ones first, behind those of
state 0, where a parser has lost track, and state 1, the start.
-/
import Overdue.Syntax.LexTable
import Overdue.Syntax.Merge

set_option autoImplicit false

namespace Overdue.Syntax

/-! ## Rows -/

/-- What to do with the next token. -/
inductive Action where
  /-- Take it and go to a state. Where the token could as well continue a repetition that is put
  together first, the shift is only there to be seen. -/
  | shift (target : Nat) (repetition : Bool)
  /-- Take it as something that may stand anywhere. -/
  | shiftExtra
  /-- Put the last trees together by a production. -/
  | reduce (production : Nat)
  /-- The text is complete. -/
  | accept
  /-- Try to find the way back. -/
  | recover
deriving DecidableEq, Inhabited

/-- A row in the making: the actions for tokens and the targets of rules, each with the token or rule
that it is for. -/
structure Draft where
  actions : List (Nat × List Action)
  gotos : List (Nat × Nat)
  valid : TokenSet
deriving Inhabited

namespace Draft

/-- Changes the states that a row leads to. -/
def mapTargets (f : Nat → Nat) (d : Draft) : Draft :=
  { d with
    actions := d.actions.map fun (t, list) => (t, list.map fun
      | .shift target repetition => .shift (f target) repetition
      | other => other)
    gotos := d.gotos.map fun (r, target) => (r, f target) }

/-- The states that a row leads to. -/
def targets (d : Draft) : List Nat :=
  (d.actions.flatMap fun (_, list) => list.filterMap fun
    | .shift target _ => some target
    | _ => none) ++ d.gotos.map (·.2)

/-- How many entries a row has. -/
def size (d : Draft) : Nat := d.actions.length + d.gotos.length

end Draft

/-! ## From states to rows -/

/-- What is needed to write the rows. -/
structure Drafting where
  merger : Merger
  grouping : Grouping
  lexicon : Lexicon
  /-- The states behind the first tokens of the rules that may stand anywhere. -/
  extras : List (Nat × Nat)

namespace Drafting

/-- What to do with a token that may come anywhere. -/
def extraActions (d : Drafting) (token : Nat) : List Action :=
  match d.extras.lookup token with
  | some state => [.shift (d.grouping.get state) false]
  | none => [.shiftExtra]

/-- The action that completes a position. -/
def reduction (d : Drafting) (position : Nat) : Action :=
  let production := (d.merger.frame.positions.get position).production
  if production = 0 then .accept else .reduce production

/-- The actions of a state for the tokens of its own. -/
def ownActions (d : Drafting) (s : State) : List (Nat × List Action) :=
  let f := d.merger.frame
  let core := d.merger.coreOf s
  let count := f.anything + 1
  let active := (List.range core.complete.size).foldl
    (fun (acc : Array (List Nat)) i =>
      let look := d.merger.automaton.looks.get (s.complete.getD i 0)
      let position := (core.complete.getD i default).1
      look.fold (fun acc t => acc.modify t (position :: ·)) acc)
    (Array.replicate count [])
  let shifts := (List.range core.edges.size).foldl
    (fun (acc : Array (Option Nat)) i =>
      match (core.edges.getD i default).symbol with
      | .token t => acc.set! t (some (d.grouping.get (s.targets.getD i 0)))
      | .rule _ => acc)
    (Array.replicate count none)
  (List.range count).filterMap fun t =>
    match shifts.getD t none, active.getD t [] with
    | none, [] => none
    | some target, [] => some (t, [.shift target false])
    | none, [position] => some (t, [d.reduction position])
    | target?, positions =>
      let decision := decide f core.kernel t target?.isSome positions
      let reduces := decision.reductions.map d.reduction
      some (t, match decision.shift, target? with
        | some repetition, some target => reduces ++ [.shift target repetition]
        | _, _ => reduces)

/-- Where the rules lead to from a state. -/
def ownGotos (d : Drafting) (s : State) : List (Nat × Nat) :=
  let core := d.merger.coreOf s
  (List.range core.edges.size).filterMap fun i =>
    match (core.edges.getD i default).symbol with
    | .token _ => none
    | .rule r => some (r, d.grouping.get (s.targets.getD i 0))

/-- The row of a group of states. What one of them does with a token is also done by the others, so of
the states that know a token the first one may speak for all. -/
def row (d : Drafting) (group : Nat) (states : Array Nat) : Draft :=
  let f := d.merger.frame
  let (actions, valid) := states.foldl
    (fun (acc : Array (List Action) × TokenSet) number =>
      let valid := d.merger.valid.getD number .empty
      if (valid.diff acc.2).isEmpty then acc
      else
        let s := d.merger.automaton.states.getD number default
        ((d.ownActions s).foldl (fun acc (t, list) => acc.set! t list) acc.1, acc.2.union valid))
    (Array.replicate (f.anything + 1) [], .empty)
  let ends := valid.contains f.anything
  let listed := valid.toList.map fun t =>
    match actions.getD t [] with
    | [] => (t, d.extraActions t)
    | list => (if t = f.anything then 0 else t, list)
  let own := (states[0]?.map fun number =>
    d.ownGotos (d.merger.automaton.states.getD number default)).getD []
  let extra := f.outline.extras.filterMap fun
    | .token _ => none
    | .rule r => some (r, group)
  { actions := listed, gotos := if ends then own else own ++ extra, valid }

/-- The row of a parser that has lost track. -/
def lostRow (d : Drafting) (row : Draft) : Draft :=
  let known := row.valid
  let new := d.lexicon.recovery.diff known
  { row with
    actions := row.actions ++ new.toList.map fun t => (t, [.recover])
    valid := known.union d.lexicon.recovery }

/-- The rows of all groups. -/
def rows (d : Drafting) : Array Draft :=
  d.grouping.members.mapIdx fun group states =>
    let row := d.row group states
    if group = 0 then d.lostRow row else row

/-! ## Leaving out steps that do nothing -/

/-- The rules that a step to which would show: those that are kept, have a kind of their own, show
under another one somewhere, or may stand anywhere. -/
def showing (o : Outline) : Array Bool :=
  let base := o.rules.map fun r => r.declared || r.displayed || r.group
  let displayed := o.productions.foldl
    (fun acc p => p.steps.foldl
      (fun acc s => match s.symbol, s.display with
        | .rule r, some _ => acc.setIfInBounds r true
        | _, _ => acc)
      acc)
    base
  o.extras.foldl
    (fun acc s => match s with
      | .rule r => acc.setIfInBounds r true
      | .token _ => acc)
    displayed

/-- The rule that an action puts a single tree under without adding anything to it. -/
def bareRule? (o : Outline) (named showing : Array Bool) : Action → Option Nat
  | .reduce production =>
    match o.productions[production]? with
    | some p =>
      if p.steps.length = 1 && p.weight = 0 && o.isPlain named p && !showing.getD p.head true then
        some p.head
      else none
    | none => none
  | _ => none

/-- The rule that a state does nothing but put a single tree under. -/
def passing? (bare : Action → Option Nat) (row : Draft) : Option Nat :=
  let actions := row.actions.flatMap fun (_, list) => list.filter (· != .shiftExtra)
  match actions with
  | [] => none
  | a :: _ =>
    match bare a with
    | none => none
    | some rule => if actions.all fun b => bare b == some rule then some rule else none

/-- The state to go to instead of one that only passes a tree on; `depth` bounds how many in a row. -/
def skipPassing (passing : Array (Option Nat)) (row : Draft) : Nat → Nat → Nat
  | 0, target => target
  | depth + 1, target =>
    match passing.getD target none with
    | none => target
    | some rule =>
      match row.gotos.lookup rule with
      | some next => skipPassing passing row depth next
      | none => target

/-- Leaves out the states that only pass a tree on. -/
def shortcut (o : Outline) (rows : Array Draft) : Array Draft :=
  let bare := bareRule? o o.namedRules (showing o)
  let passing := rows.map (passing? bare)
  rows.map fun row => row.mapTargets (skipPassing passing row 64)

/-! ## The order of the rows -/

/-- The rows that some row leads to, and the first two, in the order in which they are numbered. -/
def order (rows : Array Draft) : List Nat :=
  let used := rows.foldl
    (fun acc row => row.targets.foldl (fun acc t => acc.setIfInBounds t true) acc)
    (Array.replicate rows.size false)
  let later := ((List.range rows.size).drop 2).filter fun i => used.getD i false
  let sized := later.map fun i => (i, (rows.getD i default).size)
  0 :: 1 :: (sized.mergeSort fun x y => x.2 ≥ y.2).map (·.1)

/-- Numbers the rows in their final order. -/
def renumber (rows : Array Draft) : Array Draft :=
  let order := order rows
  let numbers := order.zipIdx.foldl (fun acc (old, new) => acc.setIfInBounds old new)
    (Array.replicate rows.size 0)
  (order.map fun i => (rows.getD i default).mapTargets fun t => numbers.getD t 0).toArray

end Drafting

/-! ## The tables -/

/-- A row of the tables: what to do in a state. -/
structure Row where
  /-- What to do with each token. -/
  actions : Array (List Action)
  /-- Where each rule leads to; state 0 stands for nowhere. -/
  gotos : Array Nat
  /-- Whether a rule that may stand anywhere ends here, whatever comes next. -/
  ends : Bool
  /-- The state in which the next token is looked for. -/
  lex : Nat
  /-- The tokens of the scanner that can come next. -/
  scanned : TokenSet
  /-- The tokens that are the same whatever the state in which they were found. -/
  stable : TokenSet
deriving Inhabited

/-- The tables of a grammar. -/
structure Tables where
  tokens : Array TokenInfo
  rules : Array RuleInfo
  productions : Array Production
  /-- The token that keywords are special cases of. -/
  word : Nat
  /-- The number of the first token of the scanner. -/
  scannerStart : Nat
  scanner : Scanner
  rows : Array Row
  alphabet : Alphabet
  lex : Array LexState
  /-- The state in which keywords are looked for. -/
  keywordLex : Nat

namespace Tables

/-- The tokens of a row that no other token of it meets. -/
def stableTokens (o : Outline) (l : Lexicon) (lost : Bool) (row : Draft) : TokenSet :=
  .ofList (row.actions.filterMap fun (t, list) =>
    if lost && list == [.recover] then none
    else if t = 0 || o.scannerStart ≤ t then some t
    else if (Overlaps.pick l.metBy t).meets row.valid then none
    else some t)

/-- Makes the tables of a grammar. -/
def ofGrammar (g : Grammar) : Tables := Id.run do
  let o := Outline.ofGrammar g
  let f := o.frame
  let (automaton, extras) := Automaton.ofFrame f
  let valid := automaton.valid f (f.extraTokens extras)
  let recognizer := o.recognizer
  let lexicon := Lexicon.ofStates f recognizer valid
  let merger := Merger.ofLexicon f automaton valid lexicon
  let drafting : Drafting := { merger, grouping := merger.grouping, lexicon, extras }
  let drafts := Drafting.renumber (Drafting.shortcut o drafting.rows)
  let mut groups : LexGroups := ⟨#[], {}⟩
  let mut groupOf : Array Nat := #[]
  for row in drafts do
    let plain := row.valid.diff lexicon.keywords
    let sought := if plain = row.valid then plain else plain.insert o.word
    let (groups', group) := lexicon.addGroup groups (sought.diff (.singleton f.anything))
    groups := groups'
    groupOf := groupOf.push group
  let mut table := LexTable.initial
  let mut starts : Array Nat := #[]
  for group in groups.groups do
    let (start, table') := table.number (recognizer.startCells group)
    table := table'
    starts := starts.push start
  let (keywordLex, table') := table.number (recognizer.startCells lexicon.keywords)
  let claims := (Array.range o.tokens.size).map o.claim
  let lex := (recognizer.fillStates claims 100000 table').states
  let lexStarts := starts
  let lexGroups := groupOf
  let rows := drafts.mapIdx fun i row =>
    { actions := row.actions.foldl (fun acc (t, list) => acc.set! t list)
        (Array.replicate o.tokens.size [])
      gotos := row.gotos.foldl (fun acc (r, target) => acc.set! r target)
        (Array.replicate (o.rules.size + 1) 0)
      ends := row.valid.contains f.anything
      lex := lexStarts.getD (lexGroups.getD i 0) 0
      scanned := .ofList (row.valid.toList.filter fun t => o.scannerStart ≤ t && t < f.anything)
      stable := stableTokens o lexicon (i == 0) row : Row }
  return {
    tokens := o.tokens, rules := o.rules, productions := o.productions, word := o.word
    scannerStart := o.scannerStart, scanner := o.scanner, rows, alphabet := recognizer.alphabet, lex
    keywordLex }

end Tables

end Overdue.Syntax
