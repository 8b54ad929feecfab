/-
Grammars in flat form.

`Outline.ofGrammar` numbers the tokens and rules of a grammar and flattens every rule into
productions. Four things happen on the way.

* A repetition becomes a rule of its own, the same one wherever the same body is repeated. That rule
  derives either the body or two of itself in a row.
* Precedences move from the rules to the places of a production: a place carries the level and the
  leaning that hold once it has been read.
* A kind under which a symbol always shows becomes the symbol's own kind.
* A rule that is to be replaced by its bodies is, wherever it is used.
-/
import Std.Data.HashMap
import Std.Data.HashSet
import Overdue.Syntax.Rule

set_option autoImplicit false

namespace Overdue.Syntax

/-! ## Productions -/

/-- A terminal or nonterminal symbol, by number. Token 0 is the end of the text. -/
inductive Symbol where
  | token (index : Nat)
  | rule (index : Nat)
deriving DecidableEq, Hashable, Inhabited, Repr

/-- A kind under which a node shows instead of its own. -/
structure Display where
  kind : String
  named : Bool
deriving DecidableEq, Hashable, Inhabited, Repr

/-- A place on the right-hand side of a production. -/
structure Step where
  symbol : Symbol
  /-- The kind under which the symbol shows here, if it is not its own. -/
  display : Option Display
  field : Option String
  level : Option Int
  assoc : Option Assoc
deriving DecidableEq, Hashable, Inhabited

/-- A production: its rule, the places to fill, and its weight among complete readings. -/
structure Production where
  head : Nat
  steps : List Step
  weight : Int
deriving DecidableEq, Inhabited

/-- What is known of a token. -/
structure TokenInfo where
  kind : String
  visible : Bool
  named : Bool
  /-- What the token looks like; the end of the text and the tokens of the scanner have no look. -/
  lexeme : Option Lexeme
  /-- Where the token first appears in the grammar. -/
  place : Nat
deriving Inhabited

/-- What is known of a rule. -/
structure RuleInfo where
  kind : String
  visible : Bool
  named : Bool
  /-- Whether the rule has a name of its own that shows. -/
  declared : Bool
  /-- Whether the rule stands for a repetition. -/
  repetition : Bool
  /-- Whether the rule is kept as a level of its own although it is hidden. -/
  group : Bool
  /-- Whether the rule shows under another kind everywhere. -/
  displayed : Bool
deriving Inhabited

/-- A grammar in flat form. -/
structure Outline where
  tokens : Array TokenInfo
  rules : Array RuleInfo
  /-- Production 0 derives the whole text from a rule of its own, which has the last number. -/
  productions : Array Production
  /-- The token that keywords are special cases of. -/
  word : Nat
  /-- The number of the first token of the scanner. -/
  scannerStart : Nat
  scanner : Scanner
  /-- What may stand anywhere. -/
  extras : List Symbol

/-! ## Flattening -/

/-- What the surroundings of a rule say about its places. -/
structure Surroundings where
  level : Option Int := none
  assoc : Option Assoc := none
  field : Option String := none
  display : Option Display := none

/-- A right-hand side in the making. -/
structure Flat where
  steps : List Step
  weight : Int
deriving DecidableEq, Hashable, Inhabited

namespace Flat

/-- Puts one right-hand side after another; the stronger weight stays. -/
def append (a b : Flat) : Flat :=
  { steps := a.steps ++ b.steps
    weight := if b.weight.natAbs > a.weight.natAbs then b.weight else a.weight }

/-- Changes the last place. -/
def mapLast (f : Step → Step) (a : Flat) : Flat :=
  match a.steps.getLast? with
  | some s => { a with steps := a.steps.dropLast ++ [f s] }
  | none => a

end Flat

/-- How tokens, names and repetitions are numbered. -/
structure Numbering where
  lexeme : Lexeme → Option Nat
  named : String → Option Symbol
  repetition : Rule → Option Nat

/-- The single place for a symbol. -/
def Surroundings.place (around : Surroundings) (symbol : Symbol) : Flat :=
  { steps := [{ symbol, display := around.display, field := around.field, level := around.level
                assoc := around.assoc }]
    weight := 0 }

/-- The right-hand sides of a rule. `atEnd` tells whether nothing follows it; a place that does end
its surroundings keeps the level of the innermost rule, any other one that of the rule around it. -/
def Rule.flatten (number : Numbering) (around : Surroundings) (atEnd : Bool) : Rule → List Flat
  | .blank => [⟨[], 0⟩]
  | .token t => ((number.lexeme t).map fun i => around.place (.token i)).toList
  | .ref name => ((number.named name).map around.place).toList
  | .seq a b =>
    (a.flatten number around false).flatMap fun p =>
      (b.flatten number around atEnd).map p.append
  | .choice a b => a.flatten number around atEnd ++ b.flatten number around atEnd
  | .repeat1 a => ((number.repetition a).map fun i => around.place (.rule i)).toList
  | .prec level assoc a =>
    let inner := { around with level := some level, assoc := assoc.or around.assoc }
    let ps := a.flatten number inner atEnd
    if atEnd then ps
    else ps.map (Flat.mapLast fun s => { s with level := around.level, assoc := around.assoc })
  | .favour weight a =>
    (a.flatten number around atEnd).map fun p =>
      if weight.natAbs ≥ p.weight.natAbs then { p with weight } else p
  | .field name a => a.flatten number { around with field := some name } atEnd
  | .shownAs kind named a => a.flatten number { around with display := some ⟨kind, named⟩ } atEnd

/-- Removes later copies of an element. -/
def firstCopies {α : Type} [BEq α] [Hashable α] (xs : List α) : List α :=
  (xs.foldl
    (fun (acc, seen) x => if seen.contains x then (acc, seen) else (x :: acc, seen.insert x))
    (([] : List α), (∅ : Std.HashSet α))).1.reverse

/-! ## Kinds under which a symbol always shows -/

/-- How often a symbol shows under each kind, in the order in which the kinds come up; `none` once it
shows under its own. -/
abbrev Shows := Option (List (Display × Nat))

/-- Counts one more time under a kind. -/
def Shows.add (shows : Shows) : Option Display → Shows
  | none => none
  | some d => shows.map fun counts =>
    match counts.findIdx? (·.1 == d) with
    | some i => counts.modify i fun c => (c.1, c.2 + 1)
    | none => counts ++ [(d, 1)]

/-- The kind that came up most often, the first one of several. -/
def Shows.usual (shows : Shows) : Option Display :=
  ((shows.getD []).foldl
    (fun best c =>
      match best with
      | some (b : Display × Nat) => if c.2 > b.2 then some c else best
      | none => some c)
    none).map (·.1)

/-- The kinds under which symbols always show. -/
def usualDisplays (productions : List Production) (inlined : Nat → Bool) (extras : List Symbol) :
    Std.HashMap Symbol Display :=
  let counted := productions.foldl
    (fun (acc : Std.HashMap Symbol Shows) p =>
      p.steps.foldl
        (fun acc s =>
          match s.symbol with
          | .rule r => if inlined r then acc else
              acc.insert s.symbol ((acc.getD s.symbol (some [])).add s.display)
          | .token _ => acc.insert s.symbol ((acc.getD s.symbol (some [])).add s.display))
        acc)
    {}
  let counted := extras.foldl (fun acc s => acc.insert s none) counted
  counted.fold
    (fun acc symbol shows =>
      match Shows.usual shows with
      | some d => acc.insert symbol d
      | none => acc)
    {}

/-- Removes the displays of a rule's right-hand sides that have become the symbols' own kinds. A
display stays where another right-hand side of the rule needs it at the same place for a symbol that
does not always show so. -/
def dropUsual (usual : Std.HashMap Symbol Display) (bodies : List Flat) : List Flat :=
  bodies.zipIdx.map fun (body, i) =>
    { body with steps := body.steps.zipIdx.map fun (s, j) =>
        if s.display.isSome && s.display == usual[s.symbol]? then
          let needed := bodies.zipIdx.any fun (other, k) =>
            k != i && match other.steps[j]? with
              | some o => o.display == s.display && usual[o.symbol]? != s.display
              | none => false
          if needed then s else { s with display := none }
        else s }

/-! ## Replacing rules by their bodies -/

/-- Puts the body of a rule in the place of a reference to it. The place's display and name hold for
all of the body, its level only for the end of the body, and only if that has none. -/
def Step.replaceBy (s : Step) (body : Flat) : Flat :=
  let mark := fun (t : Step) =>
    { t with display := s.display.or t.display, field := s.field.or t.field }
  let marked : Flat := { body with steps := body.steps.map mark }
  marked.mapLast fun t => { t with level := t.level.or s.level, assoc := t.assoc.or s.assoc }

/-- Replaces rules by their bodies in a right-hand side; `depth` bounds how many bodies deep. -/
def Flat.inline (bodies : Nat → Option (List Flat)) : Nat → Flat → List Flat
  | 0, flat => [flat]
  | depth + 1, flat =>
    flat.steps.foldl
      (fun done s =>
        let next : List Flat := match s.symbol with
          | .token _ => [⟨[s], 0⟩]
          | .rule r =>
            match bodies r with
            | none => [⟨[s], 0⟩]
            | some inner => inner.flatMap fun body => (s.replaceBy body).inline bodies depth
        done.flatMap fun d => next.map d.append)
      [⟨[], flat.weight⟩]

/-! ## The outline of a grammar -/

/-- The tokens of a grammar in order of appearance, each with its name if it has one. -/
def Grammar.lexemes (g : Grammar) : List (Option String × Lexeme) :=
  firstCopies (g.definitions.flatMap fun (name, d) =>
    match d with
    | .rule body => body.lexemes.map fun t => (none, t)
    | .token t => [(some name, t)])

/-- The entry of a token. -/
def TokenInfo.ofLexeme (name : Option String) (lexeme : Lexeme) (place : Nat) : TokenInfo :=
  match name, lexeme.shape with
  | some n, _ => { kind := n, visible := !isHidden n, named := true, lexeme := some lexeme, place }
  | none, .spelled s => { kind := s, visible := true, named := false, lexeme := some lexeme, place }
  | none, .pattern _ => { kind := "", visible := false, named := true, lexeme := some lexeme, place }

/-- The entry of a token without a look. -/
def TokenInfo.ofName (name : String) : TokenInfo :=
  { kind := name, visible := !isHidden name, named := true, lexeme := none, place := 0 }

/-- Flattens a grammar. -/
def Outline.ofGrammar (g : Grammar) : Outline := Id.run do
  let lexemes := g.lexemes
  let placed := lexemes.zipIdx.map fun ((name, t), i) => TokenInfo.ofLexeme name t i
  let isWord := fun (t : TokenInfo) => t.named && t.kind == g.word
  let tokens := (({ TokenInfo.ofName "end" with visible := false } :: placed.filter isWord) ++
    placed.filter (fun t => !isWord t) ++ g.scannerTokens.map TokenInfo.ofName).toArray
  let scannerStart := 1 + placed.length
  let rules := g.definitions.filterMap fun (name, d) =>
    match d with
    | .rule body => some (name, body)
    | .token _ => none
  let repetitions := firstCopies (rules.flatMap fun (_, r) => r.repeated)
  let named := rules.length
  let count := named + repetitions.length
  let mut symbolOf : Std.HashMap String Symbol := {}
  for h : i in [1:tokens.size] do
    let t := tokens[i]
    if t.named && t.kind != "" then symbolOf := symbolOf.insert t.kind (.token i)
  for ((name, _), i) in rules.zipIdx do
    symbolOf := symbolOf.insert name (.rule i)
  let symbols := symbolOf
  let number : Numbering :=
    { lexeme := fun t => tokens.findIdx? fun info =>
        info.lexeme == some t && !(info.named && info.kind != "")
      named := fun name => symbols[name]?
      repetition := fun body => (repetitions.findIdx? (· == body)).map (· + named) }
  let isInlined := fun r =>
    match rules[r]? with
    | some (name, _) => g.inlined.contains name
    | none => false
  -- The right-hand sides of each rule, before rules are replaced by their bodies.
  let mut bodies : Array (List Flat) := #[]
  for (_, body) in rules do
    bodies := bodies.push (firstCopies (body.flatten number {} true))
  for (body, i) in repetitions.zipIdx do
    let here : Surroundings := {}
    let self := here.place (.rule (named + i))
    bodies := bodies.push (firstCopies ((self.append self) :: body.flatten number {} true))
  let extras := g.extras.filterMap fun name => symbols[name]?
  let all := bodies.toList.zipIdx.flatMap fun (bs, head) =>
    bs.map fun b => { head, steps := b.steps, weight := b.weight : Production }
  let usual := usualDisplays all isInlined extras
  let trimmed := bodies.map (dropUsual usual)
  let bodyOf := fun r => if isInlined r then trimmed[r]? else none
  let depth := g.inlined.length + 1
  let mut productions : Array Production :=
    #[{ head := count, weight := 0
        steps := [{ symbol := .rule 0, display := none, field := none, level := none
                    assoc := none }] }]
  for h : head in [0:trimmed.size] do
    if !isInlined head then
      for flat in firstCopies (trimmed[head].flatMap (Flat.inline bodyOf depth)) do
        productions := productions.push ⟨head, flat.steps, flat.weight⟩
  let shownTokens := tokens.mapIdx fun i t =>
    match usual[Symbol.token i]? with
    | some d => { t with kind := d.kind, named := d.named, visible := true }
    | none => t
  let ruleInfos := rules.map (fun (name, _) =>
      { kind := name, visible := !isHidden name, named := true, declared := !isHidden name
        repetition := false, group := g.groups.contains name, displayed := false : RuleInfo }) ++
    repetitions.map fun _ =>
      { kind := "", visible := false, named := true, declared := false, repetition := true
        group := false, displayed := false : RuleInfo }
  let shownRules := ruleInfos.toArray.mapIdx fun i r =>
    match usual[Symbol.rule i]? with
    | some d => { r with kind := d.kind, named := d.named, visible := true, displayed := true }
    | none => r
  return {
    tokens := shownTokens, rules := shownRules, productions, scannerStart, extras
    word := match symbols[g.word]? with
      | some (.token i) => i
      | _ => 0
    scanner := g.scanner }

end Overdue.Syntax
