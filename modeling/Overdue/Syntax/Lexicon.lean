/-
Which tokens can come together.

From the states of a grammar one reads off which tokens can come next at the same place. That decides
two things: which spellings are keywords, that is, special cases of words that are read as a word first
and told apart afterwards; and which tokens a parser that has lost track looks for.
-/
import Overdue.Syntax.Decision
import Overdue.Syntax.Overlap

set_option autoImplicit false

namespace Overdue.Syntax

/-! ## What can come next -/

/-- The tokens of the edges of a core. -/
def Core.tokens (c : Core) : TokenSet :=
  c.edges.foldl
    (fun acc e => match e.symbol with
      | .token t => acc.insert t
      | .rule _ => acc)
    .empty

/-- The tokens that may come anywhere. -/
def Frame.extraTokens (f : Frame) (extras : List (Nat × Nat)) : TokenSet :=
  let first := TokenSet.ofList (extras.map (·.1))
  f.outline.extras.foldl
    (fun acc s => match s with
      | .token t => acc.insert t
      | .rule _ => acc)
    first

/-- The tokens that can come next in each state. At the end of a rule that may stand anywhere, what
may come anywhere has to wait. -/
def Automaton.valid (f : Frame) (a : Automaton) (extras : TokenSet) : Array TokenSet :=
  let own := a.cores.map Core.tokens
  a.states.map fun s =>
    let looks := s.complete.foldl (fun acc i => acc.union (a.looks.get i)) .empty
    let all := (own.getD s.core .empty).union looks
    if looks.contains f.anything then all else all.union extras

/-! ## The lexicon -/

/-- What is known of the tokens of a grammar. -/
structure Lexicon where
  overlaps : Overlaps
  /-- For each token, those that can come at the same place. -/
  beside : Array TokenSet
  keywords : TokenSet
  /-- The tokens that a parser that has lost track looks for. -/
  recovery : TokenSet
  /-- For each token, those that meet it in any way. -/
  metBy : Array TokenSet

/-- Joins, for each token, the sets that it is in. -/
def joinSets (count : Nat) (sets : List TokenSet) : Array TokenSet :=
  sets.foldl
    (fun acc set => set.fold (fun (acc : Array TokenSet) t => acc.modify t (·.union set)) acc)
    (Array.replicate count .empty)

/-- The keywords of a grammar: spellings that the word token also matches, preferred to it, where
reading a word in their place would not get in the way of other tokens. `apart` holds, for each token,
those that can come beside it where no word can. -/
def Recognizer.keywords (r : Recognizer) (o : Overlaps) (word count : Nat) (apart : Array TokenSet) :
    TokenSet :=
  let candidates := (List.range count).filter fun t =>
    (Overlaps.pick o.same t).contains word && !(Overlaps.pick o.other t).contains word
  let set := TokenSet.ofList candidates
  .ofList (candidates.filter fun t =>
    (candidates.all fun u => u == t || !(Overlaps.pick o.same u).contains t) &&
      (List.range count).all fun u =>
        (r.starts.getD u none).isNone || set.contains u || !(Overlaps.pick apart t).contains u ||
          o.meeting t u == o.meeting word u)

/-- The tokens that a parser that has lost track looks for: all but those that would hide a token that
is safe to look for. -/
def Overlaps.recovery (o : Overlaps) (patterned scanned : List Nat) (word : Nat)
    (keywords : TokenSet) (beside : Array TokenSet) : TokenSet :=
  let apart := fun i j => !(Overlaps.pick beside i).contains j
  let safe := patterned.filter fun i => patterned.all fun j => j == i || !(apart i j && o.differs i j)
  let kept := patterned.filter fun i =>
    safe.contains i || keywords.contains i || i == word ||
      safe.all fun t => !(apart i t && (o.conflicts i).contains t)
  .ofList (0 :: kept ++ scanned)

/-- What is known of the tokens of a grammar with given states. -/
def Lexicon.ofStates (f : Frame) (r : Recognizer) (valid : Array TokenSet) : Lexicon :=
  let overlaps := r.overlaps f
  let count := f.outline.tokens.size
  let distinct := (valid.foldl (fun (acc : Std.HashSet TokenSet) s => acc.insert s) {}).toList
  let sets := distinct.map fun s => s.diff (.singleton f.anything)
  let word := f.outline.word
  let beside := joinSets count sets
  let apart := joinSets count (sets.filter fun s => !s.contains word)
  let patterned := (List.range count).filter fun t => (r.starts.getD t none).isSome
  let scanned := (List.range count).filter fun t => f.outline.scannerStart ≤ t
  let keywords := r.keywords overlaps word count apart
  { overlaps, beside, keywords
    recovery := overlaps.recovery patterned scanned word keywords beside
    metBy := (Array.range count).map fun t =>
      .ofList (patterned.filter fun u => (overlaps.meetings u).contains t) }

end Overdue.Syntax
