/-
The trees that the parser builds.

A tree knows how much text it covers and how much blank text stands before it, but not where it
stands: positions are handed out when the finished tree is laid over its text (`Syntax.Node`). Each
tree carries the sums that the parser compares readings by: what its errors cost, how it is weighted,
and how many nodes of it will show.

Costs are in units of one skipped character. Skipping a line, a whole tree, inserting a token that is
missing, and having to recover at all cost the multiples below.
-/
import Overdue.Syntax.Tables

set_option autoImplicit false

namespace Overdue.Syntax

/-! ## Extents -/

/-- A length of text: its characters, the bytes of its encoding and its line feeds. -/
structure Extent where
  chars : Nat
  bytes : Nat
  rows : Nat
deriving DecidableEq, Inhabited, Repr

namespace Extent

/-- No text. -/
def zero : Extent := ⟨0, 0, 0⟩

/-- One extent after another. -/
def add (a b : Extent) : Extent := ⟨a.chars + b.chars, a.bytes + b.bytes, a.rows + b.rows⟩

instance : Add Extent := ⟨add⟩

/-- The extent of a single character. -/
def ofChar (c : Char) : Extent := ⟨1, c.utf8Size, if c = '\n' then 1 else 0⟩

/-- The extent of a text. -/
def ofChars (cs : List Char) : Extent := cs.foldl (fun e c => e + ofChar c) zero

end Extent

/-! ## Costs -/

/-- The cost of a skipped line. -/
def costSkippedLine : Nat := 30

/-- The cost of a skipped tree. -/
def costSkippedTree : Nat := 100

/-- The cost of having to recover. -/
def costRecovery : Nat := 500

/-- The cost of a token that had to be inserted, which is a recovery too. -/
def costMissing : Nat := 110 + costRecovery

/-! ## Trees -/

/-- What a tree stands for. -/
inductive Label where
  | token (index : Nat)
  /-- A rule, derived by a production. -/
  | rule (index production : Nat)
  /-- Text that fits nowhere. -/
  | error
  /-- Text being skipped, not yet closed. -/
  | skipped
deriving DecidableEq, Inhabited

/-- Whether two labels stand for the same symbol. -/
def Label.sameSymbol : Label → Label → Bool
  | .token i, .token j => i == j
  | .rule i _, .rule j _ => i == j
  | .error, .error => true
  | .skipped, .skipped => true
  | _, _ => false

/-- A number that orders labels the way their symbols are numbered: tokens before rules before
errors. -/
def Label.order (tokens : Nat) : Label → Nat
  | .token i => i
  | .rule i _ => tokens + i
  | .error => 1000000
  | .skipped => 1000001

/-- The sums that a tree carries. -/
structure Summary where
  label : Label
  padding : Extent
  size : Extent
  /-- Whether the tree may stand anywhere. -/
  extra : Bool
  /-- Whether the tree is a token that is not in the text. -/
  missing : Bool
  /-- Whether the tree is a word that starts like a keyword. -/
  keyword : Bool
  /-- The state in which the token was looked for. -/
  soughtIn : Nat
  /-- What the scanner remembers after the token, if it found it. -/
  memory : Option Nat
  /-- Whether that is something else than before. -/
  newMemory : Bool
  cost : Nat
  weight : Int
  visible : Bool
  children : Nat
  visibleChildren : Nat
  visibleDescendants : Nat
deriving Inhabited

/-- A tree: its sums and its parts. -/
inductive Tree where
  | node (summary : Summary) (parts : List Tree)
deriving Inhabited

namespace Tree

/-- The sums of a tree. -/
def summary : Tree → Summary
  | node s _ => s

/-- The parts of a tree. -/
def parts : Tree → List Tree
  | node _ ps => ps

/-- What the tree stands for. -/
def label (t : Tree) : Label := t.summary.label

/-- Whether the tree may stand anywhere. -/
def extra (t : Tree) : Bool := t.summary.extra

/-- What the errors in the tree cost. -/
def cost (t : Tree) : Nat := t.summary.cost

/-- How the tree is weighted among complete readings. -/
def weight (t : Tree) : Int := t.summary.weight

/-- Whether the tree stands for text that fits nowhere. -/
def isError (t : Tree) : Bool := t.label == .error

/-- Whether the tree is the end of the text. -/
def isEnd (t : Tree) : Bool := t.label == .token 0

/-- The number of the token that the tree is, if it is one. -/
def token? (t : Tree) : Option Nat :=
  match t.label with
  | .token i => some i
  | _ => none

/-- The text covered by the tree and the blanks before it. -/
def total (t : Tree) : Extent := t.summary.padding + t.summary.size

/-- The number of nodes that the tree adds to a reading; skipped text counts as progress. -/
def nodeCount (t : Tree) : Nat :=
  t.summary.visibleDescendants + (if t.summary.visible then 1 else 0) +
    (if t.label == .skipped then 1 else 0)

/-- Marks a token as one that may stand anywhere, or not. -/
def setExtra (extra : Bool) : Tree → Tree
  | node s ps => node { s with extra } ps

/-- The sums of a tree without parts. -/
def bare (label : Label) (visible : Bool) : Summary :=
  { label, padding := .zero, size := .zero, extra := false, missing := false, keyword := false
    soughtIn := 0, memory := none, newMemory := false, cost := 0, weight := 0, visible
    children := 0, visibleChildren := 0, visibleDescendants := 0 }

/-- Whether a token shows. -/
def tokenVisible (t : Tables) (token : Nat) : Bool := (t.tokens.getD token default).visible

/-- A token found in the text. -/
def leaf (t : Tables) (token soughtIn : Nat) (padding size : Extent) : Tree :=
  node { bare (.token token) (tokenVisible t token) with
         padding, size, extra := token == 0, soughtIn } []

/-- A token that is not in the text. -/
def missingLeaf (t : Tables) (token : Nat) : Tree :=
  node { bare (.token token) (tokenVisible t token) with missing := true, cost := costMissing } []

/-- Characters that form no token. -/
def errorLeaf (soughtIn : Nat) (padding size : Extent) : Tree :=
  node { bare .error true with padding, size, soughtIn } []

/-- Marks a token as a word that starts like a keyword, or not. -/
def setKeyword (keyword : Bool) : Tree → Tree
  | node s ps => node { s with keyword } ps

/-- Marks a token as one that the scanner found. -/
def setMemory (memory : Nat) (newMemory : Bool) : Tree → Tree
  | node s ps => node { s with memory := some memory, newMemory } ps

/-- Reads a token as another one. -/
def setToken (t : Tables) (token : Nat) : Tree → Tree
  | node s ps => node { s with label := .token token, visible := tokenVisible t token } ps

/-- Whether a label shows in the tree under its own kind. -/
def labelVisible (t : Tables) : Label → Bool
  | .token i => tokenVisible t i
  | .rule i _ => (t.rules.getD i default).visible
  | .error => true
  | .skipped => false

end Tree

/-- Pairs the parts of a production with its places; what may stand anywhere takes no place. -/
def matchSteps : List Step → List Tree → List (Option Step × Tree)
  | _, [] => []
  | steps, t :: ts =>
    if t.extra then (none, t) :: matchSteps steps ts
    else
      match steps with
      | [] => (none, t) :: matchSteps [] ts
      | s :: rest => (some s, t) :: matchSteps rest ts

namespace Tree

/-- Adds a part to the sums of the tree above it. `skipping` tells whether that tree is text that
fits nowhere, where every part costs. -/
def addPart (skipping : Bool) (acc : Summary) (shown : Bool) (part : Tree) : Summary :=
  let s := part.summary
  let inner := if s.label == .skipped then 0 else s.cost
  let skipCost :=
    if skipping && !s.extra && !(s.label == .error && s.children == 0) then
      if s.visible then costSkippedTree
      else if s.children > 0 then costSkippedTree * s.visibleChildren else 0
    else 0
  let first := acc.children == 0
  { acc with
    padding := if first then s.padding else acc.padding
    size := if first then s.size else acc.size + s.padding + s.size
    cost := acc.cost + inner + skipCost
    weight := acc.weight + s.weight
    children := acc.children + 1
    visibleChildren := acc.visibleChildren +
      (if shown || s.visible then 1 else if s.children > 0 then s.visibleChildren else 0)
    visibleDescendants := acc.visibleDescendants + s.visibleDescendants +
      (if shown || s.visible then 1 else 0) }

/-- Puts parts together under a label. -/
def build (t : Tables) (label : Label) (extra : Bool) (parts : List Tree) : Tree :=
  let skipping := label == .error || label == .skipped
  let steps := match label with
    | .rule _ p => ((t.productions[p]?).map (·.steps)).getD []
    | _ => []
  let start : Summary := { bare label (labelVisible t label) with extra }
  let sums := (matchSteps steps parts).foldl
    (fun acc (step?, part) =>
      let shown := (step?.bind (·.display)).isSome
      addPart skipping acc shown part)
    start
  let own := if skipping then costRecovery + sums.size.bytes + costSkippedLine * sums.size.rows
    else 0
  node { sums with cost := sums.cost + own } parts

/-- Adds the weight of a production. -/
def addWeight (w : Int) : Tree → Tree
  | node s ps => node { s with weight := s.weight + w } ps

/-- Splits off the trees at the end that may stand anywhere. -/
def splitTrailingExtras (parts : List Tree) : List Tree × List Tree :=
  let reversed := parts.reverse
  let trailing := reversed.takeWhile (·.extra)
  ((reversed.drop trailing.length).reverse, trailing.reverse)

end Tree

mutual

/-- Orders two trees over the same text by their symbols, then the number of their parts, then part
by part. -/
def Tree.compare (tokens : Nat) : Tree → Tree → Ordering
  | .node s ps, .node s' ps' =>
    (Ord.compare (s.label.order tokens) (s'.label.order tokens)).then
      ((Ord.compare s.children s'.children).then (Tree.compareAll tokens ps ps'))

/-- Orders two lists of trees part by part. -/
def Tree.compareAll (tokens : Nat) : List Tree → List Tree → Ordering
  | [], _ => .eq
  | _, [] => .eq
  | t :: ts, t' :: ts' => (Tree.compare tokens t t').then (Tree.compareAll tokens ts ts')

end

/-- Whether the second of two trees over the same text is the better reading: fewer errors, then a
higher weight, then the smaller symbols. -/
def Tree.prefersSecond (tokens : Nat) (a b : Tree) : Bool :=
  if b.cost < a.cost then true
  else if a.cost < b.cost then false
  else if b.weight > a.weight then true
  else if a.weight > b.weight then false
  else if a.cost > 0 then true
  else Tree.compare tokens a b == .gt

end Overdue.Syntax
