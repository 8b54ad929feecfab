/-
The stack of a parser that follows several readings at once.

Readings that agree on a part of the text share it: the stack is a graph whose vertices are parser
states at places of the text and whose links carry the trees in between. A reading is a version of the
stack, named by its top vertex. Two versions whose tops agree in state, place and cost are merged, and
popping a merged vertex follows each of its links.
-/
import Overdue.Syntax.Lexer

set_option autoImplicit false

namespace Overdue.Syntax

/-! ## The graph -/

/-- A step down the stack. A link without a tree marks where the parser lost track. -/
structure Link where
  target : Nat
  tree : Option Tree
deriving Inhabited

/-- The weight of the tree of a link. -/
def Link.weight (l : Link) : Int := (l.tree.map (·.weight)).getD 0

/-- A parser state at a place, and the sums over the cheapest way down. -/
structure Vertex where
  state : Nat
  place : Cursor
  links : List Link
  cost : Nat
  nodes : Nat
  weight : Int
deriving Inhabited

/-- Whether a version goes on. -/
inductive Status where
  | active
  /-- The next token fits nowhere in this version. -/
  | paused (lookahead : Tree)
  | halted
deriving Inhabited

/-- A state that a version has passed: where, and how many trees down. -/
structure Passed where
  bytes : Nat
  row : Nat
  depth : Nat
  state : Nat
deriving Inhabited

/-- A version of the stack. -/
structure Version where
  top : Nat
  status : Status
  /-- How many nodes the version had when it last lost track. -/
  nodesAtError : Nat
  /-- The states to which a recovery may go back. -/
  trail : Option (List Passed)
  /-- What the scanner remembers, if it has found anything. -/
  memory : Option Nat
deriving Inhabited

/-- The vertices found so far and the versions that are being followed, the most promising first. -/
structure Stack where
  vertices : Array Vertex
  versions : Array Version

/-- How many versions are kept after each token. -/
def maxVersions : Nat := 6

/-- How many more there may be in between. -/
def maxVersionOverflow : Nat := 4

/-- How many links a vertex can have. -/
def maxLinks : Nat := 8

/-- How many ways down are followed at once. -/
def maxWalkers : Nat := 64

/-- How deep a recovery looks. -/
def maxTrailDepth : Nat := 16

namespace Stack

/-- The stack before a text. -/
def start (text : List Char) : Stack :=
  { vertices := #[{ state := 1, place := ⟨0, 0, text⟩, links := [], cost := 0, nodes := 0
                    weight := 0 }]
    versions := #[{ top := 0, status := .active, nodesAtError := 0, trail := none, memory := none }] }

/-- A vertex by number. -/
def vertex (s : Stack) (i : Nat) : Vertex := s.vertices.getD i default

/-- A version by number. -/
def version (s : Stack) (v : Nat) : Version := s.versions.getD v default

/-- The top vertex of a version. -/
def top (s : Stack) (v : Nat) : Vertex := s.vertex (s.version v).top

/-- The state of a version. -/
def state (s : Stack) (v : Nat) : Nat := (s.top v).state

/-- How many versions there are. -/
def count (s : Stack) : Nat := s.versions.size

/-- Whether a version goes on. -/
def isActive (s : Stack) (v : Nat) : Bool :=
  match s.versions[v]? with
  | some { status := .active, .. } => true
  | _ => false

/-- Whether a version waits for a recovery. -/
def isPaused (s : Stack) (v : Nat) : Bool :=
  match s.versions[v]? with
  | some { status := .paused _, .. } => true
  | _ => false

/-- Whether a version is given up. -/
def isHalted (s : Stack) (v : Nat) : Bool :=
  match s.versions[v]? with
  | some { status := .halted, .. } => true
  | _ => false

/-- Gives a version up. -/
def halt (s : Stack) (v : Nat) : Stack :=
  { s with versions := s.versions.modify v fun h => { h with status := .halted } }

/-- Lets a version wait with the token that does not fit. -/
def pause (s : Stack) (v : Nat) (lookahead : Tree) : Stack :=
  let nodes := (s.top v).nodes
  { s with versions := s.versions.modify v fun h =>
      { h with status := .paused lookahead, nodesAtError := nodes } }

/-- Lets a version go on, and returns the token it waited with. -/
def resume (s : Stack) (v : Nat) : Option Tree × Stack :=
  let look := match (s.version v).status with
    | .paused t => some t
    | _ => none
  (look, { s with versions := s.versions.modify v fun h => { h with status := .active } })

/-- Removes a version; later ones move up. -/
def remove (s : Stack) (v : Nat) : Stack :=
  { s with versions := s.versions.eraseIdxIfInBounds v }

/-- Puts a later version in the place of an earlier one. -/
def renumber (s : Stack) (later earlier : Nat) : Stack :=
  if later = earlier then s
  else
    let source := s.version later
    let target := s.version earlier
    let moved := { source with trail := source.trail.or target.trail }
    ({ s with versions := s.versions.set! earlier moved }).remove later

/-- Exchanges two versions. -/
def swap (s : Stack) (v w : Nat) : Stack :=
  let a := s.version v
  let b := s.version w
  { s with versions := (s.versions.set! v b).set! w a }

/-- Adds a copy of a version. -/
def copy (s : Stack) (v : Nat) : Nat × Stack :=
  let h := s.version v
  (s.count, { s with versions := s.versions.push { h with trail := none } })

/-- The number of nodes a version has gained since it lost track. -/
def nodesSinceError (s : Stack) (v : Nat) : Nat × Stack :=
  let nodes := (s.top v).nodes
  let h := s.version v
  if nodes < h.nodesAtError then
    (0, { s with versions := s.versions.modify v fun h => { h with nodesAtError := nodes } })
  else (nodes - h.nodesAtError, s)

/-- What the errors of a version cost, a recovery under way included. -/
def cost (s : Stack) (v : Nat) : Nat :=
  let t := s.top v
  let lost := match t.links with
    | ⟨_, none⟩ :: _ => t.state == 0
    | _ => false
  if s.isPaused v || lost then t.cost + costRecovery else t.cost

/-! ## Pushing and merging -/

/-- Puts a tree, or the mark of an error, on a version. -/
def push (s : Stack) (v : Nat) (tree : Option Tree) (state : Nat) : Stack :=
  let below := (s.version v).top
  let b := s.vertex below
  let new : Vertex := match tree with
    | some t =>
      { state, place := b.place.advance t.total, links := [⟨below, some t⟩]
        cost := b.cost + t.cost, nodes := b.nodes + t.nodeCount, weight := b.weight + t.weight }
    | none => { b with state, links := [⟨below, none⟩] }
  let number := s.vertices.size
  { vertices := s.vertices.push new
    versions := s.versions.modify v fun h =>
      { h with top := number, nodesAtError := if tree.isNone then new.nodes else h.nodesAtError } }

/-- Lets a version remember what the scanner remembers after a token, if it found it. -/
def remember (s : Stack) (v : Nat) (token : Tree) : Stack :=
  match token.summary.memory with
  | some memory =>
    { s with versions := s.versions.modify v fun h => { h with memory := some memory } }
  | none => s

/-- Whether a version has read any text since it last lost track, going down the stack over trees
without text; `depth` bounds how far. -/
def advancedFrom (s : Stack) (nodesAtError : Nat) : Nat → Vertex → Bool
  | 0, _ => false
  | depth + 1, x =>
    match x.links with
    | ⟨below, some t⟩ :: _ =>
      t.total.bytes > 0 ||
        (x.nodes > nodesAtError && t.cost == 0 &&
          advancedFrom s nodesAtError depth (s.vertex below))
    | _ => false

/-- Whether a version has read any text since it last lost track. -/
def hasAdvanced (s : Stack) (v : Nat) : Bool :=
  let x := s.top v
  x.cost == 0 || s.advancedFrom (s.version v).nodesAtError (s.vertices.size + 1) x

/-- Whether two links carry trees that need not be kept apart. -/
def sameTree : Option Tree → Option Tree → Bool
  | none, none => true
  | some a, some b =>
    let x := a.summary
    let y := b.summary
    x.label.sameSymbol y.label &&
      ((x.cost > 0 && y.cost > 0) ||
        (x.padding.bytes == y.padding.bytes && x.size.bytes == y.size.bytes &&
          x.children == y.children && x.extra == y.extra && x.memory == y.memory))
  | _, _ => false

/-- Adds a link to a vertex. If a link with the same tree is there already, the heavier tree stays,
and vertices below that agree are merged in turn; `depth` bounds how far down. -/
def addLink (depth : Nat) (s : Stack) (self : Nat) (link : Link) : Stack :=
  if link.target = self then s
  else
    let here := s.vertex self
    let below := s.vertex link.target
    let rec find : List Link → Nat → Option (Nat × Link × Bool)
      | [], _ => none
      | l :: ls, i =>
        if sameTree l.tree link.tree then
          if l.target = link.target then some (i, l, true)
          else
            let old := s.vertex l.target
            if old.state = below.state && old.place.bytes = below.place.bytes
                && old.cost = below.cost then
              some (i, l, false)
            else find ls (i + 1)
        else find ls (i + 1)
    match find here.links 0 with
    | some (i, old, true) =>
      if link.weight > old.weight then
        { s with vertices := s.vertices.modify self fun x =>
            { x with links := x.links.set i { old with tree := link.tree }
                     weight := below.weight + link.weight } }
      else s
    | some (_, old, false) =>
      match depth with
      | 0 => s
      | depth + 1 =>
        let s := below.links.foldl (fun s l => addLink depth s old.target l) s
        let weight := below.weight + link.weight
        { s with vertices := s.vertices.modify self fun x =>
            if weight > x.weight then { x with weight } else x }
    | none =>
      if here.links.length ≥ maxLinks then s
      else
        let nodes := below.nodes + ((link.tree.map (·.nodeCount)).getD 0)
        let weight := below.weight + link.weight
        { s with vertices := s.vertices.modify self fun x =>
            { x with links := x.links ++ [link], nodes := max x.nodes nodes
                     weight := max x.weight weight } }

/-- Whether two versions have come to the same point. -/
def canMerge (s : Stack) (v w : Nat) : Bool :=
  let a := s.top v
  let b := s.top w
  s.isActive v && s.isActive w && a.state == b.state && a.place.bytes == b.place.bytes
    && a.cost == b.cost && (s.version v).memory == (s.version w).memory

/-- Merges a version into another one, if they have come to the same point. -/
def merge (s : Stack) (v w : Nat) : Bool × Stack :=
  if !s.canMerge v w then (false, s)
  else
    let top := (s.version v).top
    let s := (s.top w).links.foldl (fun s l => addLink s.vertices.size s top l) s
    let nodes := (s.vertex top).nodes
    let s := if (s.vertex top).state == 0 then
        { s with versions := s.versions.modify v fun h => { h with nodesAtError := nodes } }
      else s
    (true, s.remove w)

/-! ## Popping -/

/-- A way down the stack: where it has come to, the trees on it from the lowest up, and how many of
them count. -/
structure Walker where
  vertex : Nat
  trees : List Tree
  count : Nat

/-- Follows a link. -/
def Walker.follow (w : Walker) (l : Link) : Walker :=
  match l.tree with
  | some t =>
    { vertex := l.target, trees := t :: w.trees, count := if t.extra then w.count else w.count + 1 }
  | none => { w with vertex := l.target, count := w.count + 1 }

/-- What to do with a walker: stop it, and whether to keep what it found. -/
inductive Verdict where
  | goOn
  | stop
  | take
deriving DecidableEq

/-- Moves all walkers one link down. A walker at a vertex with several links goes down the first one,
and copies of it, put at the end, go down the others. -/
def stepWalkers (s : Stack) (judge : Walker → Verdict) (walkers : List Walker) :
    List Walker × List Walker :=
  let (kept, added, taken, _) := walkers.foldl
    (fun (kept, added, taken, total) w =>
      match judge w with
      | .take => (kept, added, w :: taken, total - 1)
      | .stop => (kept, added, taken, total - 1)
      | .goOn =>
        match (s.vertex w.vertex).links with
        | [] => (kept, added, taken, total - 1)
        | l :: ls =>
          let room := maxWalkers - total
          let copies := (ls.take room).map w.follow
          (w.follow l :: kept, copies.reverse ++ added, taken, total + copies.length))
    (([] : List Walker), ([] : List Walker), ([] : List Walker), walkers.length)
  (kept.reverse ++ added.reverse, taken.reverse)

/-- Lets walkers go down until all have stopped, and returns what they took. `depth` bounds the number
of steps. -/
def walk (s : Stack) (judge : Walker → Verdict) : Nat → List Walker → List Walker
  | 0, _ => []
  | _ + 1, [] => []
  | depth + 1, walkers =>
    let (next, taken) := stepWalkers s judge walkers
    taken ++ walk s judge depth next

/-- Makes a version for each vertex that walkers have come to. Walkers at the same vertex share it;
their slices stand next to each other. -/
def slices (s : Stack) (v : Nat) (walkers : List Walker) : List (Nat × List (List Tree)) × Stack :=
  let source := s.version v
  walkers.foldl
    (fun (found, s) w =>
      match found.findIdx? fun (x : Nat × List (List Tree)) => (s.version x.1).top == w.vertex with
      | some i => (found.modify i fun x => (x.1, x.2 ++ [w.trees]), s)
      | none =>
        let number := s.count
        let new : Version :=
          { source with top := w.vertex, status := .active, trail := none }
        (found ++ [(number, [w.trees])], { s with versions := s.versions.push new }))
    (([] : List (Nat × List (List Tree))), s)

/-- Pops a number of trees, not counting those that may stand anywhere. -/
def popCount (s : Stack) (v n : Nat) : List (Nat × List (List Tree)) × Stack :=
  let judge := fun (w : Walker) => if w.count = n then Verdict.take else .goOn
  s.slices v (s.walk judge (s.vertices.size + 1) [⟨(s.version v).top, [], 0⟩])

/-- Pops everything. -/
def popAll (s : Stack) (v : Nat) : List (Nat × List (List Tree)) × Stack :=
  let judge := fun (w : Walker) =>
    if (s.vertex w.vertex).links.isEmpty then Verdict.take else .goOn
  s.slices v (s.walk judge (s.vertices.size + 1) [⟨(s.version v).top, [], 0⟩])

/-- Pops an error from the top of a version, if there is one. -/
def popError (s : Stack) (v : Nat) : Option Tree × Stack :=
  let links := (s.top v).links
  match links.find? fun l => (l.tree.map (·.isError)).getD false with
  | some ⟨target, some t⟩ =>
    (some t, { s with versions := s.versions.modify v fun h => { h with top := target } })
  | _ => (none, s)

/-- The states that a version has passed, nearest first. -/
def trailOf (s : Stack) (v : Nat) : List Passed :=
  let rec go : Nat → List Walker → List Passed → List Passed
    | 0, _, found => found
    | _ + 1, [], found => found
    | depth + 1, walkers, found =>
      let found := walkers.foldl
        (fun found w =>
          let x := s.vertex w.vertex
          if w.count > maxTrailDepth then found
          else if found.any fun p => p.depth == w.count && p.state == x.state then found
          else { bytes := x.place.bytes, row := x.place.row, depth := w.count
                 state := x.state } :: found)
        found
      let judge := fun (w : Walker) => if w.count > maxTrailDepth then Verdict.stop else .goOn
      go depth (s.stepWalkers judge walkers).1 found
  (go (s.vertices.size + 1) [⟨(s.version v).top, [], 0⟩] []).reverse

/-- Remembers the states that a version has passed. -/
def recordTrail (s : Stack) (v : Nat) : Stack :=
  let trail := s.trailOf v
  { s with versions := s.versions.modify v fun h => { h with trail := some trail } }

end Stack

end Overdue.Syntax
