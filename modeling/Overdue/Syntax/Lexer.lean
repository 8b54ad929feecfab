/-
Reading the next token of a text.

Which token comes next depends on where the parser is: only the tokens that its state can use are
looked for, and others that do not get in their way. The scanner is asked first, where it can find
something. A word that is spelled like a keyword is read as the keyword where the state can use it, and
as a plain word elsewhere.

If nothing is found, the tokens of a parser that has lost track are tried, so that an unexpected token
is still read whole; and if that fails too, the characters up to the next thing that is a token form an
error.
-/
import Overdue.Syntax.Tree

set_option autoImplicit false

namespace Overdue.Syntax

/-! ## Places in a text -/

/-- A place in a text: how far it is from the start and what comes after it. -/
structure Cursor where
  bytes : Nat
  row : Nat
  rest : List Char
deriving Inhabited

/-- Moves on by an extent. -/
def Cursor.advance (c : Cursor) (amount : Extent) : Cursor :=
  { bytes := c.bytes + amount.bytes, row := c.row + amount.rows, rest := c.rest.drop amount.chars }

/-- The mark that may stand at the very start of a text without belonging to it. -/
def byteOrderMark : Char := Char.ofNat 0xfeff

/-- How many characters of the mark stand so many characters after a place. -/
def Cursor.markAt (place : Cursor) (offset : Nat) : Nat :=
  match place.bytes, offset, place.rest with
  | 0, 0, c :: _ => if c = byteOrderMark then 1 else 0
  | _, _, _ => 0

/-! ## Running the automaton -/

/-- How a run of the automaton ended. All numbers count characters from the same place. -/
structure LexRun where
  /-- The last token that was complete, and where it ended. -/
  found : Option (Nat × Nat)
  /-- Where the blanks before it ended. -/
  start : Nat
  /-- Where the run stopped. -/
  stop : Nat

/-- Runs the automaton from a state over a text, of which `here` characters have been read. -/
def Tables.run (t : Tables) (state here start : Nat) (found : Option (Nat × Nat)) :
    List Char → LexRun
  | [] =>
    let s := t.lex.getD state default
    if s.atEnd then ⟨some (0, here), start, here⟩
    else ⟨(s.accept.map (·, here)).or found, start, here⟩
  | c :: cs =>
    let s := t.lex.getD state default
    let found := (s.accept.map (·, here)).or found
    match s.moves.getD (t.alphabet.classOf c) none with
    | none => ⟨found, start, here⟩
    | some next =>
      t.run next.state (here + 1) (if next.blank then here + 1 else start) found cs

/-! ## Looking for a token -/

/-- What is known of the place at which a token is looked for. -/
structure Search where
  place : Cursor
  /-- The state that the token is for. -/
  state : Nat
  /-- What the scanner remembers. -/
  memory : Option Nat
  /-- Whether any text has been read since the parser last lost track. -/
  advanced : Bool

/-- A token that was found: its padding and length in characters, and what the scanner remembers if it
found the token. -/
structure Found where
  token : Nat
  start : Nat
  stop : Nat
  memory : Option Nat

/-- The state after a token, or 0. -/
def Tables.stateAfter (t : Tables) (state token : Nat) : Nat :=
  match ((t.rows.getD state default).actions.getD token []).getLast? with
  | some (.shift target _) => target
  | some .shiftExtra => state
  | _ => 0

/-- Asks the scanner for a token so many characters after a place. Tokens without characters are
passed over where they would lead nowhere: when the parser has lost track, has not got any further
since, or can take the token anywhere. -/
def Search.scan (s : Search) (t : Tables) (lost : Bool) (row : Row) (offset : Nat) : Option Found :=
  if row.scanned.isEmpty then none
  else
    let mark := s.place.markAt offset
    let possible := fun i => row.scanned.contains (t.scannerStart + i)
    match t.scanner possible (s.memory.getD 0) (s.place.rest.drop (offset + mark)) with
    | none => none
    | some found =>
      let start := offset + mark + found.skipped
      let stop := start + found.length
      let token := t.scannerStart + found.token
      let idle := stop ≤ offset && s.memory == some found.memory &&
        (lost || !s.advanced || t.stateAfter s.state token == s.state)
      if idle then none else some ⟨token, start, stop, some found.memory⟩

/-- Looks for a token so many characters after a place, or else tells how far that went. -/
def Search.look (s : Search) (t : Tables) (lost : Bool) (row : Row) (offset : Nat) :
    Except LexRun Found :=
  match s.scan t lost row offset with
  | some found => .ok found
  | none =>
    let mark := s.place.markAt offset
    let run := t.run row.lex (offset + mark) (offset + mark) none
      (s.place.rest.drop (offset + mark))
    match run.found with
    | some (token, stop) => .ok ⟨token, run.start, stop, none⟩
    | none => .error run

/-- The end of the characters from which no token can be read. `last` is where they end at least, and
`stop` how far the last attempt went. -/
def Search.errorEnd (s : Search) (t : Tables) (row : Row) (length : Nat) : Nat → Nat → Nat → Nat
  | 0, last, _ => last
  | fuel + 1, last, stop =>
    if stop = last && length ≤ stop then last
    else
      let last := if stop = last then stop + 1 else stop
      match s.look t true row last with
      | .ok _ => last
      | .error run => s.errorEnd t row length fuel last run.stop

/-- The text between two places that are so many characters after a place. -/
def Cursor.extent (place : Cursor) (start stop : Nat) : Extent :=
  Extent.ofChars ((place.rest.drop start).take (stop - start))

/-- The tree of a token that was found. -/
def Search.tree (s : Search) (t : Tables) (found : Found) : Tree :=
  let padding := s.place.extent 0 found.start
  let size := s.place.extent found.start found.stop
  let leaf := Tree.leaf t found.token s.state padding size
  match found.memory with
  | some memory => leaf.setMemory memory (s.memory != some memory)
  | none =>
    if found.token = t.word then
      let run := t.run t.keywordLex found.start found.start none (s.place.rest.drop found.start)
      match run.found with
      | none => leaf
      | some (keyword, stop) =>
        let usable := stop = found.stop &&
          !((t.rows.getD s.state default).actions.getD keyword []).isEmpty
        (if usable then leaf.setToken t keyword else leaf).setKeyword true
    else leaf

/-- The next token, as a tree. At the end of a rule that may stand anywhere no token is looked for. -/
def Search.next (s : Search) (t : Tables) : Option Tree :=
  let row := t.rows.getD s.state default
  if row.ends then none
  else
    let lostRow := t.rows.getD 0 default
    let result : Except LexRun Found := match s.look t (s.state == 0) row 0 with
      | .ok found => .ok found
      | .error run => if s.state = 0 then .error run else s.look t true lostRow 0
    match result with
    | .ok found => some (s.tree t found)
    | .error run =>
      let length := s.place.rest.length
      let stop := s.errorEnd t lostRow length (length + 1) run.start run.stop
      some (Tree.errorLeaf s.state (s.place.extent 0 run.start) (s.place.extent run.start stop))

end Overdue.Syntax
