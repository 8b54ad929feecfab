/-
Reading scalars.

A scalar that goes over several lines is folded: a single line break becomes a blank, and of several the
first is dropped. Blanks around line breaks do not count. In a literal block nothing is folded.
-/
import Overdue.Text.Digit
import Overdue.Yaml.Cursor

set_option autoImplicit false

namespace Overdue.Yaml

open Overdue.Text

/-- A fault at the cursor while something was read that began at a given place. -/
def Cursor.fault (c : Cursor) (context : String) (start : Mark) (problem : String) : Fault :=
  { problem := problem, mark := c.mark, context := some (context, start) }

/-! ## White space between the pieces of a scalar -/

/-- White space inside a scalar of which it is not yet known whether more follows: the blanks before the
first line break, whether there was a break, that break, and the breaks after it. -/
structure Gap where
  blanks : List Char := []
  broken : Bool := false
  firstBreak : List Char := []
  moreBreaks : List Char := []
deriving DecidableEq, Inhabited, Repr

namespace Gap

/-- What white space comes to if more of the scalar follows. -/
def folded (g : Gap) : List Char :=
  if !g.broken then g.blanks
  else if g.firstBreak == ['\n'] then
    if g.moreBreaks.isEmpty then [' '] else g.moreBreaks
  else g.firstBreak ++ g.moreBreaks

/-- The white space with one more blank. -/
def addBlank (g : Gap) (c : Char) : Gap :=
  if g.broken then g else { g with blanks := g.blanks ++ [c] }

/-- The white space with one more line break. -/
def addBreak (g : Gap) (text : List Char) : Gap :=
  if g.broken then { g with moreBreaks := g.moreBreaks ++ text }
  else { blanks := [], broken := true, firstBreak := text, moreBreaks := g.moreBreaks }

end Gap

/-- Takes the white space at the cursor. The test tells for which cursors a tab is not allowed after a
line break, and the result is then the cursor of that tab. -/
def takeGap (badTab : Cursor → Bool) : Nat → Gap → Cursor → Except Cursor (Gap × Cursor)
  | 0, g, c => .ok (g, c)
  | fuel + 1, g, c =>
    match c.rest with
    | [] => .ok (g, c)
    | b :: _ =>
      if isBlank b then
        if g.broken && b == '\t' && badTab c then .error c
        else takeGap badTab fuel (g.addBlank b) (c.advance 1)
      else if isBreak b then
        let (text, next) := c.takeBreak
        takeGap badTab fuel (g.addBreak text) next
      else .ok (g, c)

/-! ## Plain scalars -/

/-- The characters that end a plain scalar inside a flow collection. -/
def flowMarks : List Char := [',', '[', ']', '\x7b', '\x7d']

/-- The characters of a plain scalar up to white space or a character that ends it; the flag says that a
colon stands where it is not allowed. -/
def plainPiece (inFlow : Bool) : List Char → List Char × Bool
  | [] => ([], false)
  | c :: cs =>
    if isBlank c || isBreak c then ([], false)
    else if inFlow && c == ':' && (cs.head?.any fun d => flowMarks.contains d || d == '?') then
      ([], true)
    else if (c == ':' && atBlank cs) || (inFlow && flowMarks.contains c) then ([], false)
    else
      let (piece, bad) := plainPiece inFlow cs
      (c :: piece, bad)

/-- The result of reading a scalar. -/
structure ScalarText where
  text : List Char
  /-- The place after its last character. -/
  stop : Mark
  /-- Whether a line break stands between its last character and the cursor. -/
  brokenAfter : Bool := false
deriving Inhabited, Repr

/-- Reads a plain scalar that began at a given place. Outside of flow collections its lines must be
indented deeper than the enclosing block. -/
def readPlain (inFlow : Bool) (indent : Int) (start : Mark) :
    Nat → ScalarText → Gap → Cursor → Except Fault (ScalarText × Cursor)
  | 0, s, _, c => .ok (s, c)
  | fuel + 1, s, gap, c =>
    let done : ScalarText := { s with brokenAfter := gap.broken }
    if c.atDocument || c.rest.head? == some '#' then .ok (done, c)
    else
      let (piece, bad) := plainPiece inFlow c.rest
      let c := c.advance piece.length
      if bad then .error (c.fault "while scanning a plain scalar" start "found unexpected ':'")
      else
        let (s, gap) :=
          if piece.isEmpty then (s, gap)
          else ({ text := s.text ++ gap.folded ++ piece, stop := c.mark }, {})
        if c.rest.isEmpty || !atBlank c.rest then .ok ({ s with brokenAfter := gap.broken }, c)
        else
          match takeGap (fun c => (c.mark.column : Int) < indent + 1) c.rest.length gap c with
          | .error tab =>
            .error (tab.fault "while scanning a plain scalar" start
              "found a tab character that violates indentation")
          | .ok (gap, c) =>
            if !inFlow && (c.mark.column : Int) < indent + 1 then
              .ok ({ s with brokenAfter := gap.broken }, c)
            else readPlain inFlow indent start fuel s gap c

/-! ## Quoted scalars -/

/-- The character that a single-letter escape stands for. -/
def simpleEscape? : Char → Option Char
  | '0' => some '\x00'
  | 'a' => some '\x07'
  | 'b' => some '\x08'
  | 't' => some '\t'
  | '\t' => some '\t'
  | 'n' => some '\n'
  | 'v' => some '\x0b'
  | 'f' => some '\x0c'
  | 'r' => some '\r'
  | 'e' => some '\x1b'
  | ' ' => some ' '
  | '"' => some '"'
  | '/' => some '/'
  | '\\' => some '\\'
  | 'N' => some '\u0085'
  | '_' => some '\u00a0'
  | 'L' => some '\u2028'
  | 'P' => some '\u2029'
  | _ => none

/-- The number of digits of an escape that gives a code point. -/
def codeLength? : Char → Option Nat
  | 'x' => some 2
  | 'u' => some 4
  | 'U' => some 8
  | _ => none

/-- Reads an escape in a scalar that began at a given place: the character that it stands for, and the
cursor after it. -/
def readEscape (start : Mark) (c : Cursor) : Except Fault (Char × Cursor) :=
  let fail (c : Cursor) (problem : String) : Fault :=
    c.fault "while parsing a quoted scalar" start problem
  match c.rest.drop 1 with
  | [] => .error (fail c "found unknown escape character")
  | e :: digits =>
    match simpleEscape? e, codeLength? e with
    | some result, _ => .ok (result, c.advance 2)
    | none, none => .error (fail c "found unknown escape character")
    | none, some length =>
      let c := c.advance 2
      let ds := digits.take length
      match valueInBase? 16 ds, ds.length == length with
      | some n, true =>
        if (0xd800 ≤ n && n ≤ 0xdfff) || 0x10ffff < n then
          .error (fail c "found invalid Unicode character escape code")
        else .ok (Char.ofNat n, c.advance length)
      | _, _ => .error (fail c "did not find expected hexadecimal number")

/-- Reads the characters of a quoted scalar up to white space or the closing mark. An escaped line break
ends them too, and counts as white space; the flag tells of it. -/
def readQuotedPiece (single : Bool) (start : Mark) :
    Nat → List Char → Cursor → Except Fault (List Char × Bool × Cursor)
  | 0, piece, c => .ok (piece, false, c)
  | fuel + 1, piece, c =>
    match c.rest with
    | [] => .ok (piece, false, c)
    | b :: next =>
      if isBlank b || isBreak b then .ok (piece, false, c)
      else if single && b == '\'' && next.head? == some '\'' then
        readQuotedPiece single start fuel (piece ++ ['\'']) (c.advance 2)
      else if b == (if single then '\'' else '"') then .ok (piece, false, c)
      else if !single && b == '\\' && (next.head?.any isBreak) then
        .ok (piece, true, (c.advance 1).takeBreak.2)
      else if !single && b == '\\' then
        match readEscape start c with
        | .error f => .error f
        | .ok (e, c) => readQuotedPiece single start fuel (piece ++ [e]) c
      else readQuotedPiece single start fuel (piece ++ [b]) (c.advance 1)

/-- Reads a quoted scalar from behind its opening mark up to and including its closing mark. -/
def readQuoted (single : Bool) (start : Mark) :
    Nat → List Char → Cursor → Except Fault (ScalarText × Cursor)
  | 0, text, c => .ok ({ text := text, stop := c.mark }, c)
  | fuel + 1, text, c =>
    let fail (problem : String) : Fault := c.fault "while scanning a quoted scalar" start problem
    if c.atDocument then .error (fail "found unexpected document indicator")
    else if c.rest.isEmpty then .error (fail "found unexpected end of stream")
    else
      match readQuotedPiece single start c.rest.length [] c with
      | .error f => .error f
      | .ok (piece, escaped, c) =>
        if c.rest.head? == some (if single then '\'' else '"') then
          let c := c.advance 1
          .ok ({ text := text ++ piece, stop := c.mark }, c)
        else
          match takeGap (fun _ => false) c.rest.length { broken := escaped } c with
          | .error _ => .error (fail "found unexpected end of stream")
          | .ok (gap, c) => readQuoted single start fuel (text ++ piece ++ gap.folded) c

/-! ## Block scalars -/

/-- What happens to the line breaks at the end of a block scalar. -/
inductive Chomping where
  | strip
  | clip
  | keep
deriving DecidableEq, Inhabited, Repr

/-- The header of a block scalar: its chomping, and its indentation if that is given. -/
structure BlockHeader where
  chomping : Chomping := .clip
  increment : Option Nat := none
deriving DecidableEq, Inhabited, Repr

/-- The chomping that a character asks for. -/
def chomping? : Char → Option Chomping
  | '+' => some .keep
  | '-' => some .strip
  | _ => none

/-- Reads the digit for the indentation of a block scalar, if there is one. -/
def readIncrement (start : Mark) (c : Cursor) : Except Fault (Option Nat × Cursor) :=
  match c.rest with
  | d :: _ =>
    if d == '0' then
      .error (c.fault "while scanning a block scalar" start
        "found an indentation indicator equal to 0")
    else if d.isDigit then .ok (some (valueOf [d]), c.advance 1)
    else .ok (none, c)
  | [] => .ok (none, c)

/-- Reads the header of a block scalar up to the end of its line. -/
def readHeader (start : Mark) (c : Cursor) : Except Fault (BlockHeader × Cursor) := do
  let (header, c) ←
    match c.rest.head?.bind chomping? with
    | some chomping => do
      let (increment, c) ← readIncrement start (c.advance 1)
      pure (({ chomping := chomping, increment := increment } : BlockHeader), c)
    | none => do
      let (increment, c) ← readIncrement start c
      match increment, c.rest.head?.bind chomping? with
      | some n, some chomping =>
        pure (({ chomping := chomping, increment := some n } : BlockHeader), c.advance 1)
      | increment, _ => pure (({ increment := increment } : BlockHeader), c)
  let c := (c.skipWhile isBlank).skipComment
  if atBreak c.rest then return (header, c.takeBreak.2)
  else
    throw (c.fault "while scanning a block scalar" start
      "did not find expected comment or line break")

/-- Takes the indentation and the empty lines at the cursor: their breaks, the deepest indentation, the
place after the last break, and the cursor after them. An indentation of zero is not known yet. -/
def takeIndentation (indent : Nat) (start : Mark) :
    Nat → List Char → Nat → Mark → Cursor → Except Fault (List Char × Nat × Mark × Cursor)
  | 0, breaks, deepest, stop, c => .ok (breaks, deepest, stop, c)
  | fuel + 1, breaks, deepest, stop, c =>
    let blanks := (c.rest.takeWhile (· == ' ')).length
    let c := c.advance (if indent = 0 then blanks else min blanks (indent - c.mark.column))
    let deepest := max deepest c.mark.column
    if (indent = 0 || c.mark.column < indent) && c.rest.head? == some '\t' then
      .error (c.fault "while scanning a block scalar" start
        "found a tab character where an indentation space is expected")
    else if c.rest.isEmpty || !atBreak c.rest then .ok (breaks, deepest, stop, c)
    else
      let (text, c) := c.takeBreak
      takeIndentation indent start fuel (breaks ++ text) deepest c.mark c

/-- Reads the lines of a block scalar, and then chomps its end. -/
def readBlockLines (literal : Bool) (chomping : Chomping) (indent : Nat) (start : Mark) :
    Nat → List Char → List Char → List Char → Bool → Mark → Cursor →
      Except Fault (ScalarText × Cursor)
  | 0, text, _, _, _, stop, c => .ok ({ text := text, stop := stop }, c)
  | fuel + 1, text, firstBreak, moreBreaks, afterBlank, stop, c =>
    if c.mark.column = indent && !c.rest.isEmpty then
      let blank := c.rest.head?.any isBlank
      let fold := !literal && firstBreak == ['\n'] && !afterBlank && !blank
      let joint :=
        if fold then (if moreBreaks.isEmpty then [' '] else []) else firstBreak
      let line := c.rest.takeWhile (!isBreak ·)
      let (lineBreak, c) := (c.advance line.length).takeBreak
      match takeIndentation indent start (c.rest.length + 1) [] 0 c.mark c with
      | .error f => .error f
      | .ok (breaks, _, stop, c) =>
        readBlockLines literal chomping indent start fuel (text ++ joint ++ moreBreaks ++ line)
          lineBreak breaks blank stop c
    else
      let ending :=
        match chomping with
        | .strip => []
        | .clip => firstBreak
        | .keep => firstBreak ++ moreBreaks
      .ok ({ text := text ++ ending, stop := stop }, c)

/-- Reads a block scalar from behind its indicator; `enclosing` is the indentation of the enclosing
block. -/
def readBlock (literal : Bool) (enclosing : Int) (start : Mark) (c : Cursor) :
    Except Fault (ScalarText × Cursor) := do
  let (header, c) ← readHeader start c
  let given :=
    match header.increment with
    | some n => (if 0 ≤ enclosing then enclosing.toNat + n else n)
    | none => 0
  let (breaks, deepest, stop, c) ← takeIndentation given start (c.rest.length + 1) [] 0 c.mark c
  let indent := if given = 0 then max deepest (max (enclosing + 1).toNat 1) else given
  readBlockLines literal header.chomping indent start (c.rest.length + 1) [] [] breaks false stop c

end Overdue.Yaml
