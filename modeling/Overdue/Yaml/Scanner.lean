/-
From a configuration text to tokens.

Tokens are produced one at a time. A token at the start of a line, or after some marks, may turn out to be
a key once a colon is seen behind it; the token that says so then goes in front of it, so tokens wait in a
queue as long as that can happen. A key without a question mark must fit into one line and into 1024
characters.
-/
import Overdue.Yaml.Tag

set_option autoImplicit false

namespace Overdue.Yaml

/-- A token that may turn out to be a key: whether it must, its number in the order of all tokens, and
where it stands. -/
structure SimpleKey where
  required : Bool
  number : Nat
  mark : Mark
deriving DecidableEq, Inhabited, Repr

/-- The state of scanning. -/
structure Scanner where
  cursor : Cursor
  started : Bool := false
  /-- The tokens that were produced and not yet taken. -/
  queue : List Token := []
  /-- The number of tokens that were taken. -/
  taken : Nat := 0
  /-- The indentation of the innermost block, which is -1 outside of all blocks. -/
  indent : Int := -1
  /-- The indentations of the enclosing blocks. -/
  indents : List Int := []
  keyAllowed : Bool := true
  /-- The possible keys of the flow collections that are open, the innermost first, and of the block
  around them. -/
  keys : List (Option SimpleKey) := [none]
  flowLevel : Nat := 0
deriving Inhabited, Repr

namespace Scanner

/-- The scanner at the start of a text. -/
def ofText (text : List Char) : Scanner := { cursor := { rest := text } }

/-- A fault at the cursor. -/
def fault (s : Scanner) (problem : String) (context : Option (String × Mark) := none) : Fault :=
  { problem := problem, mark := s.cursor.mark, context := context }

/-- The scanner with one more token at the end of the queue. -/
def push (s : Scanner) (kind : TokenKind) (start stop : Mark) : Scanner :=
  { s with queue := s.queue ++ [⟨kind, start, stop⟩] }

/-- The scanner with a token put in front of the one with a given number. -/
def insertAt (s : Scanner) (number : Nat) (kind : TokenKind) (mark : Mark) : Scanner :=
  let place := number - s.taken
  { s with queue := s.queue.take place ++ ⟨kind, mark, mark⟩ :: s.queue.drop place }

/-! ## Keys and indentation -/

/-- The fault of a token that should have been a key. -/
def missingColon (s : Scanner) (k : SimpleKey) : Fault :=
  s.fault "could not find expected ':'" (some ("while scanning a simple key", k.mark))

/-- The scanner without the possible keys that are too far back to be keys. -/
def dropStaleKeys (s : Scanner) : Except Fault Scanner := do
  let here := s.cursor.mark
  let keys ← s.keys.reverse.mapM fun k? =>
    match k? with
    | none => pure none
    | some k =>
      if k.mark.line < here.line || k.mark.index + 1024 < here.index then
        if k.required then throw (s.missingColon k) else pure none
      else pure (some k)
  return { s with keys := keys.reverse }

/-- The scanner without the possible key of the innermost collection. -/
def dropKey (s : Scanner) : Except Fault Scanner :=
  match s.keys with
  | some k :: rest => if k.required then .error (s.missingColon k) else .ok { s with keys := none :: rest }
  | _ => .ok s

/-- The scanner with the next token as a possible key, if one is allowed here. -/
def saveKey (s : Scanner) : Except Fault Scanner := do
  if !s.keyAllowed then return s
  let here := s.cursor.mark
  let key : SimpleKey := {
    required := s.flowLevel == 0 && s.indent == here.column
    number := s.taken + s.queue.length
    mark := here }
  let s ← s.dropKey
  return { s with keys := some key :: s.keys.drop 1 }

/-- The scanner with a new block if a column is deeper than the innermost one. The token for the block goes
in front of the token with a given number, or to the end of the queue. -/
def openBlock (s : Scanner) (column : Nat) (number : Option Nat) (kind : TokenKind) (mark : Mark) :
    Scanner :=
  if s.flowLevel == 0 && s.indent < column then
    let s := { s with indents := s.indent :: s.indents, indent := column }
    match number with
    | some n => s.insertAt n kind mark
    | none => s.push kind mark mark
  else s

/-- Closes so many blocks at most. -/
def closeBlocksWith (column : Int) : Nat → Scanner → Scanner
  | 0, s => s
  | fuel + 1, s =>
    if column < s.indent then
      let s := s.push .blockEnd s.cursor.mark s.cursor.mark
      closeBlocksWith column fuel
        { s with indent := s.indents.head?.getD (-1), indents := s.indents.drop 1 }
    else s

/-- The scanner without the blocks that are deeper than a column. -/
def closeBlocks (s : Scanner) (column : Int) : Scanner :=
  if s.flowLevel == 0 then closeBlocksWith column (s.indents.length + 1) s else s

/-! ## Tokens -/

/-- The scanner after a mark of so many characters, with a token for it. -/
def mark (s : Scanner) (kind : TokenKind) (width : Nat) : Scanner :=
  let start := s.cursor.mark
  let s := { s with cursor := s.cursor.advance width }
  s.push kind start s.cursor.mark

/-- Skips white space, comments and line breaks. A byte order mark may start a line. A tab may not stand
where a key may. -/
def skipToToken : Nat → Scanner → Scanner
  | 0, s => s
  | fuel + 1, s =>
    let c := s.cursor
    let c := if c.mark.column == 0 && c.rest.head? == some '\ufeff' then c.advance 1 else c
    let tabs := 0 < s.flowLevel || !s.keyAllowed
    let c := (c.skipWhile fun b => b == ' ' || (tabs && b == '\t')).skipComment
    if !c.rest.isEmpty && atBreak c.rest then
      skipToToken fuel
        { s with cursor := c.takeBreak.2, keyAllowed := s.keyAllowed || s.flowLevel == 0 }
    else { s with cursor := c }

/-- The end of the text. -/
def fetchEnd (s : Scanner) : Except Fault Scanner := do
  let m := s.cursor.mark
  let m := if m.column != 0 then { m with column := 0, line := m.line + 1 } else m
  let s := { s with cursor := { s.cursor with mark := m } }
  let s ← (s.closeBlocks (-1)).dropKey
  return { s with keyAllowed := false }.push .streamEnd m m

/-- A directive. -/
def fetchDirective (s : Scanner) : Except Fault Scanner := do
  let s ← (s.closeBlocks (-1)).dropKey
  let start := s.cursor.mark
  let (kind, stop, c) ← readDirective s.cursor
  return { s with keyAllowed := false, cursor := c }.push kind start stop

/-- The start or the end of a document. -/
def fetchDocumentMark (s : Scanner) (kind : TokenKind) : Except Fault Scanner := do
  let s ← (s.closeBlocks (-1)).dropKey
  return { s with keyAllowed := false }.mark kind 3

/-- The start of a flow collection. -/
def fetchFlowStart (s : Scanner) (kind : TokenKind) : Except Fault Scanner := do
  let s ← s.saveKey
  return { s with keys := none :: s.keys, flowLevel := s.flowLevel + 1, keyAllowed := true }.mark kind 1

/-- The end of a flow collection. -/
def fetchFlowEnd (s : Scanner) (kind : TokenKind) : Except Fault Scanner := do
  let s ← s.dropKey
  let s :=
    if s.flowLevel == 0 then s
    else { s with keys := s.keys.drop 1, flowLevel := s.flowLevel - 1 }
  return { s with keyAllowed := false }.mark kind 1

/-- A comma. -/
def fetchFlowEntry (s : Scanner) : Except Fault Scanner := do
  let s ← s.dropKey
  return { s with keyAllowed := true }.mark .flowEntry 1

/-- A block of a given kind at the cursor, outside of flow collections, where a key must be allowed. -/
def requireBlock (s : Scanner) (kind : TokenKind) (problem : String) : Except Fault Scanner :=
  if s.flowLevel != 0 then .ok s
  else if !s.keyAllowed then .error (s.fault problem)
  else .ok (s.openBlock s.cursor.mark.column none kind s.cursor.mark)

/-- A dash. -/
def fetchBlockEntry (s : Scanner) : Except Fault Scanner := do
  let s ←
    s.requireBlock .blockSequenceStart "block sequence entries are not allowed in this context"
  let s ← s.dropKey
  return { s with keyAllowed := true }.mark .blockEntry 1

/-- A question mark. -/
def fetchKey (s : Scanner) : Except Fault Scanner := do
  let s ← s.requireBlock .blockMappingStart "mapping keys are not allowed in this context"
  let s ← s.dropKey
  return { s with keyAllowed := s.flowLevel == 0 }.mark .key 1

/-- A colon. -/
def fetchValue (s : Scanner) : Except Fault Scanner := do
  match s.keys with
  | some k :: rest =>
    let s := s.insertAt k.number .key k.mark
    let s := s.openBlock k.mark.column (some k.number) .blockMappingStart k.mark
    return { s with keys := none :: rest, keyAllowed := false }.mark .value 1
  | _ =>
    let s ← s.requireBlock .blockMappingStart "mapping values are not allowed in this context"
    return { s with keyAllowed := s.flowLevel == 0 }.mark .value 1

/-- An anchor or a reference to one. -/
def fetchAnchor (s : Scanner) (context : String) (kind : String → TokenKind) :
    Except Fault Scanner := do
  let s ← s.saveKey
  let start := s.cursor.mark
  let (name, c) ← readAnchor context s.cursor
  return { s with keyAllowed := false, cursor := c }.push (kind name) start c.mark

/-- A tag. -/
def fetchTag (s : Scanner) : Except Fault Scanner := do
  let s ← s.saveKey
  let start := s.cursor.mark
  let (kind, c) ← readTag (s.flowLevel != 0) s.cursor
  return { s with keyAllowed := false, cursor := c }.push kind start c.mark

/-- A block scalar. -/
def fetchBlockScalar (s : Scanner) (literal : Bool) : Except Fault Scanner := do
  let s ← s.dropKey
  let start := s.cursor.mark
  let (scalar, c) ← readBlock literal s.indent start (s.cursor.advance 1)
  return { s with keyAllowed := true, cursor := c }.push
    (.scalar (String.ofList scalar.text) (if literal then .literal else .folded)) start scalar.stop

/-- A quoted scalar. -/
def fetchQuoted (s : Scanner) (single : Bool) : Except Fault Scanner := do
  let s ← s.saveKey
  let start := s.cursor.mark
  let c := s.cursor.advance 1
  let (scalar, c) ← readQuoted single start (c.rest.length + 1) [] c
  return { s with keyAllowed := false, cursor := c }.push
    (.scalar (String.ofList scalar.text) (if single then .singleQuoted else .doubleQuoted))
    start scalar.stop

/-- A plain scalar. -/
def fetchPlain (s : Scanner) : Except Fault Scanner := do
  let s ← s.saveKey
  let c := s.cursor
  let (scalar, c') ←
    readPlain (s.flowLevel != 0) s.indent c.mark (c.rest.length + 1)
      { text := [], stop := c.mark } {} c
  return { s with keyAllowed := scalar.brokenAfter, cursor := c' }.push
    (.scalar (String.ofList scalar.text) .plain) c.mark scalar.stop

/-- The characters that cannot start a plain scalar. -/
def indicators : List Char :=
  ['-', '?', ':', ',', '[', ']', '\x7b', '\x7d', '#', '&', '*', '!', '|', '>', '\'', '"', '%', '@',
    '\x60']

/-- Whether a plain scalar starts with a character and the text after it. -/
def startsPlain (inFlow : Bool) (c : Char) (next : List Char) : Bool :=
  !(isBlank c || isBreak c || indicators.contains c) ||
  (c == '-' && !(next.head?.any isBlank)) ||
  (!inFlow && (c == '?' || c == ':') && !atBlank next)

/-- Produces the next token, or several. -/
def fetch (s : Scanner) : Except Fault Scanner := do
  if !s.started then
    return { s with started := true }.push .streamStart s.cursor.mark s.cursor.mark
  let s := skipToToken (s.cursor.rest.length + 1) s
  let s ← s.dropStaleKeys
  let s := s.closeBlocks s.cursor.mark.column
  let inFlow := s.flowLevel != 0
  match s.cursor.rest with
  | [] => s.fetchEnd
  | c :: next =>
    if s.cursor.mark.column == 0 && c == '%' then s.fetchDirective
    else if s.cursor.atIndicator '-' then s.fetchDocumentMark .documentStart
    else if s.cursor.atIndicator '.' then s.fetchDocumentMark .documentEnd
    else if c == '[' then s.fetchFlowStart .flowSequenceStart
    else if c == '\x7b' then s.fetchFlowStart .flowMappingStart
    else if c == ']' then s.fetchFlowEnd .flowSequenceEnd
    else if c == '\x7d' then s.fetchFlowEnd .flowMappingEnd
    else if c == ',' then s.fetchFlowEntry
    else if c == '-' && atBlank next then s.fetchBlockEntry
    else if c == '?' && (inFlow || atBlank next) then s.fetchKey
    else if c == ':' && (inFlow || atBlank next) then s.fetchValue
    else if c == '*' then s.fetchAnchor "while scanning an alias" .reference
    else if c == '&' then s.fetchAnchor "while scanning an anchor" .anchor
    else if c == '!' then s.fetchTag
    else if c == '|' && !inFlow then s.fetchBlockScalar true
    else if c == '>' && !inFlow then s.fetchBlockScalar false
    else if c == '\'' then s.fetchQuoted true
    else if c == '"' then s.fetchQuoted false
    else if startsPlain inFlow c next then s.fetchPlain
    else
      throw (s.fault "found character that cannot start any token"
        (some ("while scanning for the next token", s.cursor.mark)))

/-- Produces tokens until the first in the queue can no longer turn out to be a key. -/
def fetchMore : Nat → Scanner → Except Fault Scanner
  | 0, s => .ok s
  | fuel + 1, s => do
    if s.queue.isEmpty then fetchMore fuel (← s.fetch)
    else
      let s ← s.dropStaleKeys
      if s.keys.any fun k? => k?.any (·.number == s.taken) then fetchMore fuel (← s.fetch)
      else return s

/-- The next token, which stays in the queue. -/
def peek (s : Scanner) : Except Fault (Token × Scanner) := do
  let s ← fetchMore (s.cursor.rest.length + 3) s
  match s.queue with
  | t :: _ => return (t, s)
  | [] => return (⟨.streamEnd, s.cursor.mark, s.cursor.mark⟩, s)

/-- The scanner without the next token. -/
def drop (s : Scanner) : Scanner := { s with queue := s.queue.drop 1, taken := s.taken + 1 }

end Scanner

end Overdue.Yaml
