/-
From tokens to events.

The events of a text are its scalars, references and the starts and ends of its collections and documents,
in order. They are produced by a machine that knows what it expects next and keeps a stack of what it
expects when that is done. Where a node is missing but allowed to be, there is an empty scalar.
-/
import Overdue.Yaml.Scanner

set_option autoImplicit false

namespace Overdue.Yaml

/-- What an event is. -/
inductive EventKind where
  | streamStart
  | streamEnd
  | documentStart
  | documentEnd
  | reference (name : String)
  | scalar (anchor : Option String) (tag : Option String) (text : String) (style : ScalarStyle)
  | sequenceStart (anchor : Option String) (tag : Option String)
  | sequenceEnd
  | mappingStart (anchor : Option String) (tag : Option String)
  | mappingEnd
deriving DecidableEq, Inhabited, Repr

/-- An event and where it begins. -/
structure Event where
  kind : EventKind
  mark : Mark
deriving DecidableEq, Inhabited, Repr

/-- What the machine expects next. -/
inductive Expectation where
  | streamStart
  | document (implicit : Bool)
  | documentContent
  | documentEnd
  | blockNode
  | blockSequenceEntry (first : Bool)
  | indentlessEntry
  | blockMappingKey (first : Bool)
  | blockMappingValue
  | flowSequenceEntry (first : Bool)
  | pairKey
  | pairValue
  | pairEnd
  | flowMappingKey (first : Bool)
  | flowMappingValue (empty : Bool)
  | nothing
deriving DecidableEq, Inhabited, Repr

/-- The state of the machine. -/
structure Parser where
  scanner : Scanner
  expected : Expectation := .streamStart
  stack : List Expectation := []
  /-- Where the open collections began, the innermost first. -/
  starts : List Mark := []
  /-- What tag handles stand for. -/
  handles : List (String × String) := []
deriving Inhabited, Repr

namespace Parser

/-- The parser at the start of a text. -/
def ofText (text : List Char) : Parser := { scanner := .ofText text }

/-- The result of a step. -/
abbrev Step := Except Fault (Event × Parser)

/-- The next token, which is not taken. -/
def peek (p : Parser) : Except Fault (Token × Parser) := do
  let (t, s) ← p.scanner.peek
  return (t, { p with scanner := s })

/-- The parser without the next token. -/
def drop (p : Parser) : Parser := { p with scanner := p.scanner.drop }

/-- The parser without the next token, and the one after it. -/
def next (p : Parser) : Except Fault (Token × Parser) := p.drop.peek

/-- The parser that goes on with what it expected before. -/
def pop (p : Parser) : Parser :=
  { p with expected := p.stack.head?.getD .nothing, stack := p.stack.drop 1 }

/-- The parser that will go on with something after what it is about to do. -/
def later (p : Parser) (e : Expectation) : Parser := { p with stack := e :: p.stack }

/-- The parser that goes on with something. -/
def expect (p : Parser) (e : Expectation) : Parser := { p with expected := e }

/-- The parser inside a collection that began at a place. -/
def enter (p : Parser) (start : Mark) : Parser := { p with starts := start :: p.starts }

/-- The parser outside of the innermost collection. -/
def leave (p : Parser) : Parser := { p.pop with starts := p.starts.drop 1 }

/-- Where the innermost collection began. -/
def start (p : Parser) : Mark := p.starts.head?.getD {}

/-- A fault at a token. -/
def fault (t : Token) (problem : String) (context : Option (String × Mark)) : Fault :=
  { problem := problem, mark := t.start, context := context }

/-- An empty scalar at a place. -/
def empty (p : Parser) (mark : Mark) : Step := .ok (⟨.scalar none none "" .plain, mark⟩, p)

/-! ## Nodes -/

/-- The anchor and the tag of a node: the anchor, the handle and the rest of the tag, and the place of the
tag. -/
structure Properties where
  anchor : Option String := none
  tag : Option (String × String) := none
  tagMark : Mark := {}
deriving Inhabited, Repr

/-- Reads the anchor and the tag of a node in either order. -/
def properties (p : Parser) : Except Fault (Properties × Token × Parser) := do
  let (t, p) ← p.peek
  match t.kind with
  | .anchor name =>
    let (t', p) ← p.next
    match t'.kind with
    | .tag handle rest =>
      let (t'', p) ← p.next
      return (⟨some name, some (handle, rest), t'.start⟩, t'', p)
    | _ => return (⟨some name, none, {}⟩, t', p)
  | .tag handle rest =>
    let (t', p) ← p.next
    match t'.kind with
    | .anchor name =>
      let (t'', p) ← p.next
      return (⟨some name, some (handle, rest), t.start⟩, t'', p)
    | _ => return (⟨none, some (handle, rest), t.start⟩, t', p)
  | _ => return ({}, t, p)

/-- The tag that a handle and the rest of a tag stand for. -/
def resolveTag (p : Parser) (start : Mark) (props : Properties) : Except Fault (Option String) :=
  match props.tag with
  | none => .ok none
  | some ("", rest) => .ok (some rest)
  | some (handle, rest) =>
    match p.handles.find? (·.1 == handle) with
    | some (_, expansion) => .ok (some (expansion ++ rest))
    | none =>
      .error { problem := "found undefined tag handle", mark := props.tagMark,
               context := some ("while parsing a node", start) }

/-- Reads a node. Block collections are only allowed in blocks, and a sequence that is not indented only
as the value of a mapping. -/
def node (p : Parser) (block indentless : Bool) : Step := do
  let (first, p) ← p.peek
  match first.kind with
  | .reference name => return (⟨.reference name, first.start⟩, p.pop.drop)
  | _ =>
    let start := first.start
    let (props, t, p) ← p.properties
    let tag ← p.resolveTag start props
    let sequence : Event := ⟨.sequenceStart props.anchor tag, start⟩
    let mapping : Event := ⟨.mappingStart props.anchor tag, start⟩
    match t.kind with
    | .scalar text style =>
      let tag := if tag == some "!" then none else tag
      return (⟨.scalar props.anchor tag text style, start⟩, p.pop.drop)
    | .flowSequenceStart => return (sequence, p.expect (.flowSequenceEntry true))
    | .flowMappingStart => return (mapping, p.expect (.flowMappingKey true))
    | kind =>
      if indentless && kind == .blockEntry then return (sequence, p.expect .indentlessEntry)
      else if block && kind == .blockSequenceStart then
        return (sequence, p.expect (.blockSequenceEntry true))
      else if block && kind == .blockMappingStart then
        return (mapping, p.expect (.blockMappingKey true))
      else if props.anchor.isSome || tag.isSome then
        return (⟨.scalar props.anchor tag "" .plain, start⟩, p.pop)
      else
        throw (fault t "did not find expected node content"
          (some (if block then "while parsing a block node" else "while parsing a flow node", start)))

/-! ## Documents -/

/-- What the handles stand for in every document. -/
def defaultHandles : List (String × String) := [("!", "!"), ("!!", "tag:yaml.org,2002:")]

/-- Reads the directives in front of a document, of which there are at most so many. -/
def directives : Nat → Bool → Parser → Except Fault (Token × Parser)
  | 0, _, p => p.peek
  | fuel + 1, versioned, p => do
    let (t, p) ← p.peek
    match t.kind with
    | .versionDirective major minor =>
      if versioned then throw (fault t "found duplicate %YAML directive" none)
      if major != 1 || (minor != 1 && minor != 2) then
        throw (fault t "found incompatible YAML document" none)
      directives fuel true p.drop
    | .tagDirective handle expansion =>
      if p.handles.any (·.1 == handle) then throw (fault t "found duplicate %TAG directive" none)
      directives fuel versioned { p.drop with handles := p.handles ++ [(handle, expansion)] }
    | _ =>
      let missing := defaultHandles.filter fun d => !p.handles.any (·.1 == d.1)
      return (t, { p with handles := p.handles ++ missing })

/-- Skips marks for the end of a document, of which there are at most so many. -/
def skipDocumentEnds : Nat → Parser → Except Fault (Token × Parser)
  | 0, p => p.peek
  | fuel + 1, p => do
    let (t, p) ← p.peek
    if t.kind == .documentEnd then skipDocumentEnds fuel p.drop else return (t, p)

/-- A number of tokens that the rest of the text cannot exceed. -/
def size (p : Parser) : Nat := p.scanner.cursor.rest.length + p.scanner.queue.length + 1

/-- Whether a token stands between documents. -/
def isBetween (k : TokenKind) : Bool :=
  match k with
  | .versionDirective _ _ | .tagDirective _ _ | .documentStart | .streamEnd => true
  | _ => false

/-- Reads the start of a document, which may be implicit only at the start of the text, or the end of the
text. -/
def document (p : Parser) (implicit : Bool) : Step := do
  let (t, p) ← if implicit then p.peek else skipDocumentEnds p.size p
  if implicit && !isBetween t.kind then
    let (_, p) ← directives p.size false p
    return (⟨.documentStart, t.start⟩, (p.later .documentEnd).expect .blockNode)
  else if t.kind == .streamEnd then return (⟨.streamEnd, t.start⟩, (p.expect .nothing).drop)
  else
    let start := t.start
    let (t, p) ← directives p.size false p
    if t.kind != .documentStart then
      throw (fault t "did not find expected <document start>" none)
    return (⟨.documentStart, start⟩, ((p.later .documentEnd).expect .documentContent).drop)

/-- Reads what a document holds, which may be nothing. -/
def documentContent (p : Parser) : Step := do
  let (t, p) ← p.peek
  if isBetween t.kind || t.kind == .documentEnd then p.pop.empty t.start else p.node true false

/-- Reads the end of a document, which may be implicit. -/
def documentEnd (p : Parser) : Step := do
  let (t, p) ← p.peek
  let p := if t.kind == .documentEnd then p.drop else p
  return (⟨.documentEnd, t.start⟩, { p with handles := [], expected := .document false })

/-! ## Block collections -/

/-- The parser at the first token inside a collection, if it has just come upon the collection. -/
def begin (p : Parser) (first : Bool) : Except Fault (Token × Parser) := do
  let (t, p) ← p.peek
  if first then (p.enter t.start).next else return (t, p)

/-- Reads an entry of a block sequence, or its end. -/
def blockSequenceEntry (p : Parser) (first : Bool) : Step := do
  let (t, p) ← p.begin first
  match t.kind with
  | .blockEntry =>
    let (t', p) ← p.next
    if t'.kind == .blockEntry || t'.kind == .blockEnd then
      (p.expect (.blockSequenceEntry false)).empty t.stop
    else (p.later (.blockSequenceEntry false)).node true false
  | .blockEnd => return (⟨.sequenceEnd, t.start⟩, p.leave.drop)
  | _ =>
    throw (fault t "did not find expected '-' indicator"
      (some ("while parsing a block collection", p.start)))

/-- Whether a token ends an entry of a block mapping. -/
def endsEntry (k : TokenKind) : Bool := k == .key || k == .value || k == .blockEnd

/-- Reads an entry of a sequence that is not indented, or its end. -/
def indentlessEntry (p : Parser) : Step := do
  let (t, p) ← p.peek
  if t.kind == .blockEntry then
    let (t', p) ← p.next
    if t'.kind == .blockEntry || endsEntry t'.kind then (p.expect .indentlessEntry).empty t.stop
    else (p.later .indentlessEntry).node true false
  else return (⟨.sequenceEnd, t.start⟩, p.pop)

/-- Reads a key of a block mapping, or its end. -/
def blockMappingKey (p : Parser) (first : Bool) : Step := do
  let (t, p) ← p.begin first
  match t.kind with
  | .key =>
    let (t', p) ← p.next
    if endsEntry t'.kind then (p.expect .blockMappingValue).empty t.stop
    else (p.later .blockMappingValue).node true true
  | .blockEnd => return (⟨.mappingEnd, t.start⟩, p.leave.drop)
  | _ =>
    throw (fault t "did not find expected key" (some ("while parsing a block mapping", p.start)))

/-- Reads a value of a block mapping. -/
def blockMappingValue (p : Parser) : Step := do
  let (t, p) ← p.peek
  if t.kind == .value then
    let (t', p) ← p.next
    if endsEntry t'.kind then (p.expect (.blockMappingKey false)).empty t.stop
    else (p.later (.blockMappingKey false)).node true true
  else (p.expect (.blockMappingKey false)).empty t.start

/-! ## Flow collections -/

/-- Takes the comma in front of all entries but the first. -/
def comma (p : Parser) (t : Token) (first : Bool) (context problem : String) :
    Except Fault (Token × Parser) :=
  if first then .ok (t, p)
  else if t.kind == .flowEntry then p.next
  else .error (fault t problem (some (context, p.start)))

/-- Reads an entry of a flow sequence, or its end. An entry may be a mapping with one pair. -/
def flowSequenceEntry (p : Parser) (first : Bool) : Step := do
  let (t, p) ← p.begin first
  if t.kind == .flowSequenceEnd then return (⟨.sequenceEnd, t.start⟩, p.leave.drop)
  let (t, p) ← p.comma t first "while parsing a flow sequence" "did not find expected ',' or ']'"
  if t.kind == .key then return (⟨.mappingStart none none, t.start⟩, (p.expect .pairKey).drop)
  else if t.kind == .flowSequenceEnd then return (⟨.sequenceEnd, t.start⟩, p.leave.drop)
  else (p.later (.flowSequenceEntry false)).node false false

/-- Reads the key of a pair in a flow sequence. -/
def pairKey (p : Parser) : Step := do
  let (t, p) ← p.peek
  if t.kind == .value || t.kind == .flowEntry || t.kind == .flowSequenceEnd then
    (p.drop.expect .pairValue).empty t.stop
  else (p.later .pairValue).node false false

/-- Reads the value of a pair in a flow sequence. -/
def pairValue (p : Parser) : Step := do
  let (t, p) ← p.peek
  let (t, p, given) ←
    if t.kind == .value then do
      let (t, p) ← p.next
      pure (t, p, t.kind != .flowEntry && t.kind != .flowSequenceEnd)
    else pure (t, p, false)
  if given then (p.later .pairEnd).node false false
  else (p.expect .pairEnd).empty t.start

/-- Ends a pair in a flow sequence. -/
def pairEnd (p : Parser) : Step := do
  let (t, p) ← p.peek
  return (⟨.mappingEnd, t.start⟩, p.expect (.flowSequenceEntry false))

/-- Reads a key of a flow mapping, or its end. -/
def flowMappingKey (p : Parser) (first : Bool) : Step := do
  let (t, p) ← p.begin first
  if t.kind == .flowMappingEnd then return (⟨.mappingEnd, t.start⟩, p.leave.drop)
  let (t, p) ← p.comma t first "while parsing a flow mapping" "did not find expected ',' or '\x7d'"
  if t.kind == .key then
    let (t, p) ← p.next
    if t.kind == .value || t.kind == .flowEntry || t.kind == .flowMappingEnd then
      (p.expect (.flowMappingValue false)).empty t.start
    else (p.later (.flowMappingValue false)).node false false
  else if t.kind == .flowMappingEnd then return (⟨.mappingEnd, t.start⟩, p.leave.drop)
  else (p.later (.flowMappingValue true)).node false false

/-- Reads a value of a flow mapping. -/
def flowMappingValue (p : Parser) (empty : Bool) : Step := do
  let (t, p) ← p.peek
  let (t, p, given) ←
    if !empty && t.kind == .value then do
      let (t, p) ← p.next
      pure (t, p, t.kind != .flowEntry && t.kind != .flowMappingEnd)
    else pure (t, p, false)
  if given then (p.later (.flowMappingKey false)).node false false
  else (p.expect (.flowMappingKey false)).empty t.start

/-! ## Events -/

/-- Produces the next event. -/
def step (p : Parser) : Step :=
  match p.expected with
  | .streamStart => do
    let (t, p) ← p.peek
    return (⟨.streamStart, t.start⟩, (p.expect (.document true)).drop)
  | .document implicit => p.document implicit
  | .documentContent => p.documentContent
  | .documentEnd => p.documentEnd
  | .blockNode => p.node true false
  | .blockSequenceEntry first => p.blockSequenceEntry first
  | .indentlessEntry => p.indentlessEntry
  | .blockMappingKey first => p.blockMappingKey first
  | .blockMappingValue => p.blockMappingValue
  | .flowSequenceEntry first => p.flowSequenceEntry first
  | .pairKey => p.pairKey
  | .pairValue => p.pairValue
  | .pairEnd => p.pairEnd
  | .flowMappingKey first => p.flowMappingKey first
  | .flowMappingValue empty => p.flowMappingValue empty
  | .nothing => .ok (⟨.streamEnd, p.scanner.cursor.mark⟩, p)

end Parser

end Overdue.Yaml
