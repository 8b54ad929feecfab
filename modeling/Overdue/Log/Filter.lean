/-
Selection of events.

A filter is a list of directives that are separated by commas. A directive has a limit, and says which
events it is about: those on topics with a given start, and those with given fields. Of the directives
that are about an event the most specific one decides, and the event is told if its level is within
that limit. A filter without directives tells of errors only.

White space around a directive is passed over when its parts are looked for, but they are then cut out at
the same places of the text as it stands. So white space becomes part of what it precedes or follows,
where it is rarely of use.
-/
import Overdue.Log.Event
import Overdue.Log.ValuePattern
import Overdue.Text.Digit
import Overdue.Text.Letter
import Overdue.Text.Space
import Overdue.Text.Split

set_option autoImplicit false

namespace Overdue.Log

open Overdue.Text

/-! ## Limits -/

/-- How far down the levels events are told: a rank, or zero for none at all. -/
abbrev Limit := Nat

/-- A number of levels, in digits that may have a plus sign in front. -/
def limitOfDigits? (cs : List Char) : Option Limit := do
  let digits := if cs.head? = some '+' then cs.drop 1 else cs
  let n ← valueInBase? 10 digits
  if n ≤ Level.trace.rank then some n else none

/-- The limit that a text names, in letters of either case or as a number. -/
def limitOf? (cs : List Char) : Option Limit :=
  (limitOfDigits? cs).or
    (let word := String.ofList (cs.map Char.toLower)
    if word = "off" then some 0 else (Level.all.find? (·.name = word)).map Level.rank)

/-! ## Directives -/

/-- A field that events must have, possibly with a given value. -/
structure FieldTest where
  name : String
  hasValue : Bool
deriving DecidableEq, Inhabited, Repr

/-- What a filter says about some events. -/
structure Directive where
  limit : Limit
  topic : Option String := none
  /-- The stretch of work that events must belong to. No event of a run belongs to one. -/
  span : Option String := none
  fields : List FieldTest := []
deriving DecidableEq, Inhabited, Repr

/-- Why a text is not a directive. -/
inductive DirectiveError where
  | malformed
  | unknownLimit
  /-- The value of a field cannot be used. -/
  | unusableValue (fault : PatternFault)
deriving DecidableEq, Inhabited, Repr

/-- What is said about an error. -/
def DirectiveError.message : DirectiveError → String
  | malformed => "invalid filter directive"
  | unknownLimit =>
    "error parsing level filter: expected one of \"off\", \"error\", \"warn\", \"info\", " ++
      "\"debug\", \"trace\", or a number 0-5"
  | unusableValue fault => "invalid field filter: " ++ fault.message

/-! ## Cutting -/

/-- The number of bytes of a list of characters. -/
def byteCount (cs : List Char) : Nat := cs.foldl (fun n c => n + c.utf8Size) 0

/-- The characters that begin within so many bytes, and the others. -/
def splitBytes : Nat → List Char → List Char × List Char
  | _, [] => ([], [])
  | 0, cs => ([], cs)
  | n + 1, c :: cs =>
    let (taken, rest) := splitBytes (n + 1 - c.utf8Size) cs
    (c :: taken, rest)

/-- A place in the text of a directive. -/
structure Place where
  /-- The rest of the text without the white space around it. -/
  ahead : List Char
  /-- The rest of the text as it stands, behind as many bytes. -/
  uncut : List Char
deriving DecidableEq, Inhabited, Repr

namespace Place

/-- The start of a text. -/
def start (cs : List Char) : Place := ⟨trim cs, cs⟩

/-- The part of the text up to the first character that fails a test, and the place behind it. -/
def cutWhile (p : Char → Bool) (here : Place) : List Char × Place :=
  let (run, ahead) := splitWhile p here.ahead
  let (part, uncut) := splitBytes (byteCount run) here.uncut
  (part, ⟨ahead, uncut⟩)

/-- The place behind a character of one byte. -/
def next (here : Place) : Place := ⟨here.ahead.drop 1, (splitBytes 1 here.uncut).2⟩

end Place

/-! ## Reading directives -/

namespace Directive

/-- Whether a directive can start with a character, other than with a bracket. -/
def isStart (c : Char) : Bool := c == '-' || c == ':' || c == '_' || isLetterOrNumber c

/-- A directive with the limit that follows its equals sign. Nothing there means no limit. -/
def withLimit (d : Directive) (cs : List Char) : Except DirectiveError Directive :=
  match cs, limitOf? cs with
  | [], _ => .ok d
  | _, some limit => .ok { d with limit := limit }
  | _, none => .error .unknownLimit

/-- A directive with what follows its closing bracket. -/
def afterBracket (d : Directive) (here : Place) : Except DirectiveError Directive :=
  match here.ahead with
  | [] => .ok d
  | '=' :: _ => d.withLimit here.next.uncut
  | _ => .error .malformed

/-- The field test that a text is. Behind the name and an equals sign stands the value, up to the next
equals sign. -/
def fieldTest (cs : List Char) : Except DirectiveError FieldTest :=
  match splitOn '=' cs with
  | name :: value :: _ =>
    match valueFault? value with
    | some fault => .error (.unusableValue fault)
    | none => .ok ⟨String.ofList name, true⟩
  | _ => .ok ⟨String.ofList cs, false⟩

/-- A directive with the fields that follow an opening brace. -/
def afterBrace (d : Directive) (here : Place) : Except DirectiveError Directive := do
  let (field, here) := here.cutWhile (· != '\x7d')
  if field = [] || here.ahead = [] then throw .malformed
  let test ← fieldTest field
  match here.next.ahead with
  | ']' :: _ => afterBracket { d with fields := [test] } here.next.next
  | _ => throw .malformed

/-- A directive with what follows its opening bracket. -/
def afterOpening (d : Directive) (here : Place) : Except DirectiveError Directive :=
  let (name, here) := here.cutWhile fun c => c != ']' && c != '\x7b'
  match here.ahead with
  | ']' :: _ => { d with span := some (String.ofList name) }.afterBracket here.next
  | _ :: _ =>
    { d with span := if name = [] then none else some (String.ofList name) }.afterBrace here.next
  | [] => .error .malformed

/-- The directive that a text without an equals sign or a bracket is: a limit or a topic. -/
def ofWord (all : Directive) (cs : List Char) : Directive :=
  match limitOf? cs with
  | some limit => { all with limit := limit }
  | none => { all with topic := some (String.ofList cs) }

/-- The directive that a text is. -/
def parse (cs : List Char) : Except DirectiveError Directive :=
  let all : Directive := ⟨Level.trace.rank, none, none, []⟩
  let start := Place.start cs
  match start.ahead with
  | '[' :: _ => all.afterOpening start.next
  | c :: _ =>
    if isStart c then
      let (name, here) := start.cutWhile fun c => c != '=' && c != '['
      let d := { all with topic := some (String.ofList name) }
      match here.ahead with
      | '=' :: _ => d.withLimit here.next.uncut
      | _ :: _ => d.afterOpening here.next
      | [] => .ok (all.ofWord start.uncut)
    else .error .malformed
  | [] => .error .malformed

/-- Whether a directive is about an event. -/
def isAbout (d : Directive) (e : Event) : Bool :=
  (match d.topic with
  | some t => t.toList.isPrefixOf e.topic.toList
  | none => true) &&
  d.span.isNone &&
  d.fields.all fun f =>
    !f.hasValue && (f.name == "message" || e.fields.any fun (name, _) => name == f.name)

/-- How specific a directive is: the longer its topic the more, then the more fields the more. -/
def specificity (d : Directive) : Nat × Nat :=
  (match d.topic with
  | some t => t.utf8ByteSize + 1
  | none => 0,
  d.fields.length)

/-- Whether a directive decides before another one that comes earlier in the filter. -/
def overrides (later earlier : Directive) : Bool :=
  let a := later.specificity
  let b := earlier.specificity
  b.1 < a.1 || (a.1 == b.1 && (b.2 < a.2 ||
    (a.2 == b.2 && !(later.fields.map (·.name) < earlier.fields.map (·.name)))))

end Directive

/-! ## Filters -/

/-- A list of directives. -/
abbrev Filter := List Directive

namespace Filter

/-- The texts of the directives of a filter. -/
def pieces (text : String) : List (List Char) := (splitOn ',' text.toList).filter (· != [])

/-- The filter that a text is, if all its directives are in order. -/
def parse? (text : String) : Option Filter :=
  (pieces text).mapM fun piece => (Directive.parse piece).toOption

/-- What is said about a piece of a filter that is not in order. -/
def complaint? (piece : List Char) : Option String :=
  match Directive.parse piece with
  | .ok _ => none
  | .error e => some ("ignoring \x60" ++ String.ofList piece ++ "\x60: " ++ e.message)

/-- The filter of those directives of a text that are in order, and what is said about the others. -/
def parseSome (text : String) : Filter × List String :=
  ((pieces text).filterMap fun piece => (Directive.parse piece).toOption,
    (pieces text).filterMap complaint?)

/-- The directive that decides about an event. -/
def deciding? (f : Filter) (e : Event) : Option Directive :=
  (f.filter (·.isAbout e)).foldl (fun best d =>
    match best with
    | some b => if d.overrides b then some d else some b
    | none => some d) none

/-- How far down the levels events like a given one are told. -/
def limitFor (f : Filter) (e : Event) : Limit :=
  if f = [] then Level.error.rank
  else
    match f.deciding? e with
    | some d => d.limit
    | none => 0

/-- Whether an event is told. -/
def tells (f : Filter) (e : Event) : Bool := e.level.rank ≤ f.limitFor e

end Filter

end Overdue.Log
