/-
Patterns for the values of fields.

A filter can ask for a value by a regular expression. No event of a run is selected that way, so all that
matters is whether an expression is well formed, and whether it asks for the boundaries of words, which
cannot be decided one byte at a time. A value ends at a closing brace. Therefore an opening brace, which
counts repetitions or names a class, is never closed and always wrong outside of brackets.
-/
import Overdue.Decimal.Binary64
import Overdue.Text.Letter
import Overdue.Text.Space

set_option autoImplicit false

namespace Overdue.Log

open Overdue.Text

/-! ## Faults -/

/-- Why a text cannot be used as a pattern. -/
inductive PatternFault where
  | malformed
  | wordBoundary
deriving DecidableEq, Inhabited, Repr

/-- What is said about a fault. -/
def PatternFault.message : PatternFault → String
  | malformed => "error building NFA"
  | wordBoundary =>
    "unsupported regex feature for DFAs: cannot build DFAs for regexes with Unicode word boundaries; " ++
      "switch to ASCII word boundaries, or heuristically enable Unicode word boundaries or use a " ++
      "different regex engine"

namespace ValuePattern

/-! ## Modes -/

/-- How the characters of a pattern are taken. -/
structure Mode where
  /-- White space and comments do not count. -/
  spaced : Bool := false
  /-- Classes are about all characters, and not about the first 128 only. -/
  wide : Bool := true
deriving DecidableEq, Inhabited, Repr

/-- A text without so many stretches of white space and comments at its start. -/
def skipBlanksWith : Nat → List Char → List Char
  | 0, cs => cs
  | _ + 1, [] => []
  | fuel + 1, c :: cs =>
    if isSpace c then skipBlanksWith fuel cs
    else if c = '#' then skipBlanksWith fuel ((cs.dropWhile (· != '\n')).drop 1)
    else c :: cs

/-- A text from its first character that counts. -/
def Mode.skipBlanks (m : Mode) (cs : List Char) : List Char :=
  if m.spaced then skipBlanksWith cs.length cs else cs

/-! ## Escapes -/

/-- What a place in a pattern can ask for. -/
inductive Atom where
  | literal (code : Nat)
  | category
  | anchor
  /-- The boundary of a word. -/
  | boundary
deriving DecidableEq, Inhabited, Repr

/-- Whether a backslash makes a punctuation character stand for itself. -/
def isPlainEscape (c : Char) : Bool := c.toNat < 0x80 && !c.isAlphanum && c != '<' && c != '>'

/-- The code point that so many digits are, with the digits before them, and the rest. -/
def hexCode (m : Mode) : Nat → Nat → List Char → Option (Nat × List Char)
  | 0, code, cs => some (code, cs)
  | count + 1, code, cs =>
    match m.skipBlanks cs with
    | c :: cs => (hexValue? c).bind fun v => hexCode m count (code * 16 + v) cs
    | [] => none

/-- A literal given by so many digits. -/
def hexLiteral (m : Mode) (count : Nat) (cs : List Char) : Option (Atom × List Char) := do
  let (code, cs) ← hexCode m count 0 cs
  if code.isValidChar then return (.literal code, cs) else none

/-- A class given by the letter of a general category. -/
def letterCategory (m : Mode) (cs : List Char) : Option (Atom × List Char) :=
  match m.skipBlanks cs with
  | c :: cs => if m.wide && "CLMNPSZ".toList.contains c.toUpper then some (.category, cs) else none
  | [] => none

/-- What stands behind a backslash, and the rest. -/
def escape (m : Mode) : List Char → Option (Atom × List Char)
  | [] => none
  | c :: cs =>
    match c with
    | 'x' =>
      match hexLiteral m 2 cs with
      | some (.literal code, cs) => if m.wide || code < 0x80 then some (.literal code, cs) else none
      | other => other
    | 'u' => hexLiteral m 4 cs
    | 'U' => hexLiteral m 8 cs
    | 'p' | 'P' => letterCategory m cs
    | 'd' | 's' | 'w' => some (.category, cs)
    | 'D' | 'S' | 'W' => if m.wide then some (.category, cs) else none
    | 'a' => some (.literal 7, cs)
    | 'f' => some (.literal 12, cs)
    | 't' => some (.literal 9, cs)
    | 'n' => some (.literal 10, cs)
    | 'r' => some (.literal 13, cs)
    | 'v' => some (.literal 11, cs)
    | 'A' | 'z' => some (.anchor, cs)
    | 'b' => if cs.head? = some '\x7b' then none else some (.boundary, cs)
    | 'B' | '<' | '>' => some (.boundary, cs)
    | c => if isPlainEscape c then some (.literal c.toNat, cs) else none

/-! ## Classes in brackets -/

/-- The names of classes that stand between colons. -/
def classNames : List String :=
  ["alnum", "alpha", "ascii", "blank", "cntrl", "digit", "graph", "lower", "print", "punct", "space",
    "upper", "word", "xdigit"]

/-- The rest after a class that is named between colons. -/
def namedClass? (cs : List Char) : Option (List Char) := do
  let cs ← dropPrefix? [':'] cs
  let cs := (dropPrefix? ['^'] cs).getD cs
  let (name, cs) := splitWhile (· != ':') cs
  let cs ← dropPrefix? [':', ']'] cs
  if classNames.contains (String.ofList name) then return cs else none

/-- The rest after the start of a class: a caret, and then hyphens or a closing bracket that stand for
themselves. -/
def openClass (m : Mode) (cs : List Char) : Option (List Char) :=
  let cs := m.skipBlanks cs
  if cs.head? = some '^' && !m.wide then none
  else
    let cs := m.skipBlanks ((dropPrefix? ['^'] cs).getD cs)
    if cs.head? = some ']' then some (cs.drop 1)
    else some (cs.dropWhile fun c => c == '-' || (m.spaced && isSpace c))

/-- A member of a class, and the rest. -/
def member (m : Mode) : List Char → Option (Atom × List Char)
  | [] => none
  | '\\' :: cs => escape m cs
  | c :: cs => some (.literal c.toNat, cs)

/-- Whether a literal may stand in a class. -/
def Mode.admits (m : Mode) (code : Nat) : Bool := m.wide || code < 0x80

/-- The rest after a member of a class or after a range of them. -/
def range (m : Mode) (cs : List Char) : Option (List Char) := do
  let (low, cs) ← member m cs
  let cs := m.skipBlanks cs
  let after := m.skipBlanks (cs.drop 1)
  if cs.head? = some '-' && after.head? ≠ some ']' && after.head? ≠ some '-' then
    let (high, cs) ← member m after
    match low, high with
    | .literal a, .literal b => if a ≤ b && m.admits b then return cs else none
    | _, _ => none
  else
    match low with
    | .literal a => if m.admits a then return cs else none
    | .category => return cs
    | .anchor | .boundary => none

/-- The rest after so many classes that are open. Classes can be nested, and joined by three operators. -/
def closeClass (m : Mode) : Nat → Nat → List Char → Option (List Char)
  | 0, _, _ => none
  | fuel + 1, depth, cs =>
    match m.skipBlanks cs with
    | [] => none
    | '[' :: cs =>
      match namedClass? cs with
      | some rest => closeClass m fuel depth rest
      | none => (openClass m cs).bind (closeClass m fuel (depth + 1))
    | ']' :: cs => if depth = 1 then some cs else closeClass m fuel (depth - 1) cs
    | '&' :: '&' :: cs | '-' :: '-' :: cs | '~' :: '~' :: cs => closeClass m fuel depth cs
    | cs => (range m cs).bind (closeClass m fuel depth)

/-- The rest after a class whose opening bracket has been read. -/
def bracketed (m : Mode) (cs : List Char) : Option (List Char) :=
  (openClass m cs).bind (closeClass m (cs.length + 1) 1)

/-! ## Groups -/

/-- The letters that turn modes on, and off behind a hyphen. -/
def modeLetters : List Char := ['i', 'm', 's', 'U', 'u', 'R', 'x']

/-- Whether a text switches modes: no letter comes twice, and one follows the hyphen, which comes once at
most. -/
def isModeSwitch (cs : List Char) : Bool :=
  cs.all (fun c => c == '-' || modeLetters.contains c) && cs.eraseDups == cs && cs.getLast? != some '-'

/-- What a text that switches modes says about one of them. -/
def switched (letter : Char) (old : Bool) (cs : List Char) : Bool :=
  if cs.contains letter then !(cs.takeWhile (· != letter)).contains '-' else old

/-- A mode after a switch. -/
def Mode.switch (m : Mode) (cs : List Char) : Mode where
  spaced := switched 'x' m.spaced cs
  wide := switched 'u' m.wide cs

/-- Whether a text can be the name of a group. -/
def isGroupName : List Char → Bool
  | [] => false
  | c :: cs =>
    (c == '_' || isLetter c) &&
      cs.all fun d => d == '_' || d == '.' || d == '[' || d == ']' || isLetterOrNumber d

/-! ## Patterns -/

/-- The state of reading a pattern. -/
structure State where
  rest : List Char
  mode : Mode := {}
  /-- Whether something precedes that can be repeated. -/
  repeatable : Bool := false
  /-- The modes around the groups that are open, the innermost first. -/
  outer : List Mode := []
  /-- The names of groups. -/
  names : List (List Char) := []
  /-- Whether a boundary of words is asked for, among all characters. -/
  boundary : Bool := false
deriving Inhabited, Repr

namespace State

/-- The state inside a group that takes up a mode of its own. -/
def enter (s : State) (mode : Mode) (rest : List Char) : State :=
  { s with rest := rest, mode := mode, repeatable := false, outer := s.mode :: s.outer }

/-- The state inside a group with a name. -/
def enterNamed (s : State) (cs : List Char) : Option State :=
  let (name, rest) := splitWhile (· != '>') cs
  if rest.isEmpty || !isGroupName name || s.names.contains name then none
  else some { s.enter s.mode (rest.drop 1) with names := name :: s.names }

/-- The state after a switch of modes, which is for the rest of the group around it or for a group of
its own. -/
def switch (s : State) (cs : List Char) : Option State :=
  let (letters, rest) := splitWhile (fun c => c != ':' && c != ')') cs
  if !isModeSwitch letters then none
  else
    match rest with
    | ':' :: rest => some (s.enter (s.mode.switch letters) rest)
    | ')' :: rest =>
      if letters = [] then none
      else some { s with rest := rest, mode := s.mode.switch letters, repeatable := false }
    | _ => none

/-- The state after an opening parenthesis. -/
def group (s : State) (cs : List Char) : Option State :=
  match s.mode.skipBlanks cs with
  | '?' :: 'P' :: '<' :: cs | '?' :: '<' :: cs => s.enterNamed cs
  | '?' :: cs => s.switch cs
  | cs => some (s.enter s.mode cs)

/-- The state after an atom. -/
def push (s : State) (a : Atom) (rest : List Char) : State :=
  { s with rest := rest, repeatable := true, boundary := s.boundary || (a = .boundary && s.mode.wide) }

/-- The state after the next part of a pattern. -/
def step (s : State) (c : Char) (cs : List Char) : Option State :=
  match c with
  | '(' => s.group cs
  | ')' =>
    match s.outer with
    | mode :: outer => some { s with rest := cs, mode := mode, outer := outer, repeatable := true }
    | [] => none
  | '|' => some { s with rest := cs, repeatable := false }
  | '[' => (bracketed s.mode cs).map (s.push .category)
  | '?' | '*' | '+' => if s.repeatable then some { s with rest := cs } else none
  | '\x7b' => none
  | '\\' => (escape s.mode cs).map fun (a, rest) => s.push a rest
  | '.' => if s.mode.wide then some (s.push .category cs) else none
  | c => some (s.push (.literal c.toNat) cs)

/-- Reads so many parts of a pattern, to its end. -/
def run : Nat → State → Option State
  | 0, _ => none
  | fuel + 1, s =>
    match s.mode.skipBlanks s.rest with
    | [] => if s.outer = [] then some s else none
    | c :: cs => (s.step c cs).bind (run fuel)

end State

/-- What keeps a text from being used as a pattern. -/
def fault? (cs : List Char) : Option PatternFault :=
  match State.run (cs.length + 1) { rest := cs } with
  | none => some .malformed
  | some s => if s.boundary then some .wordBoundary else none

/-- Whether a text is a number, which stands for itself. -/
def isNumber (cs : List Char) : Bool :=
  let word := String.ofList ((Decimal.splitSign cs).2.map Char.toLower)
  (Decimal.Numeral.ofText? cs).isSome || ["inf", "infinity", "nan"].contains word

end ValuePattern

/-- What keeps a text from being the value of a field. -/
def valueFault? (cs : List Char) : Option PatternFault :=
  if ValuePattern.isNumber cs then none else ValuePattern.fault? cs

end Overdue.Log
