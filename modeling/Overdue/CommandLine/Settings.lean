/-
What the arguments of a run say.

Arguments are read from left to right. The value of an option may be attached with an equals sign or be
the next argument; then it counts only when the argument after it is read, so what is wrong with a value
is noticed in the order of the arguments. Behind two hyphens everything is a path, and there can be one
path only.
-/
import Overdue.CommandLine.UsageError
import Overdue.Text.Similarity
import Overdue.Text.Space

set_option autoImplicit false

namespace Overdue.CommandLine

open Overdue.Text

/-! ## Numbers -/

/-- The number with one more digit, in the range of 64 bits with a sign. -/
def appendDigit (negative : Bool) (n : Int) (c : Char) : Except NumberFault Int :=
  if c.isDigit then
    let d : Int := (c.toNat - '0'.toNat : Nat)
    let m := if negative then n * 10 - d else n * 10 + d
    if (Nat.pow 2 63 : Nat) ≤ m then .error .tooLarge
    else if m < -(Nat.pow 2 63 : Nat) then .error .tooSmall
    else .ok m
  else .error .noDigit

/-- The number that a text is. -/
def integer (cs : List Char) : Except NumberFault Int :=
  match cs with
  | [] => .error .empty
  | ['+'] | ['-'] => .error .noDigit
  | '+' :: ds => ds.foldlM (appendDigit false) 0
  | '-' :: ds => ds.foldlM (appendDigit true) 0
  | ds => ds.foldlM (appendDigit false) 0

/-- The largest number of days. -/
def maxDays : Nat := Nat.pow 2 32 - 1

/-- The number of days that a text is. -/
def days (cs : List Char) : Except NumberFault Nat := do
  let n ← integer cs
  if 0 ≤ n ∧ n ≤ maxDays then return n.toNat else throw (.outside n 0 maxDays)

/-! ## Settings -/

/-- How a scan is to go. -/
structure Settings where
  path : String := "."
  today : Option String := none
  exclude : Option String := none
  failOnExpired : Bool := false
  defaultExpiryDays : Option Nat := none
  dateFormat : Option String := none
  config : Option String := none
  logLevel : Option String := none
  verbosity : Nat := 0
  json : Bool := false
deriving DecidableEq, Inhabited, Repr

/-- Settings with the value of a parameter that takes one. -/
def Settings.set (s : Settings) (p : Parameter) (value : String) : Except UsageError Settings :=
  match p with
  | .path => .ok { s with path := value }
  | .today => .ok { s with today := some value }
  | .exclude => .ok { s with exclude := some value }
  | .dateFormat => .ok { s with dateFormat := some value }
  | .logLevel => .ok { s with logLevel := some value }
  | .config => if value = "" then .error (.missingValue p) else .ok { s with config := some value }
  | .defaultExpiryDays =>
    match days value.toList with
    | .ok n => .ok { s with defaultExpiryDays := some n }
    | .error fault => .error (.invalidNumber p value fault)
  | .failOnExpired | .verbose | .json | .help | .version => .ok s

/-- Settings with a switch turned on. -/
def Settings.turnOn (s : Settings) (p : Parameter) : Settings :=
  match p with
  | .failOnExpired => { s with failOnExpired := true }
  | .json => { s with json := true }
  | .verbose => { s with verbosity := s.verbosity + 1 }
  | _ => s

/-! ## Reading -/

/-- Why arguments do not lead to a scan. -/
inductive Halt where
  | help
  | version
  | error (e : UsageError)
deriving DecidableEq, Inhabited, Repr

/-- What the arguments so far say. -/
structure Reading where
  settings : Settings := {}
  /-- The parameters that are settled, in the order of their last use. -/
  settled : List Parameter := []
  /-- A parameter whose value is still to come, or has come but does not yet count. -/
  pending : Option (Parameter × Option String) := none
  /-- Whether the two hyphens have come that make a path of everything behind them. -/
  pathsOnly : Bool := false
deriving DecidableEq, Inhabited, Repr

namespace Reading

/-- Settles a parameter by a value. -/
def put (r : Reading) (p : Parameter) (value : String) : Except Halt Reading :=
  if r.settled.contains p then .error (.error (.repeated p))
  else
    match r.settings.set p value with
    | .ok s => .ok { r with settings := s, settled := r.settled ++ [p] }
    | .error e => .error (.error e)

/-- Lets the pending value count. -/
def settle (r : Reading) : Except Halt Reading :=
  match r.pending with
  | none => .ok r
  | some (p, none) => .error (.error (.missingValue p))
  | some (p, some value) => { r with pending := none }.put p value

/-- Turns on a switch. -/
def turnOn (r : Reading) (p : Parameter) : Except Halt Reading := do
  let r ← r.settle
  match p with
  | .help => throw .help
  | .version => throw .version
  | p =>
    if p ≠ .verbose ∧ p ∈ r.settled then throw (.error (.repeated p))
    return { r with settings := r.settings.turnOn p, settled := r.settled.erase p ++ [p] }

/-- Whether the path has come. -/
def hasPath (r : Reading) : Bool :=
  r.settled.contains .path || (r.pending.map (·.1)) == some .path

/-- The parameters that are in use, with the pending one if its value has come. One whose second value
is pending is in dispute and does not count. -/
def used (r : Reading) : List Parameter :=
  match r.pending with
  | some (p, some _) => if p ∈ r.settled then r.settled.erase p else r.settled ++ [p]
  | _ => r.settled

/-- A list of parameters that shows one of them. -/
def showing (p : Parameter) (ps : List Parameter) : Usage where
  shown := if p ∈ ps then ps else ps ++ [p]

/-- The error for a value of a switch. Its usage names all settings if one of them is settled. -/
def surplusValue (r : Reading) (p : Parameter) (value : String) : UsageError :=
  .surplusValue p value { showing p r.settled with joined := r.settled ≠ [] }

/-- Reads a path. -/
def path (r : Reading) (value : String) : Except Halt Reading :=
  if r.hasPath then .error (.error (.unexpected value .none {}))
  else do
    let r ← r.settle
    return { r with pending := some (.path, some value) }

/-- The bound that the similarity of a name must exceed for a parameter to be suggested. -/
def similarityBound : Decimal.Binary := .ofFraction 7 10

/-- The error for a name that is unknown. -/
def unknownName (r : Reading) (name : List Char) : UsageError :=
  let similar := (mostSimilar? similarityBound name (Parameter.named.filterMap Parameter.long?)).bind
    Parameter.ofLong?
  let argument := "--" ++ String.ofList name
  match similar with
  | some p => .unexpected argument (.similar p) (showing p r.used)
  | none => .unexpected argument .value { shown := r.used }

/-- Reads an argument that starts with two hyphens, which are left out here. -/
def long (r : Reading) (cs : List Char) : Except Halt Reading :=
  let (name, rest) := splitWhile (· != '=') cs
  match Parameter.ofLong? (String.ofList name), rest with
  | none, _ => .error (.error (r.unknownName name))
  | some p, _ :: value =>
    if p.takesValue then do
      let r ← r.settle
      r.put p (String.ofList value)
    else .error (.error (r.surplusValue p (String.ofList value)))
  | some p, [] =>
    if p.takesValue then do
      let r ← r.settle
      return { r with pending := some (p, none) }
    else r.turnOn p

/-- Reads a letter of an argument that starts with one hyphen. -/
def letter (r : Reading) (c : Char) : Except Halt Reading :=
  match Parameter.ofShort? c with
  | some p => r.turnOn p
  | none => .error (.error (.unexpected (String.ofList ['-', c]) .value {}))

/-- Reads an argument. -/
def argument (r : Reading) (text : String) : Except Halt Reading :=
  if r.pathsOnly then r.path text
  else
    match text.toList with
    | ['-', '-'] => .ok { r with pathsOnly := true }
    | '-' :: '-' :: cs => r.long cs
    | '-' :: c :: cs => (c :: cs).foldlM letter r
    | _ =>
      match r.pending with
      | some (p, none) => .ok { r with pending := some (p, some text) }
      | _ => r.path text

end Reading

/-- The settings that arguments ask for. A text from the environment stands in for the reference date if
the arguments give none. -/
def Settings.ofArguments (date : Option String) (arguments : List String) : Except Halt Settings := do
  let r ← arguments.foldlM Reading.argument {}
  let r ← r.settle
  return { r.settings with today := r.settings.today.or date }

end Overdue.CommandLine
