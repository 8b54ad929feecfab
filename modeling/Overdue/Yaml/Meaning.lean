/-
What scalars denote.

A plain scalar without a tag of a known type denotes nothing, a truth value, a number or a text,
whichever it has the form of. Other scalars denote texts, unless their tag says otherwise. Digits after a
leading zero are a text.
-/
import Overdue.Decimal.Binary64
import Overdue.Text.Quoted
import Overdue.Yaml.Token

set_option autoImplicit false

namespace Overdue.Yaml

open Overdue.Decimal Overdue.Text

/-! ## Forms -/

/-- Whether a text has the form of nothing. -/
def isNull (text : String) : Bool := ["null", "Null", "NULL", "~"].contains text

/-- The truth value that a text has the form of. -/
def bool? (text : String) : Option Bool :=
  if ["true", "True", "TRUE"].contains text then some true
  else if ["false", "False", "FALSE"].contains text then some false
  else none

/-- Whether a text is a zero with more digits behind it, after a sign or not. -/
def hasLeadingZero (cs : List Char) : Bool :=
  match (splitSign cs).2 with
  | '0' :: d :: ds => (d :: ds).all Char.isDigit
  | _ => false

/-- The base that a text names at its start, and the rest. -/
def base? : List Char → Option (Nat × List Char)
  | '0' :: 'x' :: rest => some (16, rest)
  | '0' :: 'o' :: rest => some (8, rest)
  | '0' :: 'b' :: rest => some (2, rest)
  | _ => none

/-- The natural number that a text has the form of, in one of four bases and with a plus or not. -/
def natural? (cs : List Char) : Option Nat :=
  let digits :=
    match cs with
    | '+' :: rest => rest
    | cs => cs
  match base? digits with
  | some (base, rest) => valueInBase? base rest
  | none => if hasLeadingZero cs then none else valueInBase? 10 digits

/-- The number below zero, or the zero with a minus, that a text has the form of; the result is its
absolute value. -/
def negative? (cs : List Char) : Option Nat :=
  match cs with
  | '-' :: digits =>
    match base? digits with
    | some (base, rest) => valueInBase? base rest
    | none => if hasLeadingZero cs then none else valueInBase? 10 digits
  | _ => none

/-- The floating point number that a text has the form of, as it is written in messages. -/
def float? (cs : List Char) : Option String :=
  let text := String.ofList cs
  let unsigned :=
    match cs with
    | '+' :: rest => if rest.head?.any fun c => c == '+' || c == '-' then none else some rest
    | cs => some cs
  match unsigned with
  | none => none
  | some rest =>
    if [".inf", ".Inf", ".INF"].contains (String.ofList rest) then some "inf"
    else if ["-.inf", "-.Inf", "-.INF"].contains text then some "-inf"
    else if [".nan", ".NaN", ".NAN"].contains text then some "NaN"
    else do
      let n ← Numeral.ofText? rest
      let b ← Binary.nearest? n.digits n.exponent
      return String.ofList (b.render n.negative)

/-! ## Meanings -/

/-- What a scalar denotes. -/
inductive Meaning where
  | null
  | bool (b : Bool)
  /-- An integer, with the name of its type if it does not fit into 64 bits. -/
  | integer (v : Int) (wide : Option String)
  | float (text : String)
  | text (s : String)
deriving DecidableEq, Inhabited, Repr

namespace Meaning

/-- What is denoted, in words. -/
def description : Meaning → String
  | null => "unit value"
  | bool b => if b then "boolean \x60true\x60" else "boolean \x60false\x60"
  | integer v none => s!"integer \x60{v}\x60"
  | integer v (some type) => s!"integer \x60{v}\x60 as {type}"
  | float t => s!"floating point \x60{t}\x60"
  | text s => "string " ++ quoted s

/-- The integer that a text has the form of. -/
def integer? (cs : List Char) : Option Meaning :=
  match natural? cs, negative? cs with
  | some n, _ =>
    if n < Nat.pow 2 64 then some (integer n none)
    else if n < Nat.pow 2 128 then some (integer n (some "u128"))
    else none
  | none, some n =>
    if n ≤ Nat.pow 2 63 then some (integer (-(n : Int)) none)
    else if n ≤ Nat.pow 2 127 then some (integer (-(n : Int)) (some "i128"))
    else none
  | none, none => none

/-- What a plain scalar denotes. -/
def ofPlain (s : String) : Meaning :=
  if s.isEmpty || isNull s then null
  else
    match bool? s with
    | some b => bool b
    | none =>
      match integer? s.toList with
      | some d => d
      | none =>
        if hasLeadingZero s.toList then text s
        else
          match float? s.toList with
          | some f => float f
          | none => text s

end Meaning

/-! ## Scalars -/

/-- A scalar: its tag, its text and how it is written. -/
structure Scalar where
  tag : Option String
  text : String
  style : ScalarStyle
deriving DecidableEq, Inhabited, Repr

namespace Scalar

/-- The full name of a type that a tag can ask for. -/
def typeTag (name : String) : String := "tag:yaml.org,2002:" ++ name

/-- Whether a scalar is empty and plain. -/
def isBlank (s : Scalar) : Bool := s.text.isEmpty && s.style == .plain

/-- What a scalar denotes, or the name of the type that its tag asks for and its text does not have. -/
def meaning (s : Scalar) : Except String Meaning :=
  let orElse (d : Option Meaning) (type : String) : Except String Meaning :=
    match d with
    | some d => .ok d
    | none => .error type
  match s.tag with
  | none => if s.style == .plain then .ok (.ofPlain s.text) else .ok (.text s.text)
  | some tag =>
    if tag == typeTag "bool" then orElse ((bool? s.text).map .bool) "a boolean"
    else if tag == typeTag "int" then orElse (Meaning.integer? s.text.toList) "an integer"
    else if tag == typeTag "float" then orElse ((float? s.text.toList).map .float) "a float"
    else if tag == typeTag "null" then
      orElse (if isNull s.text then some .null else none) "null"
    else if tag.toList.head? == some '!' && s.style == .plain then .ok (.ofPlain s.text)
    else .ok (.text s.text)

/-- What is said about a scalar that stands where something else is expected. -/
def mismatch (s : Scalar) (expected : String) : String :=
  match s.meaning with
  | .ok d => s!"invalid type: {d.description}, expected {expected}"
  | .error type => s!"invalid value: string {quoted s.text}, expected {type}"

/-- Whether a scalar can denote something of a type other than a text: it is plain, or a literal block
with the tag of that type. -/
def isTyped (s : Scalar) (type : String) : Bool :=
  match s.style with
  | .plain => true
  | .literal => s.tag == some (typeTag type)
  | _ => false

end Scalar

end Overdue.Yaml
