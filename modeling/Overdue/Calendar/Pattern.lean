/-
The items of a date pattern.

A pattern describes how dates are written. It is a text in which a percent sign and the characters
after it stand for a field of a date; some specifiers abbreviate several items. White space in a
pattern stands for any white space, and all else for itself. A specifier for a time of day or a time
zone is known but has no place in a date.
-/
import Overdue.Text.Space

set_option autoImplicit false

namespace Overdue.Calendar

open Overdue.Text

/-- The fields of a date that are written as numbers. -/
inductive Field where
  /-- The year, with a sign unless it has at most four digits. -/
  | year
  /-- The hundreds of the year. -/
  | century
  /-- The last two digits of the year. -/
  | yearOfCentury
  /-- The year that the week belongs to. -/
  | weekYear
  /-- The last two digits of the year that the week belongs to. -/
  | weekYearOfCentury
  /-- The quarter of the year, from 1 on. -/
  | quarter
  /-- The month, from 1 on. -/
  | month
  /-- The day of the month, from 1 on. -/
  | day
  /-- The week of the year, where week 1 begins on the first Sunday. -/
  | weekFromSunday
  /-- The week of the year, where week 1 begins on the first Monday. -/
  | weekFromMonday
  /-- The week of the year that the week belongs to. -/
  | week
  /-- The day of the week, where Sunday is 0. -/
  | daysFromSunday
  /-- The day of the week, where Monday is 1. -/
  | dayOfWeek
  /-- The day of the year, from 1 on. -/
  | ordinal
deriving DecidableEq, Inhabited, Repr

/-- The fields of a date that are written as words. -/
inductive NameField where
  | month
  | weekday
deriving DecidableEq, Inhabited, Repr

/-- How the place of leading digits is filled. -/
inductive Padding where
  | none
  | zero
  | space
deriving DecidableEq, Inhabited, Repr

/-- A part of a pattern. -/
inductive Item where
  /-- A text that stands for itself. -/
  | literal (text : List Char)
  /-- White space; `text` is what is written. -/
  | space (text : List Char)
  /-- A number. -/
  | number (field : Field) (padding : Padding)
  /-- A word, of three letters or in full. -/
  | name (field : NameField) (inFull : Bool)
deriving DecidableEq, Inhabited, Repr

/-- A part of a pattern as written: an item of a date, or a specifier that needs more than a date. -/
inductive Spec where
  | item (item : Item)
  | clock
deriving DecidableEq, Inhabited, Repr

namespace Spec

/-- The item of a date that a part stands for. -/
def item? : Spec → Option Item
  | item i => some i
  | clock => none

/-- Whether a part stands for a field, be it one of a date or not. -/
def isField : Spec → Bool
  | item (.literal _) | item (.space _) => false
  | item (.number _ _) | item (.name _ _) | clock => true

/-- Parts of which each is an item of a date. -/
theorem eq_map_of_mapM_item? {specs : List Spec} {items : List Item} (h : specs.mapM item? = some items) :
    specs = items.map item := by
  induction specs generalizing items with
  | nil =>
    cases h
    rfl
  | cons s specs ih =>
    rw [List.mapM_cons] at h
    cases s with
    | clock => cases h
    | item i =>
      obtain ⟨_, ⟨⟩, h⟩ := Option.bind_eq_some_iff.mp h
      obtain ⟨more, hmore, ⟨⟩⟩ := Option.bind_eq_some_iff.mp h
      rw [ih hmore, List.map_cons]

end Spec

namespace Pattern

/-- A number filled with zeros. -/
def zeroed (f : Field) : Spec := .item (.number f .zero)

/-- A number filled with blanks. -/
def blanked (f : Field) : Spec := .item (.number f .space)

/-- A number without filling. -/
def bare (f : Field) : Spec := .item (.number f .none)

/-- A character that stands for itself. -/
def mark (c : Char) : Spec := .item (.literal [c])

/-- Month, day and two-digit year. -/
def shortDate : List Spec :=
  [zeroed .month, mark '/', zeroed .day, mark '/', zeroed .yearOfCentury]

/-- What a specifier of one character stands for. -/
def simple? : Char → Option (List Spec)
  | 'A' => some [.item (.name .weekday true)]
  | 'B' => some [.item (.name .month true)]
  | 'C' => some [zeroed .century]
  | 'D' | 'x' => some shortDate
  | 'F' => some [zeroed .year, mark '-', zeroed .month, mark '-', zeroed .day]
  | 'G' => some [zeroed .weekYear]
  | 'U' => some [zeroed .weekFromSunday]
  | 'V' => some [zeroed .week]
  | 'W' => some [zeroed .weekFromMonday]
  | 'Y' => some [zeroed .year]
  | 'a' => some [.item (.name .weekday false)]
  | 'b' | 'h' => some [.item (.name .month false)]
  | 'd' => some [zeroed .day]
  | 'e' => some [blanked .day]
  | 'g' => some [zeroed .weekYearOfCentury]
  | 'j' => some [zeroed .ordinal]
  | 'm' => some [zeroed .month]
  | 'n' => some [.item (.space ['\n'])]
  | 'q' => some [bare .quarter]
  | 't' => some [.item (.space ['\t'])]
  | 'u' => some [bare .dayOfWeek]
  | 'v' =>
    some [blanked .day, mark '-', .item (.name .month false), mark '-', zeroed .year]
  | 'w' => some [bare .daysFromSunday]
  | 'y' => some [zeroed .yearOfCentury]
  | '%' => some [mark '%']
  | 'H' | 'I' | 'M' | 'P' | 'R' | 'S' | 'T' | 'X' | 'Z' | 'c' | 'f' | 'k' | 'l' | 'p' | 'r' | 's'
  | 'z' | '+' => some [.clock]
  | _ => none

/-- The clock specifiers of more than one character, each without its percent sign. -/
def longClocks : List (List Char) :=
  [":::z", "::z", ":z", "#z", ".f", ".3f", ".6f", ".9f", "3f", "6f", "9f"].map String.toList

/-- The clock specifiers that are numbers and so accept a filling. -/
def isNumericClock (c : Char) : Bool :=
  ['H', 'I', 'M', 'S', 'f', 'k', 'l', 's'].contains c

/-- What a specifier stands for under a filling that overrides its own. Only a single number accepts
one. -/
def padded? (padding : Padding) (c : Char) : Option (List Spec) :=
  match simple? c with
  | some [.item (.number f _)] => some [.item (.number f padding)]
  | some [.clock] => if isNumericClock c then some [.clock] else none
  | _ => none

/-- The filling that a character after the percent sign asks for. -/
def padding? : Char → Option Padding
  | '-' => some .none
  | '0' => some .zero
  | '_' => some .space
  | _ => none

/-- What the specifier at the start of a text stands for, and the rest; the percent sign is not part
of the text. -/
def specifier? (cs : List Char) : Option (List Spec × List Char) :=
  match longClocks.findSome? fun clock => dropPrefix? clock cs with
  | some rest => some ([.clock], rest)
  | none =>
    match cs with
    | [] => none
    | c :: rest =>
      match padding? c, rest with
      | some padding, c :: rest => (padded? padding c).map (·, rest)
      | some _, [] => none
      | none, rest => (simple? c).map (·, rest)

/-- Whether a character of a pattern stands for itself. -/
def isPlain (c : Char) : Bool := !isSpace c && c != '%'

/-- The parts of a pattern, or nothing if a specifier is unknown. Each part takes a character at
least, so as many steps suffice as there are characters. -/
def specsWith : Nat → List Char → Option (List Spec)
  | _, [] => some []
  | 0, _ :: _ => none
  | fuel + 1, c :: cs =>
    if c = '%' then do
      let (specs, rest) ← specifier? cs
      return specs ++ (← specsWith fuel rest)
    else if isSpace c then do
      let (text, rest) := splitWhile isSpace (c :: cs)
      return .item (.space text) :: (← specsWith fuel rest)
    else do
      let (text, rest) := splitWhile isPlain (c :: cs)
      return .item (.literal text) :: (← specsWith fuel rest)

/-- The parts of a pattern, or nothing if a specifier is unknown. -/
def specs? (pattern : List Char) : Option (List Spec) := specsWith pattern.length pattern

end Pattern

end Overdue.Calendar
