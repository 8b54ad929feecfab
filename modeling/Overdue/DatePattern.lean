/-
Date patterns that can be used in a run.

A run has one pattern, by which it reads all dates. A pattern is accepted if it has fields, if all of
them are fields of a date, and if a sample date that is written with it is read back. Reports write all
dates with the default pattern, whatever pattern reads them.
-/
import Overdue.Calendar.Reading
import Overdue.Calendar.Writing

set_option autoImplicit false

namespace Overdue

open Overdue.Calendar

/-! ## Errors -/

/-- What is wrong with a pattern. -/
inductive PatternFault where
  /-- There is a percent sign without a known specifier. -/
  | unknownSpecifier
  /-- There is no field at all. -/
  | noFields
  /-- There is a field that a date does not have. -/
  | notOfADate
  /-- The fields do not tell the dates apart. -/
  | ambiguous
deriving DecidableEq, Inhabited, Repr

/-- What is said about a fault. -/
def PatternFault.message : PatternFault → String
  | unknownSpecifier => "unknown specifier"
  | noFields => "no date fields"
  | notOfADate => "cannot format a calendar date"
  | ambiguous => "must identify a day, month and year"

/-- A text that is not accepted as a pattern. -/
structure PatternError where
  pattern : String
  fault : PatternFault
deriving DecidableEq, Inhabited, Repr

/-- What is said about a text that is not accepted. -/
def PatternError.message (e : PatternError) : String :=
  s!"invalid date format '{e.pattern}': {e.fault.message}"

/-- A text that is not a date along the pattern of the run. -/
structure FormatError where
  input : String
  expected : String
deriving DecidableEq, Inhabited, Repr

/-- What is said about a text that is not a date. -/
def FormatError.message (e : FormatError) : String :=
  s!"'{e.input}' does not match date format '{e.expected}'"

/-! ## Patterns -/

/-- A pattern: its text and the items that the text stands for, all of them parts of a date. -/
structure DatePattern where
  text : String
  items : List Item
  specs_text : Pattern.specs? text.toList = some (items.map .item)
deriving DecidableEq, Repr

namespace DatePattern

/-- The pattern used when none is configured, and for every date in a report. -/
def standard : DatePattern where
  text := "%d-%m-%Y"
  items :=
    [.number .day .zero, .literal ['-'], .number .month .zero, .literal ['-'],
      .number .year .zero]
  specs_text := by decide

instance : Inhabited DatePattern := ⟨standard⟩

/-- The text of a date along the text of a pattern. -/
def format (p : DatePattern) (d : Date) : String :=
  String.ofList ((Pattern.write? d p.text.toList).getD [])

/-- Every part of a pattern has a text for every date. -/
theorem format_eq (p : DatePattern) (d : Date) : p.format d = String.ofList (renderItems p.items d) := by
  rw [format, Pattern.write?_of_specs? p.specs_text, Option.getD_some]

/-- The date that a text is, or why it is none. -/
def read (p : DatePattern) (text : String) : Except Misreading Date :=
  readDate p.items text.toList

/-- The date that a text is. -/
def parse (p : DatePattern) (text : String) : Except FormatError Date :=
  match p.read text with
  | .ok d => .ok d
  | .error _ => .error ⟨text, p.text⟩

/-- The date that a pattern must write and read back. -/
def sample : Date := ⟨2031, 11, 25, by decide⟩

/-- The pattern with a given text, if it is accepted. -/
def ofText (text : String) : Except PatternError DatePattern :=
  match hspecs : Pattern.specs? text.toList with
  | none => .error ⟨text, .unknownSpecifier⟩
  | some specs =>
    if !specs.any Spec.isField then .error ⟨text, .noFields⟩
    else
      match Pattern.write? sample text.toList, hitems : specs.mapM Spec.item? with
      | some written, some items =>
        match readDate items written with
        | .ok d =>
          if d = sample then .ok ⟨text, items, by rw [hspecs, Spec.eq_map_of_mapM_item? hitems]⟩
          else .error ⟨text, .ambiguous⟩
        | .error _ => .error ⟨text, .ambiguous⟩
      | _, _ => .error ⟨text, .notOfADate⟩

end DatePattern

namespace Calendar.Date

/-- The text of a date in a report. -/
def canonical (d : Date) : String := DatePattern.standard.format d

/-- The text of a date with the year first. -/
def toString (d : Date) : String :=
  String.ofList
    (renderItems
      [.number .year .zero, .literal ['-'], .number .month .zero, .literal ['-'],
        .number .day .zero] d)

end Calendar.Date

end Overdue
