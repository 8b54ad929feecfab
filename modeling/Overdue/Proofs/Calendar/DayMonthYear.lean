/-
Patterns of day, month and year.

A *layout* has the day, the month and the year once each, in any order, with a text between any two of them and
perhaps one in front and one behind. What is asked of these texts is little: that they stand for themselves, and
that none behind a field begins with a digit. Day and month always fill their two places, so it is for the year
alone that the second condition is needed: beyond four digits a year has a sign, and what is read behind a sign
ends only where the digits do. Signs themselves do no harm, since a text between fields is taken away before a
field is looked for.

So every layout is accepted and loses nothing, over all dates that there are, and not only recent ones as other
patterns. The pattern of reports is a layout.
-/
import Overdue.Proofs.Calendar.PatternText

set_option autoImplicit false

namespace Overdue

open Overdue.Calendar Overdue.Text

namespace Calendar

/-! ## Parts of a date -/

/-- The parts of a date that tell it. -/
inductive Part where
  | day
  | month
  | year
deriving DecidableEq

namespace Part

/-- The letter of a part in a pattern. -/
def letter : Part → Char
  | day => 'd'
  | month => 'm'
  | year => 'Y'

/-- The field that a part is. -/
def field : Part → Field
  | day => .day
  | month => .month
  | year => .year

/-- The number of a part. -/
def number (d : Date) : Part → Int
  | day => d.day
  | month => d.month
  | year => d.year

end Part

/-- The number of a part that was not yet read can always be noted. -/
theorem Reading.set_part (known : List Field) (d : Date) (p : Part) :
    (Reading.of known d).set p.field (p.number d) = .ok (Reading.of (p.field :: known) d) := by
  obtain ⟨hfirst, hlast, hmonth, -, hday, -⟩ := d.isDate
  cases p with
  | day =>
    have hwithin : within 1 31 d.day = .ok d.day := within_ok hday d.day_le
    have hagreed : agreed (Reading.of known d).day d.day = .ok d.day := agreed_told
    simp only [Part.field, Part.number, Reading.set, hwithin, ok_bind, hagreed]
    simp [Reading.of, told_cons_self, told_cons_of_ne, pure, Except.pure]
  | month =>
    have hwithin : within 1 12 d.month = .ok d.month := within_ok hmonth d.month_le
    simp only [Part.field, Part.number, Reading.set, hwithin, ok_bind]
    exact Reading.setMonth_of known d
  | year =>
    have hagreed : agreed (Reading.of known d).year d.year = .ok d.year := agreed_told
    simp only [Part.field, Part.number, Reading.set, yearWithin_ok hfirst hlast, ok_bind, hagreed]
    simp [Reading.of, told_cons_self, told_cons_of_ne, pure, Except.pure]

/-- A part of any date is read back where no digit follows it. -/
theorem Field.readValue_part (d : Date) (p : Part) {rest : List Char} (hrest : StartsNoDigit rest) :
    p.field.readValue (p.field.render .zero d ++ rest) = .ok (p.number d, rest) := by
  have hday := d.day_le
  have hmonth := d.month_le
  cases p with
  | day =>
    rw [Part.field, Field.render, twoPlaces_eq_padded (by omega)]
    exact Field.readValue_padded rfl (by omega) rest
  | month =>
    rw [Part.field, Field.render, twoPlaces_eq_padded (by omega)]
    exact Field.readValue_padded rfl (by omega) rest
  | year => exact Field.readValue_yearText rfl rfl hrest d.year

/-- A part at the front of a text is read as it was written, if no digit follows. -/
theorem readItems_part (known : List Field) (d : Date) (p : Part) (items : List Item) {rest : List Char}
    (hrest : StartsNoDigit rest) :
    readItems (.number p.field .zero :: items) (Reading.of known d) (p.field.render .zero d ++ rest) =
      readItems items (Reading.of (p.field :: known) d) rest :=
  readItems_cons (Item.read_number (Field.readValue_part d p hrest) (Reading.set_part known d p))

/-- A part stands in a pattern by a percent sign and its letter. -/
theorem specs?_part (p : Part) (rest : List Char) :
    Pattern.specs? ('%' :: p.letter :: rest) =
      (Pattern.specs? rest).map (.item (.number p.field .zero) :: ·) := by
  have hletter : p.letter ∈ Pattern.dateLetters := by cases p <;> decide
  have hsimple : Pattern.simple? p.letter = some [.item (.number p.field .zero)] := by cases p <;> rfl
  rw [Pattern.specs?_percent, Pattern.specifier?_letter hletter, hsimple]
  rfl

/-! ## Texts between the parts -/

/-- A text with neither percent signs nor white space. -/
def StandsForItself (cs : List Char) : Prop := '%' ∉ cs ∧ IsSolid cs

instance (cs : List Char) : Decidable (StandsForItself cs) :=
  decidable_of_iff ('%' ∉ cs ∧ (cs.all fun c => !isSpace c) = true) (by simp [StandsForItself, IsSolid])

/-- The items of a text that stands for itself: none, if there is no text. -/
def literalItems (cs : List Char) : List Item := if cs = [] then [] else [.literal cs]

section Literal

variable {cs : List Char} (items : List Item)

/-- Literal items write themselves, whatever the date is. -/
theorem renderItems_literalItems (d : Date) :
    renderItems (literalItems cs ++ items) d = cs ++ renderItems items d := by
  rw [renderItems_append, literalItems]
  split
  · rename_i h
    rw [h]
    rfl
  · simp [renderItems, Item.render]

/-- Literal items take themselves away and note nothing. -/
theorem readItems_literalItems (r : Reading) (rest : List Char) :
    readItems (literalItems cs ++ items) r (cs ++ rest) = readItems items r rest := by
  rw [literalItems]
  split
  · rename_i h
    rw [h]
    rfl
  · refine readItems_cons ?_
    rw [Item.read, dropPrefix?_append]

/-- A text that stands for itself is taken into a pattern as it is, up to a percent sign or the end. -/
theorem specs?_literalItems (hcs : StandsForItself cs) {rest : List Char}
    (hrest : ∀ c ∈ rest.head?, c = '%') :
    Pattern.specs? (cs ++ rest) = (Pattern.specs? rest).map ((literalItems cs).map .item ++ ·) := by
  rw [literalItems]
  split
  · rename_i h
    rw [h]
    exact Option.map_id'.symm
  · rename_i hne
    refine Pattern.specs?_literal hne ?_ ?_
    · intro c hc
      have hpercent : c ≠ '%' := fun h => hcs.1 (h ▸ hc)
      simp [Pattern.isPlain, hcs.2 c hc, hpercent]
    · intro c hc
      rw [hrest c hc]
      decide

end Literal

/-! ## Layouts -/

/-- The day, the month and the year, once each, with texts around and between them. -/
structure Layout where
  lead : List Char
  first : Part
  gap₁ : List Char
  second : Part
  gap₂ : List Char
  third : Part
  tail : List Char
  parts : [first, second, third].Perm [.day, .month, .year]
  lead_plain : StandsForItself lead
  gap₁_plain : StandsForItself gap₁
  gap₂_plain : StandsForItself gap₂
  tail_plain : StandsForItself tail
  gap₁_ne : gap₁ ≠ []
  gap₂_ne : gap₂ ≠ []
  gap₁_apart : StartsNoDigit gap₁
  gap₂_apart : StartsNoDigit gap₂
  tail_apart : StartsNoDigit tail

theorem startsNoDigit_append {cs rest : List Char} (h : StartsNoDigit cs) (hne : cs ≠ []) :
    StartsNoDigit (cs ++ rest) := by
  intro c hc
  rw [List.head?_append, Option.or_of_isSome (List.isSome_head?.mpr hne)] at hc
  exact h c hc

namespace Layout

/-- The text of a layout. -/
def text (l : Layout) : String :=
  String.ofList (l.lead ++ '%' :: l.first.letter :: (l.gap₁ ++ '%' :: l.second.letter ::
    (l.gap₂ ++ '%' :: l.third.letter :: l.tail)))

/-- The items of a layout. -/
def items (l : Layout) : List Item :=
  literalItems l.lead ++ .number l.first.field .zero :: (literalItems l.gap₁ ++
    .number l.second.field .zero :: (literalItems l.gap₂ ++
      .number l.third.field .zero :: literalItems l.tail))

variable (l : Layout)

/-- The text of a layout is a pattern, and its items are those of the layout. -/
theorem specs?_text : Pattern.specs? l.text.toList = some (l.items.map .item) := by
  have hpercent : ∀ (c : Char) (rest : List Char), ∀ b ∈ ('%' :: c :: rest).head?, b = '%' := by
    rintro c rest _ ⟨⟩
    rfl
  have hend : ∀ c ∈ ([] : List Char).head?, c = '%' := nofun
  rw [text, String.toList_ofList, ← List.append_nil l.tail,
    specs?_literalItems l.lead_plain (hpercent _ _), specs?_part,
    specs?_literalItems l.gap₁_plain (hpercent _ _), specs?_part,
    specs?_literalItems l.gap₂_plain (hpercent _ _), specs?_part,
    specs?_literalItems l.tail_plain hend, Pattern.specs?_nil]
  simp [items]

/-- The pattern of a layout. -/
def pattern : DatePattern := ⟨l.text, l.items, l.specs?_text⟩

/-- The known fields are the day, the month and the year when all three have been read. -/
theorem reading_of_parts (d : Date) :
    (Reading.of [l.third.field, l.second.field, l.first.field] d).date = .ok d := by
  have hparts : ∀ f, f ∈ [l.third.field, l.second.field, l.first.field] ↔ f ∈ [.day, .month, .year] := by
    intro f
    have hmem := (l.parts.map Part.field).mem_iff (a := f)
    simp only [List.map_cons, List.map_nil, Part.field, List.mem_cons, List.not_mem_nil, or_false] at hmem ⊢
    tauto
  rw [Reading.of_congr hparts]
  exact Reading.date_of_parts d

/-- Every date is read back. -/
theorem readDate_renderItems (d : Date) : readDate l.items (renderItems l.items d) = .ok d := by
  have hread : readItems l.items {} (renderItems l.items d) =
      .ok (Reading.of [l.third.field, l.second.field, l.first.field] d, []) := by
    have hnumber (p : Part) (rest : List Item) :
        renderItems (.number p.field .zero :: rest) d = p.field.render .zero d ++ renderItems rest d := rfl
    rw [items, ← List.append_nil (literalItems l.tail), ← reading_of_nil d, renderItems_literalItems,
      readItems_literalItems, hnumber, renderItems_literalItems,
      readItems_part _ _ _ _ (startsNoDigit_append l.gap₁_apart l.gap₁_ne),
      readItems_literalItems, hnumber, renderItems_literalItems,
      readItems_part _ _ _ _ (startsNoDigit_append l.gap₂_apart l.gap₂_ne), readItems_literalItems, hnumber,
      renderItems_literalItems, show renderItems [] d = [] from rfl,
      readItems_part _ _ _ _ (by rw [List.append_nil]; exact l.tail_apart), readItems_literalItems]
    rfl
  rw [readDate, hread]
  exact l.reading_of_parts d

end Layout

/-- The pattern that is used when none is configured, as a layout. -/
def Layout.dashed : Layout where
  lead := []
  first := .day
  gap₁ := ['-']
  second := .month
  gap₂ := ['-']
  third := .year
  tail := []
  parts := by decide
  lead_plain := by decide
  gap₁_plain := by decide
  gap₂_plain := by decide
  tail_plain := by decide
  gap₁_ne := by decide
  gap₂_ne := by decide
  gap₁_apart := by decide
  gap₂_apart := by decide
  tail_apart := by decide

end Calendar

namespace DatePattern

/-- **Every layout is accepted and loses no date.** So does the pattern in which reports write dates: the texts
of two dates differ, and each is read back. -/
theorem parse_format_of_layout :
    (∀ l : Layout, ∃ p, ofText l.text = .ok p ∧ ∀ d, p.parse (p.format d) = .ok d) ∧
    ofText "%d-%m-%Y" = .ok standard ∧
    (∀ d : Date, standard.parse d.canonical = .ok d) ∧ Function.Injective Date.canonical := by
  have haccepted (l : Layout) : ofText l.text = .ok l.pattern := by
    refine ofText_eq_ok_iff.mpr ⟨rfl, l.specs?_text, ?_, l.readDate_renderItems sample⟩
    simp [Layout.pattern, Layout.items, Spec.isField]
  refine ⟨fun l => ⟨l.pattern, haccepted l, ?_⟩, haccepted .dashed, parse_format_standard, ?_⟩
  · intro d
    rw [parse_format_eq_ok_iff]
    exact l.readDate_renderItems d
  · intro d e h
    have hread := parse_format_standard d
    rw [show standard.format d = standard.format e from h, parse_format_standard e] at hread
    exact (Except.ok.inj hread).symm

/-- The year comes first, behind a digit and in front of signs. -/
def signedLayout : Layout where
  lead := ['7']
  first := .year
  gap₁ := ['+', '-']
  second := .month
  gap₂ := ['-']
  third := .day
  tail := ['.']
  parts := by decide
  lead_plain := by decide
  gap₁_plain := by decide
  gap₂_plain := by decide
  tail_plain := by decide
  gap₁_ne := by decide
  gap₂_ne := by decide
  gap₁_apart := by decide
  gap₂_apart := by decide
  tail_apart := by decide

/-- The first date of all is read back although digits and signs stand all around its year. -/
theorem parse_format_of_signedLayout :
    ∃ p, ofText "7%Y+-%m-%d." = .ok p ∧
      p.format ⟨-262143, 1, 1, by decide⟩ = "7-262143+-01-01." ∧
      p.parse "7-262143+-01-01." = .ok ⟨-262143, 1, 1, by decide⟩ := by
  obtain ⟨p, hp, hread⟩ := parse_format_of_layout.1 signedLayout
  have hformat : p.format ⟨-262143, 1, 1, by decide⟩ = "7-262143+-01-01." := by
    have hpattern : ofText "7%Y+-%m-%d." = .ok signedLayout.pattern := by decide
    cases hp.symm.trans hpattern
    decide
  exact ⟨p, hp, hformat, hformat ▸ hread _⟩

end DatePattern

end Overdue
