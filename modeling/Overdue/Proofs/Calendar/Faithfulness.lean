/-
Patterns that read back what they write.

A pattern is accepted if it reads back one sample date. What is learnt from the sample is which fields the
pattern has, and these identify every recent date just as they identify the sample, save that two digits do not
tell the year of the last week of 2069 (`date_of_eq_ok_iff`). What is not learnt is whether numbers can be told
apart: every number of the sample fills its field, so none of them runs on, while the numbers of other dates
may. The main statement says for an accepted pattern and a date when the date is read back: always if no number
of it runs on, apart from the last days of 2069, and never if one does, apart from a zero before a zero.
-/
import Overdue.Proofs.Calendar.Items

set_option autoImplicit false

namespace Overdue

open Overdue.Calendar Overdue.Text

namespace Calendar

/-! ## Agreement along a reading -/

section Agreement

variable {r r' : Reading} {d : Date}

/-- A date that agrees with what has been noted after a name agrees with what had been noted before. -/
theorem Agreement.of_setName {f : NameField} {n : Nat} (hset : r.setName f n = .ok r')
    (h : Agreement r' d) : Agreement r d := by
  cases f with
  | month => exact (h.of_setMonth hset).1
  | weekday => exact (h.of_setWeekday hset).1

/-- A number that leads to a reading with which a date agrees is that of the date, and nothing but the number is
taken. -/
theorem Agreement.of_readNumber (hd : d.IsRecent) {f : Field} {padding : Padding} {cs rest : List Char}
    (hread : (Item.number f padding).read r cs = .ok (r', rest)) (h : Agreement r' d) :
    Agreement r d ∧ f.readValue cs = .ok (f.numberOf d, rest) := by
  obtain ⟨⟨v, rest'⟩, hvalue, hread⟩ := bind_eq_ok_iff.mp hread
  obtain ⟨r'', hset, heq⟩ := bind_eq_ok_iff.mp hread
  cases heq
  obtain ⟨hold, rfl⟩ := h.of_set hd hset
  exact ⟨hold, hvalue⟩

/-- A date that agrees with what is known after an item agrees with what was known before it. -/
theorem Agreement.of_read (hd : d.IsRecent) {i : Item} {cs rest : List Char}
    (hread : i.read r cs = .ok (r', rest)) (h : Agreement r' d) : Agreement r d := by
  cases i with
  | literal text =>
    rw [Item.read] at hread
    split at hread
    · cases hread
      exact h
    · cases hread
  | space text =>
    cases hread
    exact h
  | number f padding => exact (h.of_readNumber hd hread).1
  | name f inFull =>
    rw [Item.read] at hread
    split at hread
    · obtain ⟨r'', hset, heq⟩ := bind_eq_ok_iff.mp hread
      cases heq
      exact h.of_setName hset
    · cases hread

/-- A date that agrees with the end of a reading agrees with its beginning. -/
theorem Agreement.of_readItems (hd : d.IsRecent) {items : List Item} {cs rest : List Char}
    (hread : readItems items r cs = .ok (r', rest)) (h : Agreement r' d) : Agreement r d := by
  induction items generalizing r cs with
  | nil =>
    cases hread
    exact h
  | cons i items ih =>
    obtain ⟨⟨r'', rest'⟩, hfirst, hread⟩ := bind_eq_ok_iff.mp hread
    exact (ih hread).of_read hd hfirst

/-- The date that a reading tells agrees with it. -/
theorem agreement_of_date (h : r.date = .ok d) : Agreement r d := by
  obtain ⟨_, -, h⟩ := bind_eq_ok_iff.mp h
  obtain ⟨_, -, h⟩ := bind_eq_ok_iff.mp h
  obtain ⟨e, -, h⟩ := bind_eq_ok_iff.mp h
  split at h
  · rename_i hagrees
    cases h
    exact agrees_iff.mp hagrees
  · cases h

/-- The date that is read agrees with all that has been noted, and no text is left over. -/
theorem agreement_of_readDate {items : List Item} {cs : List Char} (h : readDate items cs = .ok d) :
    ∃ r, readItems items {} cs = .ok (r, []) ∧ Agreement r d := by
  obtain ⟨⟨r, rest⟩, hread, hdate⟩ := bind_eq_ok_iff.mp h
  cases rest with
  | nil => exact ⟨r, hread, agreement_of_date hdate⟩
  | cons => cases hdate

end Agreement

/-! ## Reading back a date -/

section ReadBack

variable {d : Date} {items : List Item}

theorem reading_of_nil (d : Date) : Reading.of [] d = {} := rfl

/-- What is known of a date depends on which fields are known, and not on their order. -/
theorem Reading.of_congr {known known' : List Field} (h : ∀ f, f ∈ known ↔ f ∈ known') (d : Date) :
    Reading.of known d = Reading.of known' d := by
  simp only [Reading.of, told, h]

/-- It does not matter in which order the fields of a date are noted. -/
theorem reading_of_reverse (known : List Field) (d : Date) :
    Reading.of known.reverse d = Reading.of known d :=
  Reading.of_congr (fun _ => List.mem_reverse) d

theorem renderItems_append (before after : List Item) (d : Date) :
    renderItems (before ++ after) d = renderItems before d ++ renderItems after d :=
  List.flatMap_append

/-- Where no number runs on, all fields are read, and it is left to them to identify the date. -/
theorem readDate_renderItems (hd : d.IsRecent) (hitems : ∀ i ∈ items, i.IsProper)
    (hapart : NumbersApart d [] items) :
    readDate items (renderItems items d) = (Reading.of (items.filterMap Item.field?) d).date := by
  obtain ⟨rest, hrest, hread⟩ :=
    readItems_renderItems hd hitems hapart (.inl (List.append_nil _).symm) [] []
  have hnil : rest = [] := hrest.eq_of_startsSolid nofun
  rw [List.append_nil, List.append_nil, reading_of_nil, reading_of_reverse, hnil] at hread
  rw [readDate, hread]
  rfl

/-- A date is not read back if a number of it runs on and is misread. -/
theorem readDate_renderItems_ne (hd : d.IsRecent) {before after : List Item} {f : Field} {padding : Padding}
    (hbefore : ∀ i ∈ before, i.IsProper)
    (hapart : NumbersApart d (renderItems (.number f padding :: after) d) before)
    (hruns : f.RunsOn padding d (renderItems after d))
    (hzero : f.numberOf d = 0 → (renderItems after d).head? ≠ some '0') :
    readDate (before ++ .number f padding :: after)
      (renderItems (before ++ .number f padding :: after) d) ≠ .ok d := by
  intro hdate
  obtain ⟨r, hread, hagrees⟩ := agreement_of_readDate hdate
  -- up to the number everything is read as it was written
  obtain ⟨cs, hcs, hstart⟩ := readItems_renderItems hd hbefore hapart
    (.inl (renderItems_append ..)) [] (.number f padding :: after)
  rw [reading_of_nil] at hstart
  rw [hstart] at hread
  obtain ⟨⟨r', rest⟩, hnumber, hrest⟩ := bind_eq_ok_iff.mp hread
  obtain ⟨-, hvalue⟩ := (hagrees.of_readItems hd hrest).of_readNumber hd hnumber
  exact Field.readValue_ne_of_runsOn hd hruns hzero hcs hvalue rfl

end ReadBack

/-! ## Accepted patterns -/

/-- An item as a pattern has it: a text that stands for itself holds no white space, and white space nothing
else. -/
def Item.IsWhole : Item → Prop
  | literal text => text ≠ [] ∧ IsSolid text
  | space text => IsBlank text
  | number _ _ | name _ _ => True

/-- Every item that a pattern is made of can be read where it was written. -/
theorem Item.IsWhole.isProper {i : Item} (h : i.IsWhole) : i.IsProper := by
  cases i with
  | literal text => exact ⟨h.1, startsSolid_of_isSolid h.2⟩
  | space text => exact h
  | number | name => trivial

/-- A part of a pattern whose item, if it has one, is whole. -/
def Spec.IsWhole : Spec → Prop
  | item i => i.IsWhole
  | clock => True

namespace Pattern

theorem isWhole_mark {c : Char} (h : isSpace c = false) : (mark c).IsWhole := by
  refine ⟨List.cons_ne_nil _ _, ?_⟩
  intro b hb
  rw [List.mem_singleton.mp hb]
  exact h

theorem isWhole_blank {c : Char} (h : isSpace c = true) : (Spec.item (.space [c])).IsWhole := by
  intro b hb
  rw [List.mem_singleton.mp hb]
  exact h

/-- What a letter stands for is made of whole items. -/
theorem isWhole_of_simple? {c : Char} {specs : List Spec} (h : simple? c = some specs) :
    ∀ s ∈ specs, s.IsWhole := by
  have hmarks : (mark '/').IsWhole ∧ (mark '-').IsWhole ∧ (mark '%').IsWhole :=
    ⟨isWhole_mark (by decide), isWhole_mark (by decide), isWhole_mark (by decide)⟩
  have hblanks : (Spec.item (.space ['\n'])).IsWhole ∧ (Spec.item (.space ['\t'])).IsWhole :=
    ⟨isWhole_blank (by decide), isWhole_blank (by decide)⟩
  have hnumber : ∀ f padding, (Spec.item (.number f padding)).IsWhole := fun _ _ => trivial
  have hname : ∀ f inFull, (Spec.item (.name f inFull)).IsWhole := fun _ _ => trivial
  have hclock : Spec.clock.IsWhole := trivial
  unfold simple? at h
  split at h <;> cases h <;>
    simp [shortDate, zeroed, blanked, bare, hmarks, hblanks, hnumber, hname, hclock]

theorem isWhole_of_padded? {padding : Padding} {c : Char} {specs : List Spec}
    (h : padded? padding c = some specs) : ∀ s ∈ specs, s.IsWhole := by
  unfold padded? at h
  split at h
  · cases h
    simp [Spec.IsWhole, Item.IsWhole]
  · split at h
    · cases h
      simp [Spec.IsWhole]
    · cases h
  · cases h

/-- What a specifier stands for is made of whole items. -/
theorem isWhole_of_specifier? {cs rest : List Char} {specs : List Spec}
    (h : specifier? cs = some (specs, rest)) : ∀ s ∈ specs, s.IsWhole := by
  unfold specifier? at h
  split at h
  · cases h
    simp [Spec.IsWhole]
  · split at h
    · cases h
    · split at h
      · obtain ⟨_, hspecs, heq⟩ := Option.map_eq_some_iff.mp h
        cases heq
        exact isWhole_of_padded? hspecs
      · cases h
      · obtain ⟨_, hspecs, heq⟩ := Option.map_eq_some_iff.mp h
        cases heq
        exact isWhole_of_simple? hspecs

/-- Texts that stand for themselves are cut off at white space, and white space at what is none. -/
theorem isWhole_of_specsWith {fuel : Nat} {cs : List Char} {specs : List Spec}
    (h : specsWith fuel cs = some specs) : ∀ s ∈ specs, s.IsWhole := by
  induction fuel generalizing cs specs with
  | zero =>
    cases cs with
    | nil =>
      cases h
      nofun
    | cons => cases h
  | succ fuel ih =>
    cases cs with
    | nil =>
      cases h
      nofun
    | cons c cs =>
      rw [specsWith] at h
      split at h
      -- a specifier, then a run of white space, then a run of plain characters
      · obtain ⟨⟨first, rest⟩, hfirst, h⟩ := Option.bind_eq_some_iff.mp h
        obtain ⟨more, hmore, heq⟩ := Option.bind_eq_some_iff.mp h
        cases heq
        intro s hs
        rcases List.mem_append.mp hs with hs | hs
        · exact isWhole_of_specifier? hfirst s hs
        · exact ih hmore s hs
      · split at h
        · obtain ⟨more, hmore, heq⟩ := Option.bind_eq_some_iff.mp h
          cases heq
          intro s hs
          rcases List.mem_cons.mp hs with rfl | hs
          · intro b hb
            exact List.mem_takeWhile_imp hb
          · exact ih hmore s hs
        · rename_i hpercent hspace
          obtain ⟨more, hmore, heq⟩ := Option.bind_eq_some_iff.mp h
          cases heq
          have hplain : isPlain c = true := by
            simp [isPlain, hpercent, hspace]
          intro s hs
          rcases List.mem_cons.mp hs with rfl | hs
          · refine ⟨by simp [hplain], ?_⟩
            intro b hb
            have hb : isPlain b = true := List.mem_takeWhile_imp hb
            simp only [isPlain, Bool.and_eq_true, Bool.not_eq_true'] at hb
            exact hb.1
          · exact ih hmore s hs

theorem mapM_item?_map (items : List Item) : (items.map Spec.item).mapM Spec.item? = some items := by
  have hitem : Spec.item? ∘ Spec.item = fun i => pure i := rfl
  rw [List.mapM_map, hitem, List.mapM_pure, List.map_id']
  rfl

end Pattern

end Calendar

namespace DatePattern

/-- A text is accepted exactly if its parts are parts of a date, some of them fields, and the sample is read
back. -/
theorem ofText_eq_ok_iff {text : String} {p : DatePattern} :
    ofText text = .ok p ↔
      p.text = text ∧ Pattern.specs? text.toList = some (p.items.map .item) ∧
      (p.items.map Spec.item).any Spec.isField = true ∧
      readDate p.items (renderItems p.items sample) = .ok sample := by
  constructor
  · intro h
    unfold ofText at h
    split at h
    · cases h
    · rename_i specs hspecs
      split at h
      · cases h
      · rename_i hfield
        split at h
        · rename_i written items hwritten hitems
          obtain rfl := Spec.eq_map_of_mapM_item? hitems
          obtain rfl := Option.some.inj ((Pattern.write?_of_specs? hspecs).symm.trans hwritten)
          split at h
          · rename_i d hread
            split at h
            · rename_i hd
              cases h
              exact ⟨rfl, hspecs, by simpa using hfield, hd ▸ hread⟩
            · cases h
          · cases h
        · cases h
  · obtain ⟨_, items, _⟩ := p
    rintro ⟨rfl, hspecs, hfield, hread⟩
    have hitems := Pattern.mapM_item?_map items
    have hwrite := Pattern.write?_of_specs? (d := sample) hspecs
    simp only at hspecs hfield hread
    -- nothing on the way can fail: the parts are known, and so is what is written of the sample
    unfold ofText
    split
    · rename_i hnone
      cases hnone.symm.trans hspecs
    · rename_i specs hsome
      obtain rfl := Option.some.inj (hsome.symm.trans hspecs)
      rw [if_neg (by simp [hfield])]
      split
      · rename_i written items' hwritten hitems'
        obtain rfl := Option.some.inj (hwrite.symm.trans hwritten)
        obtain rfl := Option.some.inj (hitems.symm.trans hitems')
        rw [hread]
        exact if_pos rfl
      · rename_i hnone
        exact absurd hitems (hnone _ _ hwrite)

/-- An accepted pattern is made of whole items. -/
theorem isWhole_of_ofText {text : String} {p : DatePattern} (h : ofText text = .ok p) :
    ∀ i ∈ p.items, i.IsWhole := by
  obtain ⟨-, hspecs, -, -⟩ := ofText_eq_ok_iff.mp h
  intro i hi
  exact Pattern.isWhole_of_specsWith hspecs (.item i) (List.mem_map_of_mem hi)

/-- An accepted pattern has proper items, and reads back the sample. -/
theorem of_ofText {text : String} {p : DatePattern} (h : ofText text = .ok p) :
    (∀ i ∈ p.items, i.IsProper) ∧ readDate p.items (renderItems p.items sample) = .ok sample := by
  obtain ⟨-, -, -, hread⟩ := ofText_eq_ok_iff.mp h
  exact ⟨fun i hi => (isWhole_of_ofText h i hi).isProper, hread⟩

/-- Every number of the sample uses up its field, so there is nothing to learn from it about numbers that
do not. -/
theorem numbersApart_sample (items : List Item) : NumbersApart sample [] items := by
  have hfull : ∀ f padding, (Field.render f padding sample).countP Char.isDigit = f.width := by
    intro f padding
    cases f <;> cases padding <;> decide
  induction items with
  | nil => trivial
  | cons i items ih =>
    refine ⟨?_, ih⟩
    cases i with
    | number f padding =>
      rintro ⟨hshort, -⟩
      rw [hfull] at hshort
      exact Nat.lt_irrefl _ hshort
    | _ => trivial

/-- The fields of a pattern. -/
def fields (p : DatePattern) : List Field := p.items.filterMap Item.field?

/-- A text is the date that its items read from it. -/
theorem parse_eq_ok_iff {p : DatePattern} {text : String} {d : Date} :
    p.parse text = .ok d ↔ readDate p.items text.toList = .ok d := by
  rw [parse, read]
  split
  · rename_i h
    rw [h, Except.ok.injEq, Except.ok.injEq]
  · rename_i h
    simp [h]

/-- What a pattern has written is read back if its items read it back. -/
theorem parse_format_eq_ok_iff {p : DatePattern} {d : Date} :
    p.parse (p.format d) = .ok d ↔ readDate p.items (renderItems p.items d) = .ok d := by
  rw [parse_eq_ok_iff, format_eq, String.toList_ofList]

/-- An accepted pattern reads back a recent date if no number of it runs on, except that it may take the
last days of 2069, which belong to a week of 2070, for days of 1969. It does not read back a date of which a
number runs on, unless the first such number is a zero and a zero follows it. -/
theorem parse_format_of_ofText {text : String} {p : DatePattern} (hp : ofText text = .ok p) {d : Date}
    (hd : d.IsRecent) :
    (NumbersApart d [] p.items →
      (p.parse (p.format d) = .ok d ↔
        (TellsYear p.fields ∧ TellsDayOfYear p.fields) ∨ .weekYear ∈ p.fields ∨
          d.yearWeek.year ≤ 2069)) ∧
    ∀ before f padding after, p.items = before ++ .number f padding :: after →
      NumbersApart d (renderItems (.number f padding :: after) d) before →
      f.RunsOn padding d (renderItems after d) →
      (f.numberOf d = 0 → (renderItems after d).head? ≠ some '0') →
      p.parse (p.format d) ≠ .ok d := by
  obtain ⟨hproper, hsample⟩ := of_ofText hp
  refine ⟨?_, ?_⟩
  · intro hapart
    rw [readDate_renderItems (by decide) hproper (numbersApart_sample _),
      date_of_eq_ok_iff (by decide)] at hsample
    rw [parse_format_eq_ok_iff, readDate_renderItems hd hproper hapart, date_of_eq_ok_iff hd]
    -- the fields are those that identified the sample; only the year of the week depends on the date
    constructor
    · rintro (hyear | ⟨-, -, hweek⟩)
      · exact .inl hyear
      · exact .inr hweek
    · rintro (hyear | hweek)
      · exact .inl hyear
      · exact hsample.imp_right fun ⟨htells, hcentury, _⟩ => ⟨htells, hcentury, hweek⟩
  · intro before f padding after hitems hapart hruns hzero
    rw [Ne, parse_format_eq_ok_iff, hitems]
    refine readDate_renderItems_ne hd ?_ hapart hruns hzero
    intro i hi
    exact hproper i (by rw [hitems]; exact List.mem_append_left _ hi)

/-- Day, month and year, the first two without filling and nothing between them. -/
def unfilled : DatePattern where
  text := "%-d%-m%Y"
  items := [.number .day .none, .number .month .none, .number .year .zero]
  specs_text := by decide

/-- Where the day and the month have two digits each they are told apart. Of January the eleventh the month
runs on into the year. -/
theorem parse_format_unfilled :
    ofText "%-d%-m%Y" = .ok unfilled ∧
    unfilled.parse (unfilled.format ⟨2024, 11, 25, by decide⟩) = .ok ⟨2024, 11, 25, by decide⟩ ∧
    unfilled.parse (unfilled.format ⟨2024, 1, 11, by decide⟩) ≠ .ok ⟨2024, 1, 11, by decide⟩ := by
  have hp : ofText "%-d%-m%Y" = .ok unfilled := by decide
  refine ⟨hp, ?_, ?_⟩
  · refine ((parse_format_of_ofText hp (by decide)).1 (by decide)).mpr (.inl ⟨?_, ?_⟩)
    · exact .inl (by decide)
    · exact .inl (by decide)
  · refine (parse_format_of_ofText hp (by decide)).2 [.number .day .none] .month .none
      [.number .year .zero] rfl (by decide) (by decide) ?_
    intro h
    cases h

/-- An accepted pattern may read another date than it wrote: January the eleventh of 2024 is written
`1112024`, and that is read as December the eleventh of the year 24. -/
theorem not_forall_parse_format :
    ¬ ∀ (text : String) (p : DatePattern) (d : Date), ofText text = .ok p → d.IsRecent →
      p.parse (p.format d) = .ok d := by
  intro h
  have hread := h "%-d%-m%Y" unfilled ⟨2024, 1, 11, by decide⟩ (by decide) (by decide)
  have hother : unfilled.parse (unfilled.format ⟨2024, 1, 11, by decide⟩) =
      .ok ⟨24, 12, 11, by decide⟩ := by decide
  rw [hother] at hread
  cases hread

end DatePattern

end Overdue
