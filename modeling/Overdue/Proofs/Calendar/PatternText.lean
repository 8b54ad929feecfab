/-
The texts of patterns.

A pattern is read part by part, with as many steps as its text has characters. That bound is shown not to matter
first, so that the parts of a text can be read off from left to right. Then the texts that have no other parts
than those of a date are described by their letters (`IsDateText`), and it is shown that these are the texts
along which a date can be written. Whether it can be does not depend on the date (`isSome_write?_iff`). That is
why a pattern which has a text for the sample has one for every date, and an accepted pattern never fails to
write one.
-/
import Overdue.Proofs.Calendar.Faithfulness

set_option autoImplicit false

namespace Overdue

open Overdue.Calendar Overdue.Text

namespace Calendar

namespace Pattern

/-! ## Parts from left to right -/

/-- A specifier is taken from the front of a text, so what is left is no longer. -/
theorem length_le_of_specifier? {cs rest : List Char} {specs : List Spec}
    (h : specifier? cs = some (specs, rest)) : rest.length ≤ cs.length := by
  unfold specifier? at h
  split at h
  · rename_i after hclock
    cases h
    obtain ⟨clock, -, hdrop⟩ := List.exists_of_findSome?_eq_some hclock
    rw [dropPrefix?_eq_some_iff.mp hdrop, List.length_append]
    omega
  · split at h
    · cases h
    · split at h
      · obtain ⟨_, -, heq⟩ := Option.map_eq_some_iff.mp h
        cases heq
        simp only [List.length_cons]
        omega
      · cases h
      · obtain ⟨_, -, heq⟩ := Option.map_eq_some_iff.mp h
        cases heq
        simp only [List.length_cons]
        omega

/-- As soon as there are as many steps as characters, their number does not matter. -/
theorem specsWith_eq_specsWith {fuel fuel' : Nat} {cs : List Char} (h : cs.length ≤ fuel)
    (h' : cs.length ≤ fuel') : specsWith fuel cs = specsWith fuel' cs := by
  -- by induction on one fuel for all values of the other
  induction fuel generalizing fuel' cs with
  | zero =>
    obtain rfl := List.eq_nil_of_length_eq_zero (Nat.le_zero.mp h)
    cases fuel' <;> rfl
  | succ fuel ih =>
    cases cs with
    | nil => cases fuel' <;> rfl
    | cons c cs =>
      rw [List.length_cons] at h h'
      obtain ⟨fuel', rfl⟩ := Nat.exists_eq_add_of_lt (Nat.lt_of_lt_of_le (Nat.succ_pos _) h')
      have hrest {rest : List Char} (hle : rest.length ≤ cs.length) :
          specsWith fuel rest = specsWith (0 + fuel') rest := ih (by omega) (by omega)
      have hdrop {test : Char → Bool} (hc : test c = true) :
          ((c :: cs).dropWhile test).length ≤ cs.length := by
        rw [List.dropWhile_cons_of_pos hc]
        exact (List.dropWhile_suffix test).length_le
      -- the rest behind a part is shorter than the text, so either fuel is enough for it
      rw [specsWith, specsWith]
      split
      · cases hspecifier : specifier? cs with
        | none => rfl
        | some found =>
          obtain ⟨specs, rest⟩ := found
          simp only [Option.bind_eq_bind, Option.bind_some, hrest (length_le_of_specifier? hspecifier)]
      · rename_i hpercent
        split
        · rename_i hspace
          simp only [splitWhile, hrest (hdrop hspace)]
        · rename_i hspace
          have hplain : isPlain c = true := by simp [isPlain, hpercent, hspace]
          simp only [splitWhile, hrest (hdrop hplain)]

/-- The parts of a text are found with any fuel that is as much as its length. -/
theorem specsWith_eq_specs? {fuel : Nat} {cs : List Char} (h : cs.length ≤ fuel) :
    specsWith fuel cs = specs? cs := specsWith_eq_specsWith h (Nat.le_refl _)

theorem specs?_nil : specs? [] = some [] := rfl

/-- A percent sign begins a specifier. -/
theorem specs?_percent (cs : List Char) :
    specs? ('%' :: cs) = (specifier? cs).bind fun (specs, rest) => (specs? rest).map (specs ++ ·) := by
  rw [specs?, List.length_cons, specsWith, if_pos rfl]
  cases hspecifier : specifier? cs with
  | none => rfl
  | some found =>
    obtain ⟨specs, rest⟩ := found
    simp only [Option.bind_eq_bind, Option.bind_some,
      specsWith_eq_specs? (length_le_of_specifier? hspecifier)]
    cases specs? rest <;> rfl

/-- A run of characters that stand for themselves is one part. -/
theorem specs?_literal {run rest : List Char} (hne : run ≠ []) (hrun : ∀ c ∈ run, isPlain c = true)
    (hrest : ∀ c ∈ rest.head?, isPlain c = false) :
    specs? (run ++ rest) = (specs? rest).map (.item (.literal run) :: ·) := by
  cases run with
  | nil => exact absurd rfl hne
  | cons c cs =>
    obtain ⟨hspace, hpercent⟩ : isSpace c = false ∧ c ≠ '%' := by
      simpa [isPlain] using hrun c List.mem_cons_self
    rw [specs?, List.cons_append, List.length_cons, specsWith, if_neg hpercent, if_neg (by simp [hspace]),
      ← List.cons_append, splitWhile_append hrun hrest]
    simp only [specsWith_eq_specs? (show rest.length ≤ (cs ++ rest).length by simp)]
    cases specs? rest <;> rfl

/-- A run of white space is one part. -/
theorem specs?_space {run rest : List Char} (hne : run ≠ []) (hrun : IsBlank run)
    (hrest : StartsSolid rest) :
    specs? (run ++ rest) = (specs? rest).map (.item (.space run) :: ·) := by
  cases run with
  | nil => exact absurd rfl hne
  | cons c cs =>
    have hspace := hrun c List.mem_cons_self
    have hpercent : c ≠ '%' := by
      rintro rfl
      exact absurd hspace (by decide)
    rw [specs?, List.cons_append, List.length_cons, specsWith, if_neg hpercent, if_pos hspace,
      ← List.cons_append, splitWhile_append hrun hrest]
    simp only [specsWith_eq_specs? (show rest.length ≤ (cs ++ rest).length by simp)]
    cases specs? rest <;> rfl

/-- What does not start with a percent sign starts with a run without one, which is one part of a date. -/
theorem specs?_of_ne_percent {c : Char} (cs : List Char) (hc : c ≠ '%') :
    ∃ run rest item, cs = run ++ rest ∧ '%' ∉ run ∧
      specs? (c :: cs) = (specs? rest).map (.item item :: ·) := by
  -- the run is one of white space or one of other characters, whichever kind the first one is
  have hsplit (test : Char → Bool) (htest : test c = true) :
      ∃ run rest, cs = run ++ rest ∧ (∀ b ∈ c :: run, test b = true) ∧ ∀ b ∈ rest.head?, test b = false := by
    obtain ⟨hcs, hrun, hrest⟩ := splitWhile_eq_iff.mp (rfl : splitWhile test cs = (_, _))
    refine ⟨_, _, hcs, ?_, hrest⟩
    intro b hb
    rcases List.mem_cons.mp hb with rfl | hb
    · exact htest
    · exact hrun b hb
  by_cases hspace : isSpace c = true
  · obtain ⟨run, rest, rfl, hrun, hrest⟩ := hsplit isSpace hspace
    refine ⟨run, rest, .space (c :: run), rfl, ?_, specs?_space (List.cons_ne_nil _ _) hrun hrest⟩
    intro hmem
    exact absurd (hrun '%' (List.mem_cons_of_mem _ hmem)) (by decide)
  · have hplain : isPlain c = true := by simp [isPlain, hc, hspace]
    obtain ⟨run, rest, rfl, hrun, hrest⟩ := hsplit isPlain hplain
    refine ⟨run, rest, .literal (c :: run), rfl, ?_, specs?_literal (List.cons_ne_nil _ _) hrun hrest⟩
    intro hmem
    exact absurd (hrun '%' (List.mem_cons_of_mem _ hmem)) (by decide)

/-! ## Texts with the parts of a date only -/

/-- The letters of the specifiers that stand for fields of a date, for white space or for a percent sign. -/
def dateLetters : List Char := "ABCDFGUVWYabdeghjmnqtuvwxy%".toList

/-- Those of them that stand for a single number, which accepts a filling. -/
def numberLetters : List Char := "CGUVWYdegjmquwy".toList

/-- A specifier of a date, without its percent sign. -/
inductive IsDateSpecifier : List Char → Prop where
  | letter {c : Char} : c ∈ dateLetters → IsDateSpecifier [c]
  | filled {p c : Char} : p ∈ ['-', '0', '_'] → c ∈ numberLetters → IsDateSpecifier [p, c]

/-- A text in which every percent sign begins a specifier of a date. -/
inductive IsDateText : List Char → Prop where
  | nil : IsDateText []
  | mark {c : Char} {cs : List Char} : c ≠ '%' → IsDateText cs → IsDateText (c :: cs)
  | specifier {s cs : List Char} : IsDateSpecifier s → IsDateText cs → IsDateText ('%' :: (s ++ cs))

/-- A character other than a percent sign may stand in front of the text of a date pattern. -/
theorem isDateText_cons_iff {c : Char} (hc : c ≠ '%') {cs : List Char} :
    IsDateText (c :: cs) ↔ IsDateText cs := by
  constructor
  · intro h
    cases h with
    | mark _ h => exact h
    | specifier => exact absurd rfl hc
  · exact .mark hc

theorem isDateText_append_iff {run rest : List Char} (hrun : '%' ∉ run) :
    IsDateText (run ++ rest) ↔ IsDateText rest := by
  induction run with
  | nil => exact Iff.rfl
  | cons c run ih =>
    obtain ⟨hc, hrun⟩ := not_or.mp (mt List.mem_cons.mpr hrun)
    rw [List.cons_append, isDateText_cons_iff (Ne.symm hc), ih hrun]

/-- In the text of a date pattern a percent sign is followed by a specifier of a date. -/
theorem isDateText_percent_iff {cs : List Char} :
    IsDateText ('%' :: cs) ↔ ∃ s rest, IsDateSpecifier s ∧ cs = s ++ rest ∧ IsDateText rest := by
  constructor
  · intro h
    cases h with
    | mark hc => exact absurd rfl hc
    | specifier hs h => exact ⟨_, _, hs, rfl, h⟩
  · rintro ⟨s, rest, hs, rfl, h⟩
    exact .specifier hs h

/-- A letter that stands for no clock is one of the letters of dates. -/
theorem mem_dateLetters_of_simple? {c : Char} {specs : List Spec} (h : simple? c = some specs)
    (hdate : .clock ∉ specs) : c ∈ dateLetters := by
  unfold simple? at h
  split at h
  all_goals first
    | cases h
      exact absurd List.mem_cons_self hdate
    | decide
    | cases h

/-- A padded letter that stands for no clock is one of the letters of numbers. -/
theorem mem_numberLetters_of_padded? {padding : Padding} {c : Char} {specs : List Spec}
    (h : padded? padding c = some specs) (hdate : .clock ∉ specs) : c ∈ numberLetters := by
  unfold padded? at h
  split at h
  · rename_i f _ hsimple
    unfold simple? at hsimple
    split at hsimple
    all_goals first
      | decide
      | cases hsimple
  · split at h
    · cases h
      exact absurd List.mem_cons_self hdate
    · cases h
  · cases h

theorem mem_of_padding? {p : Char} {padding : Padding} (h : padding? p = some padding) :
    p ∈ ['-', '0', '_'] := by
  unfold padding? at h
  split at h
  case h_4 => cases h
  all_goals decide

/-- No clock begins like a specifier of a date. -/
theorem findSome?_longClocks {c : Char} (hc : c ∈ dateLetters ∨ c ∈ ['-', '0', '_']) (rest : List Char) :
    (longClocks.findSome? fun clock => dropPrefix? clock (c :: rest)) = none := by
  have hapart : ((dateLetters ++ ['-', '0', '_']).all fun b =>
      longClocks.all fun clock => clock.head?.any (· != b)) = true := by decide
  rw [List.findSome?_eq_none_iff]
  intro clock hclock
  have hhead := List.all_eq_true.mp (List.all_eq_true.mp hapart c (List.mem_append.mpr hc)) clock hclock
  refine Option.eq_none_iff_forall_ne_some.mpr ?_
  intro after hdrop
  cases clock with
  | nil => cases hhead
  | cons b clock =>
    obtain ⟨rfl, -⟩ := List.cons.inj (dropPrefix?_eq_some_iff.mp hdrop)
    simp at hhead

/-- A letter of a date is a specifier by itself. -/
theorem specifier?_letter {c : Char} (hc : c ∈ dateLetters) (rest : List Char) :
    specifier? (c :: rest) = (simple? c).map (·, rest) := by
  have hpadding : (dateLetters.all fun b => (padding? b).isNone) = true := by decide
  rw [specifier?.eq_def, findSome?_longClocks (.inl hc)]
  dsimp only
  rw [Option.isNone_iff_eq_none.mp (List.all_eq_true.mp hpadding c hc)]

/-- A sign for a padding makes a specifier with the letter behind it. -/
theorem specifier?_filled {p : Char} {padding : Padding} (hp : padding? p = some padding) (c : Char)
    (rest : List Char) : specifier? (p :: c :: rest) = (padded? padding c).map (·, rest) := by
  rw [specifier?.eq_def, findSome?_longClocks (.inr (mem_of_padding? hp))]
  dsimp only
  rw [hp]

/-- The specifiers of a date are those that are read as parts of a date. -/
theorem exists_specifier?_iff {cs rest : List Char} :
    (∃ specs, specifier? cs = some (specs, rest) ∧ .clock ∉ specs) ↔
      ∃ s, IsDateSpecifier s ∧ cs = s ++ rest := by
  constructor
  · rintro ⟨specs, h, hdate⟩
    unfold specifier? at h
    split at h
    -- a clock is no specifier of a date, so one of the other two forms was found
    · cases h
      exact absurd List.mem_cons_self hdate
    · split at h
      · cases h
      · split at h
        · rename_i hpadding _
          obtain ⟨_, hspecs, heq⟩ := Option.map_eq_some_iff.mp h
          cases heq
          exact ⟨_, .filled (mem_of_padding? hpadding) (mem_numberLetters_of_padded? hspecs hdate), rfl⟩
        · cases h
        · obtain ⟨_, hspecs, heq⟩ := Option.map_eq_some_iff.mp h
          cases heq
          exact ⟨_, .letter (mem_dateLetters_of_simple? hspecs hdate), rfl⟩
  · -- there are few letters, so what each of them stands for can be looked up
    have hletters : (dateLetters.all fun c =>
        (simple? c).any fun specs => !specs.contains .clock) = true := by decide
    have hnumbers : (['-', '0', '_'].all fun p => numberLetters.all fun c =>
        ((padding? p).bind (padded? · c)).any fun specs => !specs.contains .clock) = true := by
      decide
    rintro ⟨s, hs, rfl⟩
    cases hs with
    | @letter c hc =>
      obtain ⟨specs, hspecs, hdate⟩ := (Option.any_eq_true _ _).mp (List.all_eq_true.mp hletters c hc)
      refine ⟨specs, ?_, by simpa using hdate⟩
      rw [List.singleton_append, specifier?_letter hc, hspecs]
      rfl
    | @filled p c hp hc =>
      have hpairs := List.all_eq_true.mp (List.all_eq_true.mp hnumbers p hp)
      obtain ⟨specs, hspecs, hdate⟩ := (Option.any_eq_true _ _).mp (hpairs c hc)
      obtain ⟨padding, hpadding, hspecs⟩ := Option.bind_eq_some_iff.mp hspecs
      refine ⟨specs, ?_, by simpa using hdate⟩
      rw [List.cons_append, List.singleton_append, specifier?_filled hpadding, hspecs]
      rfl

/-- A text has no other parts than those of a date exactly if all its specifiers are of a date. -/
theorem exists_specs?_iff (text : List Char) :
    (∃ specs, specs? text = some specs ∧ .clock ∉ specs) ↔ IsDateText text := by
  -- a specifier and a run each leave a shorter text behind
  induction hlength : text.length using Nat.strong_induction_on generalizing text with
  | _ n ih =>
    subst hlength
    cases text with
    | nil => exact iff_of_true ⟨[], specs?_nil, List.not_mem_nil⟩ .nil
    | cons c cs =>
      by_cases hc : c = '%'
      · subst hc
        rw [isDateText_percent_iff, specs?_percent]
        constructor
        · rintro ⟨specs, h, hdate⟩
          obtain ⟨⟨first, rest⟩, hfirst, h⟩ := Option.bind_eq_some_iff.mp h
          obtain ⟨more, hmore, rfl⟩ := Option.map_eq_some_iff.mp h
          obtain ⟨hdate, hdate'⟩ := not_or.mp (mt List.mem_append.mpr hdate)
          obtain ⟨s, hs, hcs⟩ := exists_specifier?_iff.mp ⟨first, hfirst, hdate⟩
          have hshort : rest.length < ('%' :: cs).length :=
            Nat.lt_succ_of_le (length_le_of_specifier? hfirst)
          exact ⟨s, rest, hs, hcs, (ih _ hshort rest rfl).mp ⟨more, hmore, hdate'⟩⟩
        · rintro ⟨s, rest, hs, hcs, hrest⟩
          obtain ⟨first, hfirst, hdate⟩ := exists_specifier?_iff.mpr ⟨s, hs, hcs⟩
          have hshort : rest.length < ('%' :: cs).length :=
            Nat.lt_succ_of_le (length_le_of_specifier? hfirst)
          obtain ⟨more, hmore, hdate'⟩ := (ih _ hshort rest rfl).mpr hrest
          refine ⟨first ++ more, ?_, ?_⟩
          · rw [hfirst]
            change (specs? rest).map (first ++ ·) = _
            rw [hmore]
            rfl
          · rw [List.mem_append]
            exact not_or.mpr ⟨hdate, hdate'⟩
      · obtain ⟨run, rest, item, rfl, hrun, hspecs⟩ := specs?_of_ne_percent cs hc
        have hrun' : '%' ∉ c :: run := by
          rw [List.mem_cons]
          exact not_or.mpr ⟨Ne.symm hc, hrun⟩
        have hshort : rest.length < (c :: (run ++ rest)).length := by
          rw [List.length_cons, List.length_append]
          omega
        rw [← List.cons_append, isDateText_append_iff hrun', ← ih _ hshort rest rfl,
          List.cons_append, hspecs]
        simp

/-! ## Writing along a text -/

/-- Where there is no clock all parts are items. -/
theorem exists_items_of_not_mem {specs : List Spec} (h : .clock ∉ specs) :
    ∃ items : List Item, specs = items.map .item := by
  induction specs with
  | nil => exact ⟨[], rfl⟩
  | cons s specs ih =>
    obtain ⟨hs, hspecs⟩ := not_or.mp (mt List.mem_cons.mpr h)
    obtain ⟨items, rfl⟩ := ih hspecs
    cases s with
    | item i => exact ⟨i :: items, rfl⟩
    | clock => exact absurd rfl hs

/-- A part that needs more than a date is written for none. -/
theorem mapM_render?_clock (d : Date) {specs : List Spec} (h : .clock ∈ specs) :
    specs.mapM (Spec.render? d) = none := by
  induction specs with
  | nil => cases h
  | cons s specs ih =>
    rw [List.mapM_cons]
    rcases List.mem_cons.mp h with rfl | h
    · rfl
    · rw [ih h]
      cases s.render? d <;> rfl

/-- A date can be written along a text exactly if all specifiers of the text are of a date, whatever the
date. -/
theorem isSome_write?_iff (d : Date) (text : List Char) : (write? d text).isSome ↔ IsDateText text := by
  rw [← exists_specs?_iff]
  constructor
  · intro h
    obtain ⟨written, hwritten⟩ := Option.isSome_iff_exists.mp h
    obtain ⟨specs, hspecs, hwritten⟩ := Option.bind_eq_some_iff.mp hwritten
    obtain ⟨texts, htexts, -⟩ := Option.bind_eq_some_iff.mp hwritten
    refine ⟨specs, hspecs, ?_⟩
    intro hclock
    cases (mapM_render?_clock d hclock).symm.trans htexts
  · rintro ⟨specs, hspecs, hdate⟩
    obtain ⟨items, rfl⟩ := exists_items_of_not_mem hdate
    rw [write?_of_specs? hspecs]
    rfl

end Pattern

end Calendar

/-! ## Accepted patterns -/

namespace DatePattern

/-- Every specifier of an accepted pattern is one of a date, so a date is always written along its text: no
part of it can be missing, whatever the date. -/
theorem format_of_ofText {text : String} {p : DatePattern} (hp : ofText text = .ok p) :
    Pattern.IsDateText text.toList ∧
    Pattern.specs? text.toList = some (p.items.map .item) ∧
    ∀ d : Date, Pattern.write? d text.toList = some (p.format d).toList := by
  obtain ⟨-, hspecs, -, -⟩ := ofText_eq_ok_iff.mp hp
  have hwrite (d : Date) : Pattern.write? d text.toList = some (p.format d).toList := by
    rw [Pattern.write?_of_specs? hspecs, format_eq, String.toList_ofList]
  refine ⟨(Pattern.isSome_write?_iff sample _).mp ?_, hspecs, hwrite⟩
  rw [hwrite]
  rfl

/-- The last date is written by its week, although the year of that week is after all years of dates. -/
theorem format_of_ofText_weekDate :
    ∃ p, ofText "%G-W%V-%u" = .ok p ∧ p.format .last = "+262143-W01-1" ∧
      Pattern.write? .last "%G-W%V-%u".toList = some (p.format .last).toList := by
  have hp : ofText "%G-W%V-%u" = .ok ⟨"%G-W%V-%u", [.number .weekYear .zero, .literal ['-', 'W'],
      .number .week .zero, .literal ['-'], .number .dayOfWeek .none], by decide⟩ := by
    decide
  exact ⟨_, hp, by decide, (format_of_ofText hp).2.2 .last⟩

end DatePattern

end Overdue
