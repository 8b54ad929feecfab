/-
Runs of white space and of other characters, and words without regard to case.

The readers of markers cut a text by taking the longest run of one kind of character. A run is the longest
one exactly when the text after it does not go on with the same kind, so each cut is described here by an
equation `text = run ++ rest` with a condition on the characters of the run and one on the first character
of the rest. Both directions are needed later: that the readers find such a cut, and that any such cut is
the one they find.
-/
import Overdue.Marker.Shape
import Mathlib.Data.List.TakeWhile

set_option autoImplicit false

namespace Overdue.Text

/-! ## Blank and solid texts -/

/-- A text that consists of white space. -/
def IsBlank (cs : List Char) : Prop := ∀ c ∈ cs, isSpace c = true

/-- A text without white space. -/
def IsSolid (cs : List Char) : Prop := ∀ c ∈ cs, isSpace c = false

/-- A text that does not go on with white space. -/
def StartsSolid (cs : List Char) : Prop := ∀ c ∈ cs.head?, isSpace c = false

/-- A text that does not go on with anything but white space. -/
def StartsBlank (cs : List Char) : Prop := ∀ c ∈ cs.head?, isSpace c = true

/-- A text that does not end with white space. -/
def EndsSolid (cs : List Char) : Prop := ∀ c ∈ cs.getLast?, isSpace c = false

/-- A text is the word in lower case, whatever the case of its letters. -/
def Spells (cs word : List Char) : Prop := cs.map foldCase = word

instance (cs : List Char) : Decidable (IsBlank cs) :=
  decidable_of_iff (cs.all isSpace = true) List.all_eq_true

instance (cs : List Char) : Decidable (IsSolid cs) :=
  decidable_of_iff (cs.all (!isSpace ·) = true) (by simp [IsSolid])

instance (cs word : List Char) : Decidable (Spells cs word) :=
  inferInstanceAs (Decidable (cs.map foldCase = word))

/-- White space is what lies in one of the ranges. -/
theorem isSpace_iff {c : Char} :
    isSpace c = true ↔ ∃ r ∈ spaceRanges, r.1 ≤ c.toNat ∧ c.toNat ≤ r.2 := by
  simp [isSpace, inRanges]

theorem isBlank_nil : IsBlank [] := by
  intro c hc
  cases hc

theorem startsSolid_of_isSolid {cs : List Char} (h : IsSolid cs) : StartsSolid cs := by
  intro c hc
  exact h c (List.mem_of_mem_head? hc)

theorem startsBlank_of_isBlank {cs : List Char} (h : IsBlank cs) : StartsBlank cs := by
  intro c hc
  exact h c (List.mem_of_mem_head? hc)

theorem startsSolid_append {cs ds : List Char} (h : StartsSolid cs) (hne : cs ≠ []) :
    StartsSolid (cs ++ ds) := by
  intro c hc
  rw [List.head?_append, Option.or_of_isSome (List.isSome_head?.mpr hne)] at hc
  exact h c hc

theorem endsSolid_of_isSolid {cs : List Char} (h : IsSolid cs) : EndsSolid cs := by
  intro c hc
  exact h c (List.mem_of_getLast? hc)

/-- A text that is not empty ends as it does, whatever comes before it. -/
theorem endsSolid_append {cs ds : List Char} (h : EndsSolid ds) (hne : ds ≠ []) :
    EndsSolid (cs ++ ds) := by
  intro c hc
  rw [List.getLast?_append, Option.or_of_isSome (List.getLast?_isSome.mpr hne)] at hc
  exact h c hc

/-! ## Longest runs -/

/-- A run that the rest does not continue is the one that `splitWhile` cuts off. -/
theorem splitWhile_append {α : Type} {p : α → Bool} {run rest : List α} (hrun : ∀ c ∈ run, p c = true)
    (hrest : ∀ c ∈ rest.head?, p c = false) : splitWhile p (run ++ rest) = (run, rest) := by
  -- nothing is taken from the rest, since its first character does not belong to the run
  have htake : rest.takeWhile p = [] ∧ rest.dropWhile p = rest := by
    cases rest with
    | nil => exact ⟨rfl, rfl⟩
    | cons c cs =>
      have hc : ¬ p c = true := by rw [hrest c rfl]; exact Bool.false_ne_true
      exact ⟨List.takeWhile_cons_of_neg hc, List.dropWhile_cons_of_neg hc⟩
  rw [splitWhile, List.takeWhile_append_of_pos hrun, List.dropWhile_append_of_pos hrun,
    htake.1, htake.2, List.append_nil]

/-- What `splitWhile` cuts off is a run that the rest does not continue. -/
theorem splitWhile_eq_iff {α : Type} {p : α → Bool} {cs run rest : List α} :
    splitWhile p cs = (run, rest) ↔
      cs = run ++ rest ∧ (∀ c ∈ run, p c = true) ∧ ∀ c ∈ rest.head?, p c = false := by
  constructor
  · intro h
    obtain ⟨rfl, rfl⟩ := Prod.mk.inj h
    refine ⟨List.takeWhile_append_dropWhile.symm, fun c hc => List.mem_takeWhile_imp hc, ?_⟩
    intro c hc
    have hnot := List.head?_dropWhile_not p cs
    rw [Option.mem_def.mp hc] at hnot
    simpa using hnot
  · rintro ⟨rfl, hrun, hrest⟩
    exact splitWhile_append hrun hrest

/-- Trimming at the start takes away the white space and nothing else. -/
theorem trimStart_eq_iff {cs rest : List Char} :
    trimStart cs = rest ↔ ∃ blanks, cs = blanks ++ rest ∧ IsBlank blanks ∧ StartsSolid rest := by
  have hsplit : ∀ run, splitWhile isSpace cs = (run, rest) ↔
      cs.takeWhile isSpace = run ∧ trimStart cs = rest := by
    intro run
    exact Prod.mk.injEq .. ▸ Iff.rfl
  constructor
  · intro h
    have hcut := (hsplit (cs.takeWhile isSpace)).mpr ⟨rfl, h⟩
    exact ⟨_, splitWhile_eq_iff.mp hcut⟩
  · rintro ⟨blanks, hcs, hblank, hsolid⟩
    exact ((hsplit blanks).mp (splitWhile_eq_iff.mpr ⟨hcs, hblank, hsolid⟩)).2

/-- Blanks before something solid are taken away. -/
theorem trimStart_append {blanks rest : List Char} (hblank : IsBlank blanks)
    (hsolid : StartsSolid rest) : trimStart (blanks ++ rest) = rest :=
  trimStart_eq_iff.mpr ⟨blanks, rfl, hblank, hsolid⟩

theorem trimStart_eq_self {cs : List Char} (h : StartsSolid cs) : trimStart cs = cs :=
  trimStart_append isBlank_nil h

/-- White space is taken away only once. -/
theorem trimStart_trimStart (cs : List Char) : trimStart (trimStart cs) = trimStart cs := by
  obtain ⟨_, _, _, hsolid⟩ := trimStart_eq_iff.mp (show trimStart cs = trimStart cs from rfl)
  exact trimStart_eq_self hsolid

/-- Blanks in front of a text make no difference to what is left. -/
theorem trimStart_blanks_append {blanks rest : List Char} (h : IsBlank blanks) :
    trimStart (blanks ++ rest) = trimStart rest := by
  rw [trimStart, List.dropWhile_append_of_pos h]
  rfl

/-- Nothing is taken away in front of a run. -/
theorem trimStart_run_append {run : List Char} (hne : run ≠ []) (hrun : IsSolid run) (rest : List Char) :
    trimStart (run ++ rest) = run ++ rest :=
  trimStart_eq_self (startsSolid_append (startsSolid_of_isSolid hrun) hne)

/-- A run in a text that goes on with white space ends before that. -/
theorem exists_of_append_eq_run {cs more run rest : List Char} (hmore : StartsBlank more)
    (hrun : IsSolid run) (h : cs ++ more = run ++ rest) :
    ∃ cs', cs = run ++ cs' ∧ rest = cs' ++ more := by
  rcases List.append_eq_append_iff.mp h with ⟨beyond, hbeyond, hrest⟩ | ⟨cs', hcs, hrest⟩
  · cases beyond with
    | nil => exact ⟨[], by simpa using hbeyond.symm, by simpa using hrest.symm⟩
    | cons c beyond =>
      -- the run would go on into the white space
      have hblank := hmore c (by simp [hrest])
      have hsolid := hrun c (by simp [hbeyond])
      simp [hblank] at hsolid
  · exact ⟨cs', hcs, hrest⟩

/-- Trimming at the end takes away the white space and nothing else. -/
theorem trimEnd_eq_iff {cs rest : List Char} :
    trimEnd cs = rest ↔ ∃ blanks, cs = rest ++ blanks ∧ IsBlank blanks ∧ EndsSolid rest := by
  -- the end of a text is the start of the text read backwards
  have hreverse : trimEnd cs = rest ↔ trimStart cs.reverse = rest.reverse := by
    rw [trimEnd, trimStart, List.reverse_eq_iff]
  rw [hreverse, trimStart_eq_iff]
  constructor
  · rintro ⟨blanks, hcs, hblank, hsolid⟩
    refine ⟨blanks.reverse, ?_, ?_, ?_⟩
    · rw [← List.reverse_reverse cs, hcs, List.reverse_append, List.reverse_reverse]
    · intro c hc
      exact hblank c (List.mem_reverse.mp hc)
    · intro c hc
      rw [List.getLast?_eq_head?_reverse] at hc
      exact hsolid c hc
  · rintro ⟨blanks, rfl, hblank, hsolid⟩
    refine ⟨blanks.reverse, List.reverse_append, ?_, ?_⟩
    · intro c hc
      exact hblank c (List.mem_reverse.mp hc)
    · intro c hc
      rw [← List.getLast?_eq_head?_reverse] at hc
      exact hsolid c hc

/-! ## Words -/

/-- A word is dropped exactly from a text that starts with a spelling of it. -/
theorem dropWord?_eq_some_iff {word cs rest : List Char} :
    dropWord? word cs = some rest ↔ ∃ spelled, cs = spelled ++ rest ∧ Spells spelled word := by
  induction word generalizing cs with
  | nil =>
    rw [dropWord?]
    constructor
    · intro h
      exact ⟨[], by rw [Option.some.inj h, List.nil_append], rfl⟩
    · rintro ⟨spelled, rfl, hspells⟩
      rw [List.map_eq_nil_iff.mp hspells, List.nil_append]
  | cons w ws ih =>
    -- character by character, with the case folded
    cases cs with
    | nil =>
      rw [dropWord?]
      constructor
      · intro h
        cases h
      · rintro ⟨spelled, hcs, hspells⟩
        rw [(List.append_eq_nil_iff.mp hcs.symm).1] at hspells
        cases hspells
    | cons c cs =>
      rw [dropWord?]
      constructor
      · intro h
        by_cases hc : foldCase c = w
        · rw [if_pos hc] at h
          obtain ⟨spelled, rfl, hspells⟩ := ih.mp h
          refine ⟨c :: spelled, rfl, ?_⟩
          rw [Spells, List.map_cons, hc, hspells]
        · rw [if_neg hc] at h
          cases h
      · rintro ⟨spelled, hcs, hspells⟩
        cases spelled with
        | nil => cases hspells
        | cons d ds =>
          rw [List.cons_append] at hcs
          obtain ⟨rfl, rfl⟩ := List.cons.inj hcs
          obtain ⟨hfold, hrest⟩ := List.cons.inj hspells
          rw [if_pos hfold]
          exact ih.mpr ⟨ds, rfl, hrest⟩

/-- A word is dropped where it is spelled. -/
theorem dropWord?_append {word spelled rest : List Char} (h : Spells spelled word) :
    dropWord? word (spelled ++ rest) = some rest :=
  dropWord?_eq_some_iff.mpr ⟨spelled, rfl, h⟩

/-- A start is dropped exactly from a text that has it. -/
theorem dropPrefix?_eq_some_iff {start cs rest : List Char} :
    dropPrefix? start cs = some rest ↔ cs = start ++ rest := by
  induction start generalizing cs with
  | nil => simp [dropPrefix?, eq_comm]
  | cons p ps ih =>
    cases cs with
    | nil => simp [dropPrefix?]
    | cons c cs =>
      rw [dropPrefix?]
      split
      · rename_i heq
        rw [ih, heq, List.cons_append, List.cons.injEq, and_iff_right rfl]
      · rename_i hne
        refine iff_of_false nofun ?_
        intro h
        exact hne (List.cons.inj h).1.symm

/-- A text from which a word is dropped starts with a spelling of its first letter. -/
theorem head?_of_dropWord? {w : Char} {ws cs rest : List Char}
    (h : dropWord? (w :: ws) cs = some rest) : cs.head?.map foldCase = some w := by
  obtain ⟨spelled, rfl, hspells⟩ := dropWord?_eq_some_iff.mp h
  cases spelled with
  | nil => cases hspells
  | cons c cs => exact congrArg some (List.cons.inj hspells).1

/-- White space is no letter. -/
theorem toLower_of_isSpace {c : Char} (h : isSpace c = true) : c.toLower = c := by
  have hcapital : ¬ (65 ≤ c.toNat ∧ c.toNat ≤ 90) := by
    obtain ⟨r, hr, hlow, hhigh⟩ := isSpace_iff.mp h
    -- no range of white space reaches into the capital letters
    have hoff : ∀ r ∈ spaceRanges, r.2 < 65 ∨ 90 < r.1 := by decide
    have := hoff r hr
    omega
  unfold Char.toLower
  exact dif_neg fun hletter => hcapital ⟨hletter.1, hletter.2⟩

/-- White space is not folded onto a letter either. -/
theorem foldCase_of_isSpace {c : Char} (h : isSpace c = true) : foldCase c = c := by
  have hne : ∀ d : Char, isSpace d = false → c ≠ d := by
    rintro d hd rfl
    rw [h] at hd
    cases hd
  rw [foldCase, if_neg (hne _ (by decide)), if_neg (hne _ (by decide)), toLower_of_isSpace h]

/-- A spelling of a word that does not start with white space does not start with it either. -/
theorem startsSolid_spelled {spelled rest ws : List Char} {w : Char}
    (h : Spells spelled (w :: ws)) (hw : isSpace w = false) : StartsSolid (spelled ++ rest) := by
  cases spelled with
  | nil => cases h
  | cons c cs =>
    obtain ⟨hfold, -⟩ := List.cons.inj h
    intro d hd
    obtain rfl : c = d := Option.some.inj hd
    -- white space is folded onto itself, so the word would start with it too
    by_contra hspace
    rw [Bool.not_eq_false] at hspace
    rw [foldCase_of_isSpace hspace] at hfold
    rw [hfold, hw] at hspace
    cases hspace

/-- A character that folds onto a basic letter can stand inside a word. -/
theorem isWord_of_isLower_foldCase {c : Char} (h : (foldCase c).isLower = true) :
    isWord c = true := by
  -- two characters outside the basic ones fold onto letters, and both are letters themselves
  by_cases hlong : c = '\u017f'
  · rw [hlong]
    decide
  by_cases hkelvin : c = '\u212a'
  · rw [hkelvin]
    decide +kernel
  have halpha : c.isAlpha = true := by
    rw [foldCase, if_neg hlong, if_neg hkelvin] at h
    unfold Char.toLower at h
    unfold Char.isAlpha
    rw [Bool.or_eq_true]
    split at h
    · rename_i hcapital
      left
      unfold Char.isUpper
      simpa using hcapital
    · exact .inr h
  have hbasic : c.toNat < 128 := by
    unfold Char.isAlpha Char.isUpper Char.isLower at halpha
    simp [UInt32.le_iff_toNat_le] at halpha
    omega
  rw [isWord, if_pos hbasic, Char.isAlphanum, halpha]
  rfl

/-! ## Trimmed texts -/

/-- A text stays as it is if it begins and ends with something solid. -/
theorem trim_eq_self_iff {cs : List Char} : trim cs = cs ↔ StartsSolid cs ∧ EndsSolid cs := by
  constructor
  · intro h
    obtain ⟨blanks₁, hstart, -, hsolid₁⟩ := trimStart_eq_iff.mp (rfl : trimStart cs = trimStart cs)
    obtain ⟨blanks₂, hend, -, hsolid₂⟩ := trimEnd_eq_iff.mp h
    -- what was taken away at both ends has no length, so nothing was
    have hlength : (blanks₁ ++ (cs ++ blanks₂)).length = cs.length := by rw [← hend, ← hstart]
    simp only [List.length_append] at hlength
    have hnil₂ : blanks₂ = [] := List.eq_nil_of_length_eq_zero (by omega)
    rw [hnil₂, List.append_nil] at hend
    exact ⟨hend ▸ hsolid₁, hsolid₂⟩
  · rintro ⟨hstart, hend⟩
    rw [trim, trimStart_eq_self hstart]
    exact trimEnd_eq_iff.mpr ⟨[], (List.append_nil cs).symm, isBlank_nil, hend⟩

/-- Trimming takes away white space from both ends and nothing else. -/
theorem exists_trim (cs : List Char) :
    ∃ before after, cs = before ++ trim cs ++ after ∧ IsBlank before ∧ IsBlank after ∧
      trim (trim cs) = trim cs := by
  obtain ⟨before, hcs, hbefore, hsolid⟩ := trimStart_eq_iff.mp (rfl : trimStart cs = trimStart cs)
  obtain ⟨after, hstart, hafter, hend⟩ :=
    trimEnd_eq_iff.mp (show trimEnd (trimStart cs) = trim cs from rfl)
  refine ⟨before, after, ?_, hbefore, hafter, trim_eq_self_iff.mpr ⟨?_, hend⟩⟩
  · rw [List.append_assoc, ← hstart]
    exact hcs
  · intro c hc
    refine hsolid c ?_
    rw [hstart, Option.mem_def, List.head?_append, Option.mem_def.mp hc, Option.some_or]

/-- Nothing is left of white space alone. -/
theorem trim_eq_nil_iff {cs : List Char} : trim cs = [] ↔ IsBlank cs := by
  constructor
  · intro h
    obtain ⟨before, after, hcs, hbefore, hafter, -⟩ := exists_trim cs
    rw [h, List.append_nil] at hcs
    rw [hcs]
    intro c hc
    rcases List.mem_append.mp hc with hc | hc
    · exact hbefore c hc
    · exact hafter c hc
  · intro h
    have hstart : trimStart cs = [] := List.dropWhile_eq_nil_iff.mpr h
    rw [trim, hstart]
    rfl

/-- White space around a run is trimmed, and the run is not. -/
theorem trim_padded {run before after : List Char} (hne : run ≠ []) (hrun : IsSolid run)
    (hbefore : IsBlank before) (hafter : IsBlank after) : trim (before ++ run ++ after) = run := by
  rw [trim, List.append_assoc, trimStart_blanks_append hbefore, trimStart_run_append hne hrun]
  exact trimEnd_eq_iff.mpr ⟨after, rfl, hafter, endsSolid_of_isSolid hrun⟩

/-- Blanks behind a text are taken away. -/
theorem trim_append_blanks {cs blanks : List Char} (hcs : trim cs = cs) (hne : cs ≠ [])
    (hblank : IsBlank blanks) : trim (cs ++ blanks) = cs := by
  obtain ⟨hstart, hend⟩ := trim_eq_self_iff.mp hcs
  rw [trim, trimStart_eq_self (startsSolid_append hstart hne)]
  exact trimEnd_eq_iff.mpr ⟨blanks, rfl, hblank, hend⟩

end Overdue.Text
