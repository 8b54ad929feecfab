/-
Dates in line comments.

A marker takes for its date what stands between white space, so not every text that is a date can be written
in one. The main statement says which of the dates that a pattern writes can: those without white space, save
at the ends. Of any other date only the first run is read, and it is no date because something is missing.
-/
import Overdue.Proofs.Calendar.FirstRun
import Overdue.Proofs.Marker.Grammar

set_option autoImplicit false

namespace Overdue.Marker

open Overdue.Calendar Overdue.Text

/-! ## Line comments with a marker -/

/-- A marker up to the place of its first date. -/
def opening : List Char := ['T', 'O', 'D', 'O', ':', ' ', 's', 't', 'a', 'l', 'e', ':']

/-- A line comment with a marker, of which all after `stale:` is given. -/
def lineOf (rest : String) : String := "// TODO: stale:" ++ rest

/-- A line is two slashes and its opening, and then what it was made for. -/
theorem toList_lineOf (rest : String) :
    (lineOf rest).toList = '/' :: '/' :: ' ' :: (opening ++ rest.toList) := by
  unfold lineOf
  refine String.toList_append.trans ?_
  rfl

/-- The opening is the head of a marker without a tag. -/
theorem hasHead_opening (rest : List Char) : HasHead (opening ++ rest) .todo none (trimStart rest) := by
  obtain ⟨blanks, hrest, hblanks, -⟩ := trimStart_eq_iff.mp (rfl : trimStart rest = trimStart rest)
  refine ⟨['T', 'O', 'D', 'O'], [], [' '], ['s', 't', 'a', 'l', 'e', ':'], blanks, ?_, by decide, nofun,
    isBlank_nil, ?_, by decide, hblanks⟩
  · rw [← hrest]
    rfl
  · intro c hc
    rw [List.mem_singleton.mp hc]
    decide

/-- No marker starts in the marks of the comment, so the first one is the one that is written. -/
theorem shapeFrom?_line {rest : List Char} {s : Shape} (h : HasParts (opening ++ rest) s) :
    shapeFrom? false ('/' :: '/' :: ' ' :: (opening ++ rest)) = some s := by
  have hmarks : shapeFrom? false ('/' :: '/' :: ' ' :: (opening ++ rest)) =
      shapeFrom? false (opening ++ rest) := rfl
  rw [hmarks]
  exact shapeFrom?_of_start (shapeAt?_eq_some_iff.mpr h)

/-- What closes a block stands at the end of a line only if it stands at the end of what is written after
`stale:`, as there is no asterisk before that. -/
theorem isSuffix_of_line {rest : List Char}
    (h : ['*', '/'] <:+ '/' :: '/' :: ' ' :: (opening ++ rest)) : ['*', '/'] <:+ rest := by
  obtain ⟨front, hfront⟩ := h
  have hcut : front ++ ['*', '/'] = ('/' :: '/' :: ' ' :: opening) ++ rest := hfront
  rcases List.append_eq_append_iff.mp hcut with ⟨more, hopening, hmark⟩ | ⟨more, -, hrest⟩
  · -- the mark would begin before the rest
    have hmem : ∀ c ∈ more, c ∈ '/' :: '/' :: ' ' :: opening := by
      intro c hc
      rw [hopening]
      exact List.mem_append_right _ hc
    cases more with
    | nil => exact ⟨[], hmark⟩
    | cons c more =>
      obtain ⟨rfl, -⟩ := List.cons.inj hmark
      exact absurd (hmem '*' List.mem_cons_self) (by decide)
  · exact ⟨more, hrest.symm⟩

/-- A line comment ends where what is written after `stale:` ends. -/
theorem body_line {rest : String} (hne : rest.toList ≠ []) (hend : EndsSolid rest.toList)
    (hopen : ¬ ['*', '/'] <:+ rest.toList) : body (lineOf rest).toList = (lineOf rest).toList := by
  symm
  rw [← isBody_iff, toList_lineOf]
  refine ⟨[], isBlank_nil, .inr ⟨(List.append_nil _).symm, ?_, fun h => hopen (isSuffix_of_line h)⟩⟩
  change EndsSolid (('/' :: '/' :: ' ' :: opening) ++ rest.toList)
  exact endsSolid_append hend hne

/-- The date of a line comment is the first run after `stale:`. -/
theorem shape?_line {rest : String} {token more : List Char}
    (htoken : HasToken (trimStart rest.toList) token more) (hend : EndsSolid rest.toList)
    (hopen : ¬ ['*', '/'] <:+ rest.toList) :
    shape? (lineOf rest).toList = some ⟨.todo, none, token, (expires? more).map Prod.fst,
      messageOf ((expires? more).elim more Prod.snd)⟩ := by
  have hne : rest.toList ≠ [] := by
    intro hnil
    rw [hnil] at htoken
    exact htoken.2.1 (List.append_eq_nil_iff.mp htoken.1.symm).1
  rw [shape?, body_line hne hend hopen, toList_lineOf]
  exact shapeFrom?_line (hasParts_of_hasToken (hasHead_opening _) htoken)

/-! ## Dates in front of a message -/

/-- The first run of characters in a text that are not white space. -/
def firstRun (cs : List Char) : List Char := (trimStart cs).takeWhile (!isSpace ·)

section Runs

variable {cs token more tail : List Char}

/-- The first run of a text is its token. -/
theorem HasToken.firstRun_eq (h : HasToken (trimStart cs) token more) : firstRun cs = token := by
  obtain ⟨hcs, -, hsolid, hmore⟩ := h
  have hcut : splitWhile (!isSpace ·) (token ++ more) = (token, more) := by
    refine splitWhile_append ?_ ?_
    · intro c hc
      simp [hsolid c hc]
    · intro c hc
      simp [hmore c hc]
  rw [firstRun, hcs]
  exact congrArg Prod.fst hcut

/-- A text that is not blank has a token. -/
theorem exists_hasToken_of_not_isBlank (h : ¬ IsBlank cs) :
    ∃ token more, HasToken (trimStart cs) token more := by
  obtain ⟨blanks, hcs, hblanks, hsolid⟩ := trimStart_eq_iff.mp (rfl : trimStart cs = trimStart cs)
  cases htrim : trimStart cs with
  | nil => exact absurd (List.dropWhile_eq_nil_iff.mp htrim) h
  | cons c rest =>
    rw [htrim] at hsolid
    exact exists_hasToken rest (hsolid c rfl)

/-- White space ends a token as the end of the text does. -/
theorem HasToken.append (h : HasToken (trimStart cs) token more) (htail : StartsBlank tail) :
    HasToken (trimStart (cs ++ tail)) token (more ++ tail) := by
  obtain ⟨hcs, hne, hsolid, hmore⟩ := h
  obtain ⟨blanks, rfl, hblanks, -⟩ := trimStart_eq_iff.mp hcs
  refine ⟨?_, hne, hsolid, ?_⟩
  · rw [List.append_assoc, List.append_assoc, trimStart_blanks_append hblanks,
      trimStart_run_append hne hsolid]
  · cases more with
    | nil => exact htail
    | cons c more => exact hmore

/-- A text has no white space but at its ends exactly if only white space follows its first run. -/
theorem HasToken.isSolid_trim_iff (h : HasToken (trimStart cs) token more) :
    IsSolid (trim cs) ↔ IsBlank more := by
  obtain ⟨hcs, hne, hsolid, hmore⟩ := h
  rw [trim, hcs]
  constructor
  · intro htrim
    obtain ⟨blanks, hcut, hblanks, -⟩ := trimEnd_eq_iff.mp (rfl : trimEnd (token ++ more) = _)
    obtain ⟨between, htrimmed, rfl⟩ :=
      exists_of_append_eq_run (startsBlank_of_isBlank hblanks) hsolid hcut.symm
    rw [htrimmed] at htrim
    -- what follows the token starts with white space, and there is none in the trimmed text
    cases between with
    | nil => exact hblanks
    | cons c between =>
      have hc := htrim c (by simp)
      rw [hmore c rfl] at hc
      cases hc
  · intro hblank
    rw [trimEnd_eq_iff.mpr ⟨more, rfl, hblank, endsSolid_of_isSolid hsolid⟩]
    exact hsolid

/-- One letter after white space is a message, and no clause. -/
theorem expires?_letter (h : trimStart cs = ['x']) : expires? cs = none := by
  by_contra hsome
  obtain ⟨⟨token, rest⟩, hread⟩ := Option.ne_none_iff_exists'.mp hsome
  obtain ⟨blanks, expires, _, _, rfl, -, hblanks, hspells, -⟩ := expires?_eq_some_iff.mp hread
  rw [trimStart_append hblanks (startsSolid_spelled hspells (by decide))] at h
  -- the word of a clause is longer than the letter
  have hword : expires.length = 8 := by rw [← List.length_map, hspells]; rfl
  have hlength := congrArg List.length h
  simp only [List.length_append, List.length_singleton] at hlength
  omega

end Runs

/-- A line with a date in front of the message `x`. -/
def lineWith (date : String) : String := lineOf (date ++ " x")

/-- The shape of a line with a date: the token where the date is, and what comes behind it. -/
theorem shape?_lineWith {date : String} {token more : List Char}
    (htoken : HasToken (trimStart date.toList) token more) :
    shape? (lineWith date).toList = some ⟨.todo, none, token, (expires? (more ++ [' ', 'x'])).map Prod.fst,
      messageOf ((expires? (more ++ [' ', 'x'])).elim (more ++ [' ', 'x']) Prod.snd)⟩ := by
  have htext : (date ++ " x").toList = date.toList ++ [' ', 'x'] := String.toList_append
  have htail : StartsBlank [' ', 'x'] := by
    rintro _ ⟨⟩
    decide
  have hlast : ((date ++ " x").toList).getLast? = some 'x' := by
    rw [htext]
    simp
  refine shape?_line (htext ▸ htoken.append htail) ?_ ?_
  · intro c hc
    rw [hlast] at hc
    cases hc
    decide
  · rintro ⟨front, hfront⟩
    rw [← hfront] at hlast
    simp at hlast

/-- **Dates in markers.** A date that an accepted pattern writes and reads back is the date of a marker if it is
written without white space, save at the ends. Otherwise its first run is taken for the date, and that is none. -/
theorem parse_lineWith_format {text : String} {p : DatePattern} (hp : DatePattern.ofText text = .ok p)
    {d : Date} (hd : p.parse (p.format d) = .ok d) :
    (IsSolid (trim (p.format d).toList) →
      parse p (lineWith (p.format d)) = .ok (some ⟨.todo, none, d, none, "x"⟩)) ∧
    (¬ IsSolid (trim (p.format d).toList) →
      parse p (lineWith (p.format d)) = .error ⟨String.ofList (firstRun (p.format d).toList), p.text⟩) := by
  have hitems := DatePattern.isWhole_of_ofText hp
  have hread := DatePattern.parse_eq_ok_iff.mp hd
  obtain ⟨token, more, htoken⟩ :=
    exists_hasToken_of_not_isBlank (not_isBlank_of_readDate hitems hread)
  have ⟨hcs, _, hsolid, hmore⟩ := htoken
  -- the first run is the date that was written if nothing else follows, and no date otherwise
  have hrun (e : Date) : p.parse (String.ofList token) = .ok e ↔ IsBlank more ∧ e = d := by
    rw [DatePattern.parse_eq_ok_iff, String.toList_ofList]
    exact readDate_run_iff hitems hread hsolid hmore hcs e
  rw [parse_of_shape? (shape?_lineWith htoken), htoken.isSolid_trim_iff]
  constructor
  · intro hblank
    have hletter : trimStart (more ++ [' ', 'x']) = ['x'] := by
      rw [trimStart_blanks_append hblank]
      rfl
    have hmessage : messageOf (more ++ [' ', 'x']) = ['x'] := by
      rw [messageOf, hletter]
      rfl
    rw [expires?_letter hletter, Option.elim_none, hmessage,
      ofShape_of_isMadeOf (m := ⟨.todo, none, d, none, "x"⟩)]
    · rfl
    · exact ⟨rfl, rfl, (hrun d).mpr ⟨hblank, rfl⟩, .none, rfl⟩
  · intro hbroken
    rw [htoken.firstRun_eq, ofShape_of_not_isDated]
    · rfl
    · rintro ⟨e, he⟩
      exact hbroken ((hrun e).mp he).1

/-- A pattern that fills the day with a blank, and ends with the end of a line. -/
def enclosed : DatePattern where
  text := "%e-%b-%Y%n"
  items := [.number .day .space, .literal ['-'], .name .month false, .literal ['-'], .number .year .zero,
    .space ['\n']]
  specs_text := by decide

/-- A pattern with words between white space. -/
def spaced : DatePattern where
  text := "%d %B %Y"
  items := [.number .day .zero, .space [' '], .name .month true, .space [' '], .number .year .zero]
  specs_text := by decide

/-- White space at the ends of a date does no harm; of one with white space between its words the day is taken
for the date. -/
theorem parse_lineWith_format_blanks :
    DatePattern.ofText "%e-%b-%Y%n" = .ok enclosed ∧
    parse enclosed (lineWith (enclosed.format ⟨2031, 11, 5, by decide⟩)) =
      .ok (some ⟨.todo, none, ⟨2031, 11, 5, by decide⟩, none, "x"⟩) ∧
    DatePattern.ofText "%d %B %Y" = .ok spaced ∧
    parse spaced (lineWith (spaced.format ⟨2031, 11, 25, by decide⟩)) = .error ⟨"25", "%d %B %Y"⟩ := by
  have henclosed : DatePattern.ofText "%e-%b-%Y%n" = .ok enclosed := by decide
  have hspaced : DatePattern.ofText "%d %B %Y" = .ok spaced := by decide
  have hrun : String.ofList (firstRun (spaced.format ⟨2031, 11, 25, by decide⟩).toList) = "25" := by
    decide
  refine ⟨henclosed, ?_, hspaced, ?_⟩
  · exact (parse_lineWith_format henclosed (by decide)).1 (by decide)
  · rw [← hrun]
    exact (parse_lineWith_format hspaced (by decide)).2 (by decide)

/-- Not every date that an accepted pattern writes and reads back can be written in a marker. -/
theorem not_forall_parse_lineWith_format :
    ¬ ∀ (text : String) (p : DatePattern) (d : Date), DatePattern.ofText text = .ok p →
      p.parse (p.format d) = .ok d →
      ∃ m, parse p (lineWith (p.format d)) = .ok (some m) ∧ m.warnDate = d ∧ m.message = "x" := by
  intro h
  have hspaced : DatePattern.ofText "%d %B %Y" = .ok spaced := by decide
  obtain ⟨m, hparse, -⟩ := h _ _ ⟨2031, 11, 25, by decide⟩ hspaced (by decide)
  have herror : parse spaced (lineWith (spaced.format ⟨2031, 11, 25, by decide⟩)) =
      .error ⟨"25", "%d %B %Y"⟩ := by decide
  rw [herror] at hparse
  cases hparse

end Overdue.Marker
