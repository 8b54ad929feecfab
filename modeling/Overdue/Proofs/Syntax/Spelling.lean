/-
How marks are spelled.

A mark is two slashes, or a slash and a star. In some grammars blanks may come before it in the text of its token:
in a state where a blank can be part of another token, the automaton does not pass over it. That every token of
some kind is spelled so is a matter of the automaton. On the way to such a token it has read blanks only, or a
slash behind them, or the mark and anything else (`Stage`), and which of these can be so in which state is said by
a table that is closed under the moves (`Tables.IsStaged`).

The automaton sees classes of characters. A class is of use here if all of its characters are of one sort
(`Alphabet.IsPure`); of the characters past the first 128, only the interval is known that a binary search finds.
-/
import Overdue.Proofs.Syntax.Fitting

set_option autoImplicit false

namespace Overdue.Syntax

/-! ## Texts that begin with a mark -/

def isBlank (c : Char) : Bool := (9 ≤ c.toNat && c.toNat ≤ 13) || c.toNat == 32

/-- What may come before a mark: blanks, where these are loose, and nothing elsewhere. -/
def IsLead (loose : Bool) (cs : List Char) : Prop := ∀ c ∈ cs, loose = true ∧ isBlank c = true

/-- A text that begins with a mark, behind what may come before it. -/
def IsMarkedText (loose : Bool) (cs : List Char) : Prop :=
  ∃ before rest, cs = before ++ rest ∧ IsLead loose before ∧ (['/', '/'] <+: rest ∨ ['/', '*'] <+: rest)

variable {loose : Bool}

/-- Where blanks are not loose nothing comes before a mark. -/
theorem IsLead.eq_nil {cs : List Char} (h : IsLead false cs) : cs = [] := by
  cases cs with
  | nil => rfl
  | cons c cs => exact absurd (h c List.mem_cons_self).1 Bool.false_ne_true

/-- Where blanks are not loose, the mark comes first. -/
theorem isMarkedText_false_iff {cs : List Char} :
    IsMarkedText false cs ↔ ['/', '/'] <+: cs ∨ ['/', '*'] <+: cs := by
  constructor
  · rintro ⟨before, rest, rfl, hlead, hmark⟩
    rw [hlead.eq_nil, List.nil_append]
    exact hmark
  · intro hmark
    refine ⟨[], cs, rfl, fun c hc => ?_, hmark⟩
    cases hc

/-- A text that begins with a mark does so whatever comes behind it. -/
theorem IsMarkedText.append {cs : List Char} (h : IsMarkedText loose cs) (ds : List Char) :
    IsMarkedText loose (cs ++ ds) := by
  obtain ⟨before, rest, rfl, hbefore, hmark⟩ := h
  refine ⟨before, rest ++ ds, List.append_assoc .., hbefore, ?_⟩
  rcases hmark with hmark | hmark
  · exact .inl (hmark.trans (List.prefix_append rest ds))
  · exact .inr (hmark.trans (List.prefix_append rest ds))

/-- A text that begins with a mark is not empty. -/
theorem IsMarkedText.ne_nil {cs : List Char} (h : IsMarkedText loose cs) : cs ≠ [] := by
  obtain ⟨before, rest, rfl, -, hmark⟩ := h
  intro hnil
  rw [List.append_eq_nil_iff] at hnil
  rcases hmark with hmark | hmark
  · rw [hnil.2] at hmark
    exact absurd hmark (by decide)
  · rw [hnil.2] at hmark
    exact absurd hmark (by decide)

/-! ## Sorts of characters -/

/-- The sorts of characters by which marks are told. -/
inductive CharSort where
  | blank
  | slash
  | star
  | other
deriving DecidableEq

/-- The characters that a sort admits. -/
def CharSort.Admits : CharSort → Char → Prop
  | .blank, c => isBlank c = true
  | .slash, c => c = '/'
  | .star, c => c = '*'
  | .other, _ => True

instance (sort : CharSort) (c : Char) : Decidable (sort.Admits c) :=
  match sort with
  | .blank => inferInstanceAs (Decidable (isBlank c = true))
  | .slash => inferInstanceAs (Decidable (c = '/'))
  | .star => inferInstanceAs (Decidable (c = '*'))
  | .other => .isTrue trivial

namespace Alphabet

/-- The sort of the characters in a class: that of a slash, a star or a blank if one of these is in it. -/
def sortOf (a : Alphabet) (letter : Nat) : CharSort :=
  if letter = a.classOf '/' then .slash
  else if letter = a.classOf '*' then .star
  else if [9, 10, 11, 12, 13, 32].any fun code => a.basic.getD code 0 = letter then .blank
  else .other

/-- The sort of a class admits its characters. Nothing is asked of those past the first 128; only
intervals that end behind these are looked up. -/
structure IsPure (a : Alphabet) : Prop where
  basic : ∀ code < 128, (a.sortOf (a.basic.getD code 0)).Admits (Char.ofNat code)
  size : a.starts.size ≤ 1 <<< 32
  classes : ∀ i < a.starts.size + 1, a.starts.size ≤ i + 1 ∨ 128 < a.starts.getD (i + 1) 0 →
    a.sortOf (a.classes.getD i 0) = .other

instance (a : Alphabet) : Decidable a.IsPure :=
  decidable_of_iff (_ ∧ _ ∧ _) ⟨fun ⟨a, b, c⟩ => ⟨a, b, c⟩, fun ⟨a, b, c⟩ => ⟨a, b, c⟩⟩

/-- The search ends with an interval that is the last one or ends behind the code point. -/
theorem search_spec (starts : Array Nat) (code fuel : Nat) {low high : Nat} (hlow : low < high)
    (hroom : high - low ≤ 1 <<< fuel) (hsize : high ≤ starts.size)
    (hhigh : high = starts.size ∨ code < starts.getD high 0) :
    search starts code fuel low high < starts.size ∧
      (search starts code fuel low high + 1 = starts.size ∨
        code < starts.getD (search starts code fuel low high + 1) 0) := by
  induction fuel generalizing low high with
  | zero =>
    -- without fuel there is room for one place only
    have hnext : high = low + 1 := by rw [Nat.shiftLeft_zero] at hroom; omega
    subst hnext
    exact ⟨by rw [search]; omega, hhigh⟩
  | succ fuel ih =>
    rw [search]
    split
    · have hnext : high = low + 1 := by omega
      subst hnext
      exact ⟨by omega, hhigh⟩
    · rw [Nat.shiftLeft_succ] at hroom
      dsimp only
      split
      -- either half has room for half as much, which is what the fuel that is left allows
      · exact ih (by omega) (by omega) hsize hhigh
      · rename_i hmiddle
        exact ih (by omega) (by omega) (by omega) (.inr (by omega))

/-- The interval of a code point is the last one or ends behind it. -/
theorem intervalOf_spec {starts : Array Nat} (hsize : starts.size ≤ 1 <<< 32) (code : Nat) :
    intervalOf starts code < starts.size + 1 ∧
      (starts.size ≤ intervalOf starts code + 1 ∨ code < starts.getD (intervalOf starts code + 1) 0) := by
  unfold intervalOf
  by_cases hnone : starts.size = 0
  · have hzero : search starts code 32 0 0 = 0 := rfl
    rw [hnone, hzero]
    omega
  · have hroom : starts.size - 0 ≤ 1 <<< 32 := hsize
    obtain ⟨hlt, hend⟩ := search_spec starts code 32 (Nat.pos_of_ne_zero hnone) hroom (Nat.le_refl _) (.inl rfl)
    exact ⟨by omega, hend.imp_left fun hlast => by omega⟩

variable {a : Alphabet}

/-- The sort of a class admits every character in the class. -/
theorem IsPure.admits (h : a.IsPure) (c : Char) : (a.sortOf (a.classOf c)).Admits c := by
  unfold classOf
  by_cases hbasic : c.toNat < 128
  · have hpure := h.basic c.toNat hbasic
    rw [Char.ofNat_toNat] at hpure
    rw [if_pos hbasic]
    exact hpure
  · obtain ⟨hlt, hend⟩ := intervalOf_spec h.size c.toNat
    have hother := h.classes _ hlt (hend.imp_right fun hlast => by omega)
    rw [if_neg hbasic, hother]
    trivial

end Alphabet

/-! ## Stages on the way to a mark -/

/-- How far the automaton has come on the way to a mark. -/
inductive Stage where
  /-- It has read blanks. -/
  | blank
  /-- It has read blanks and a slash. -/
  | slash
  /-- It has read a mark. -/
  | marked
  /-- It is not on the way to a mark. -/
  | other
deriving DecidableEq

namespace Stage

/-- What has been read in a stage. -/
def Holds (loose : Bool) : Stage → List Char → Prop
  | .blank, cs => IsLead loose cs
  | .slash, cs => ∃ before, cs = before ++ ['/'] ∧ IsLead loose before
  | .marked, cs => IsMarkedText loose cs
  | .other, _ => True

/-- The stage after a character of a sort, which is passed over or not. -/
def next (loose : Bool) : Stage → Bool → CharSort → Stage
  | .blank, true, _ => .blank
  | .blank, false, .blank => if loose then .blank else .other
  | .blank, false, .slash => .slash
  | .slash, false, .slash => .marked
  | .slash, false, .star => .marked
  | .marked, false, _ => .marked
  | _, _, _ => .other

/-- What has been read holds in the next stage, if the sort admits the character. -/
theorem Holds.next {stage : Stage} {cs : List Char} (h : stage.Holds loose cs) {sort : CharSort} {c : Char}
    (hadmits : sort.Admits c) : (stage.next loose false sort).Holds loose (cs ++ [c]) := by
  cases stage with
  | blank =>
    cases sort with
    | blank =>
      -- more blanks before a mark, if these are loose
      cases loose with
      | false => trivial
      | true =>
        intro d hd
        rcases List.mem_append.mp hd with hd | hd
        · exact h d hd
        · rw [List.mem_singleton.mp hd]
          exact ⟨rfl, hadmits⟩
    | slash =>
      cases hadmits
      exact ⟨cs, rfl, h⟩
    | star => trivial
    | other => trivial
  -- the second character decides whether it is a mark
  | slash =>
    obtain ⟨before, rfl, hbefore⟩ := h
    cases sort with
    | blank => trivial
    | slash =>
      cases hadmits
      exact ⟨before, ['/', '/'], List.append_assoc .., hbefore, .inl (List.prefix_refl _)⟩
    | star =>
      cases hadmits
      exact ⟨before, ['/', '*'], List.append_assoc .., hbefore, .inr (List.prefix_refl _)⟩
    | other => trivial
  | marked => exact IsMarkedText.append h [c]
  | other => trivial

end Stage

/-! ## Running the automaton -/

/-- A mark at the start of the text is in the text. -/
theorem Cursor.markAt_le_length (place : Cursor) (offset : Nat) : place.markAt offset ≤ place.rest.length := by
  unfold markAt
  split
  · rename_i hrest
    rw [hrest, List.length_cons]
    split <;> omega
  · exact Nat.zero_le _

/-- A table of the stages in which the automaton can be in each of its states: closed under the moves, such that
marks are complete only where one has been read, and nothing is passed over then. Words, the end of the text and
what the scanner finds are no marks, and neither is a keyword. -/
structure Tables.IsStaged (t : Tables) (loose : Bool) (mark : Nat → Prop) (stages : Nat → List Stage) : Prop where
  pure : t.alphabet.IsPure
  start : ∀ state, .blank ∈ stages (t.rows.getD state default).lex
  keyword : .other ∈ stages t.keywordLex
  step : ∀ state letter next, (t.lex.getD state default).moves.getD letter none = some next →
    ∀ stage ∈ stages state, (stage = .marked → next.blank = false) ∧
      stage.next loose next.blank (t.alphabet.sortOf letter) ∈ stages next.state
  accept : ∀ state k, (t.lex.getD state default).accept = some k → mark k → ∀ stage ∈ stages state, stage = .marked
  done : ¬mark 0
  word : ¬mark t.word
  scanner : ∀ k, mark k → k < t.scannerStart

/-- What is known while the automaton runs: the stage is that of the text since the blanks that were passed over,
and a mark that was found last is such a text. -/
structure Tables.Running (loose : Bool) (mark : Nat → Prop) (before : List Char) (start : Nat)
    (found : Option (Nat × Nat)) (stage : Stage) : Prop where
  start_le : start ≤ before.length
  holds : stage.Holds loose (before.drop start)
  found : ∀ k stop, found = some (k, stop) → mark k →
    stage = .marked ∧ stop ≤ before.length ∧ IsMarkedText loose ((before.take stop).drop start)

namespace Tables.IsStaged

variable {t : Tables} {mark : Nat → Prop} {stages : Nat → List Stage}

/-- A token that is complete in a state is noted. -/
theorem note (ht : t.IsStaged loose mark stages) {state start : Nat} {before : List Char} {found : Option (Nat × Nat)}
    {stage : Stage} (hstage : stage ∈ stages state) (h : Running loose mark before start found stage) :
    Running loose mark before start (((t.lex.getD state default).accept.map (·, before.length)).or found) stage where
  start_le := h.start_le
  holds := h.holds
  found k stop hfound hk := by
    cases haccept : (t.lex.getD state default).accept with
    | none =>
      rw [haccept, Option.map_none, Option.none_or] at hfound
      exact h.found k stop hfound hk
    | some k' =>
      rw [haccept, Option.map_some, Option.some_or] at hfound
      cases hfound
      have hmarked := ht.accept state k haccept hk stage hstage
      refine ⟨hmarked, Nat.le_refl _, ?_⟩
      have hholds := h.holds
      rw [hmarked] at hholds
      rw [List.take_length]
      exact hholds

/-- A move on a character leads to the next stage. -/
theorem move (ht : t.IsStaged loose mark stages) {state start : Nat} {before : List Char} {found : Option (Nat × Nat)}
    {stage : Stage} (hstage : stage ∈ stages state) (h : Running loose mark before start found stage) {c : Char}
    {next : Advance} (hmove : (t.lex.getD state default).moves.getD (t.alphabet.classOf c) none = some next) :
    Running loose mark (before ++ [c]) (if next.blank then (before ++ [c]).length else start) found
      (stage.next loose next.blank (t.alphabet.sortOf (t.alphabet.classOf c))) := by
  have hkept : stage = .marked → next.blank = false := (ht.step state _ next hmove stage hstage).1
  have hlength : (before ++ [c]).length = before.length + 1 := by
    rw [List.length_append, List.length_singleton]
  refine ⟨?_, ?_, fun k stop hfound hk => ?_⟩
  · have hle := h.start_le
    split <;> omega
  · by_cases hblank : next.blank = true
    · -- what is passed over starts the text anew
      rw [hblank, if_pos rfl, List.drop_length]
      cases stage with
      | blank =>
        intro d hd
        cases hd
      | slash => trivial
      | marked => exact absurd hblank (by rw [hkept rfl]; decide)
      | other => trivial
    · rw [Bool.not_eq_true] at hblank
      rw [hblank, if_neg Bool.false_ne_true, List.drop_append_of_le_length h.start_le]
      exact h.holds.next (ht.pure.admits c)
  · obtain ⟨hmarked, hstop, htext⟩ := h.found k stop hfound hk
    rw [hkept hmarked, if_neg Bool.false_ne_true, hmarked, List.take_append_of_le_length hstop]
    exact ⟨rfl, by omega, htext⟩

/-- A mark that the automaton finds is spelled as one. -/
theorem run_marked (ht : t.IsStaged loose mark stages) (cs : List Char) {state start : Nat} {before : List Char}
    {found : Option (Nat × Nat)} {stage : Stage} (hstage : stage ∈ stages state)
    (h : Running loose mark before start found stage) {k stop : Nat}
    (hfound : (t.run state before.length start found cs).found = some (k, stop)) (hk : mark k) :
    IsMarkedText loose (((before ++ cs).take stop).drop (t.run state before.length start found cs).start) := by
  induction cs generalizing state start before found stage with
  | nil =>
    rw [Tables.run] at hfound ⊢
    rw [List.append_nil]
    split at hfound
    · cases hfound
      exact absurd hk ht.done
    · rename_i hend
      rw [if_neg hend]
      exact ((ht.note hstage h).found k stop hfound hk).2.2
  | cons c cs ih =>
    have hnoted := ht.note hstage h
    rw [Tables.run] at hfound ⊢
    -- what has been found stays when the automaton stops, and is noted again when it moves
    split at hfound
    · obtain ⟨-, hstop, hmarked⟩ := hnoted.found k stop hfound hk
      rw [List.take_append_of_le_length hstop]
      exact hmarked
    · rename_i next hmove
      have hlength : before.length + 1 = (before ++ [c]).length := by
        rw [List.length_append, List.length_singleton]
      rw [hlength] at hfound ⊢
      rw [List.append_cons before c cs]
      exact ih (ht.step state _ next hmove stage hstage).2 (ht.move hstage hnoted hmove) hfound

/-- Off the way to marks, none is complete. -/
theorem not_mark_of_other (ht : t.IsStaged loose mark stages) {state here : Nat} {found : Option (Nat × Nat)}
    (hstage : .other ∈ stages state) (h : ∀ k stop, found = some (k, stop) → ¬mark k) (k stop : Nat)
    (hfound : ((t.lex.getD state default).accept.map (·, here)).or found = some (k, stop)) : ¬mark k := by
  intro hk
  cases haccept : (t.lex.getD state default).accept with
  | none =>
    rw [haccept, Option.map_none, Option.none_or] at hfound
    exact h k stop hfound hk
  | some k' =>
    rw [haccept, Option.map_some, Option.some_or] at hfound
    cases hfound
    exact nomatch ht.accept state k haccept hk .other hstage

/-- From a state off the way to marks, the automaton finds none. -/
theorem run_other (ht : t.IsStaged loose mark stages) (cs : List Char) {state here start : Nat}
    {found : Option (Nat × Nat)} (hstage : .other ∈ stages state) (h : ∀ k stop, found = some (k, stop) → ¬mark k)
    {k stop : Nat} (hfound : (t.run state here start found cs).found = some (k, stop)) : ¬mark k := by
  induction cs generalizing state here start found with
  | nil =>
    rw [Tables.run] at hfound
    split at hfound
    · cases hfound
      exact ht.done
    · exact ht.not_mark_of_other hstage h k stop hfound
  | cons c cs ih =>
    rw [Tables.run] at hfound
    split at hfound
    · exact ht.not_mark_of_other hstage h k stop hfound
    · rename_i next hmove
      have hnext := (ht.step state _ next hmove .other hstage).2
      exact ih hnext (ht.not_mark_of_other hstage h) hfound

/-! ## Tokens that are found -/

/-- A mark that is found at a place is spelled as one. -/
theorem look (ht : t.IsStaged loose mark stages) {s : Search} {lost : Bool} {row : Row} {found : Found}
    (hlex : .blank ∈ stages row.lex) (h : s.look t lost row 0 = .ok found) (hk : mark found.token) :
    IsMarkedText loose ((s.place.rest.take found.stop).drop found.start) := by
  rw [Search.look] at h
  split at h
  · rename_i hscan
    cases h
    -- the tokens of the scanner come behind all marks
    have hbehind : t.scannerStart ≤ found.token := by
      rw [Search.scan] at hscan
      split at hscan
      · cases hscan
      · dsimp only at hscan
        split at hscan
        · cases hscan
        · split at hscan
          · cases hscan
          · cases hscan
            exact Nat.le_add_right ..
    have hbefore := ht.scanner found.token hk
    omega
  · dsimp only at h
    have hmark : (s.place.rest.take (s.place.markAt 0)).length = s.place.markAt 0 :=
      List.length_take_of_le (s.place.markAt_le_length 0)
    rw [Nat.zero_add] at h
    generalize s.place.markAt 0 = skipped at h hmark
    split at h
    · rename_i token stop hrun
      cases h
      have hblank : Stage.blank.Holds loose ((s.place.rest.take skipped).drop skipped) := by
        rw [List.drop_eq_nil_of_le (by omega)]
        exact nofun
      have hstart : Running loose mark (s.place.rest.take skipped) skipped none .blank :=
        ⟨by omega, hblank, nofun⟩
      have hmarked := ht.run_marked (s.place.rest.drop skipped) hlex hstart
        (by rw [hmark]; exact hrun) hk
      rw [hmark, List.take_append_drop] at hmarked
      exact hmarked
    · cases h

/-- Where a token is read as a keyword, it is no mark. -/
theorem token_of_tree (ht : t.IsStaged loose mark stages) {s : Search} {found : Found} {k : Nat}
    (h : (s.tree t found).label = .token k) (hk : mark k) : found.token = k := by
  rw [Search.tree] at h
  split at h
  · cases h
    rfl
  · split at h
    · dsimp only at h
      split at h
      · cases h
        rfl
      · rename_i keyword stop hrun
        have hkeyword : ¬mark keyword := by
          refine ht.run_other _ ht.keyword (fun k stop hnone => ?_) hrun
          cases hnone
        split at h
        · cases h
          exact absurd hk hkeyword
        · cases h
          rfl
    · cases h
      rfl

/-- A mark that is found is spelled as one. -/
theorem next (ht : t.IsStaged loose mark stages) {s : Search} {token : Tree} (h : s.next t = some token) {k : Nat}
    (hlabel : token.label = .token k) (hk : mark k) :
    IsMarkedText loose ((s.place.advance token.summary.padding).rest.take token.summary.size.chars) := by
  -- what is looked for in either state of the automaton starts in the blank stage
  have hfound (found : Found) (hlabel : (s.tree t found).label = .token k)
      (hmarked : mark found.token → IsMarkedText loose ((s.place.rest.take found.stop).drop found.start)) :
      IsMarkedText loose ((s.place.advance (s.tree t found).summary.padding).rest.take
        (s.tree t found).summary.size.chars) := by
    obtain ⟨-, hpadding, hsize, -⟩ := s.tree_extents t found
    have hrest : (s.place.advance (s.place.extent 0 found.start)).rest = s.place.rest.drop found.start :=
      s.place.advance_ofChars_take found.start
    have htext := hmarked (by rw [ht.token_of_tree hlabel hk]; exact hk)
    rw [List.drop_take] at htext
    rw [hpadding, hsize, hrest, Cursor.extent, Extent.ofChars_chars, List.length_take, ← List.take_eq_take_min]
    exact htext
  rw [Search.next] at h
  dsimp only at h
  split at h
  · cases h
  · split at h
    · rename_i found hlook
      cases h
      refine hfound found hlabel fun hmark => ?_
      split at hlook
      · rename_i hok
        cases hlook
        exact ht.look (ht.start s.state) hok hmark
      · split at hlook
        · cases hlook
        · exact ht.look (ht.start 0) hlook hmark
    · cases h
      cases hlabel

end Tables.IsStaged

end Overdue.Syntax
