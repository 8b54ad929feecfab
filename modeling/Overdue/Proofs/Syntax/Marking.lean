/-
Checking the marks of a grammar.

Which tokens are marks, which rules begin with one, how many trees each state of the parser is up from a mark,
and in which stages the automaton can be: all of this can be written down (`Marking`) and checked against given
tables, row by row (`Marking.Fits`). What has been checked is known of all trees that are made with the tables
(`Marking.Fits.holds`), whatever the text is.

If moreover every token and every rule of some kinds is a mark or begins with one (`Marking.Covers`), then the
text of a node of these kinds begins with a mark (`Marking.exists_markedText`).
-/
import Overdue.Proofs.Syntax.Placement
import Overdue.Proofs.Syntax.Spelling

set_option autoImplicit false

namespace Overdue.Syntax

open Overdue.Syntax.Parser (actionsOn)

/-- A row with a token for which trees are put together first. -/
def Row.Reduces (row : Row) : Prop :=
  ∃ actions ∈ row.actions, ∃ action ∈ actions.head?, ∃ p, action = .reduce p

instance (row : Row) : Decidable row.Reduces :=
  have (action : Action) : Decidable (∃ p, action = .reduce p) :=
    match action with
    | .reduce p => .isTrue ⟨p, rfl⟩
    | .shift _ _ | .shiftExtra | .accept | .recover => .isFalse nofun
  inferInstanceAs (Decidable (∃ actions ∈ row.actions, ∃ action ∈ actions.head?, ∃ p, action = .reduce p))

/-- Which marks a grammar has, and how they can be told from its tables. -/
structure Marking where
  /-- Whether blanks may come before marks. -/
  loose : Bool
  /-- The tokens that are marks. -/
  marks : List Nat
  /-- The rules that begin with a mark. -/
  rules : List Nat
  /-- How many trees each state is up from a mark, the mark included. -/
  depths : Array (Option Nat)
  /-- The stages in which the automaton can be in each of its states. -/
  stages : Array (List Stage)

namespace Marking

def depth (m : Marking) (state : Nat) : Option Nat := m.depths.getD state none

def stagesOf (m : Marking) (state : Nat) : List Stage := m.stages.getD state []

/-- What a marking says of the trees that are made with tables. -/
def lore (m : Marking) (t : Tables) : Lore where
  tables := t
  spelled k text := k ∈ m.marks → IsMarkedText m.loose text
  mark k := k ∈ m.marks
  rule r := r ∈ m.rules
  depth := m.depth

/-! ## The check -/

/-- A state from which one more tree leads so many trees up from a mark. -/
def Nears (m : Marking) (state d : Nat) : Prop := 2 ≤ d ∧ m.depth state = some (d - 1)

instance (m : Marking) (state d : Nat) : Decidable (m.Nears state d) :=
  inferInstanceAs (Decidable (_ ∧ _))

/-- What an action for a token may do in a state. -/
def Allows (m : Marking) (t : Tables) (state token : Nat) : Action → Prop
  | .shift target _ => ∀ d ∈ m.depth target, d = 1 ∧ token ∈ m.marks ∨ m.Nears state d
  | .reduce p => (t.production p).head ∈ m.rules →
      token = 0 ∧ (t.rows.getD state default).ends = true ∧ (t.production p).steps ≠ [] ∧
        m.depth state = some (t.production p).steps.length
  | .accept => state ≠ 0 ∧ state ≠ 1
  | .shiftExtra | .recover => True

instance (m : Marking) (t : Tables) (state token : Nat) (action : Action) :
    Decidable (m.Allows t state token action) :=
  match action with
  | .shift target _ =>
    inferInstanceAs (Decidable (∀ d ∈ m.depth target, d = 1 ∧ token ∈ m.marks ∨ m.Nears state d))
  | .reduce p =>
    inferInstanceAs (Decidable ((t.production p).head ∈ m.rules →
      token = 0 ∧ (t.rows.getD state default).ends = true ∧ (t.production p).steps ≠ [] ∧
        m.depth state = some (t.production p).steps.length))
  | .accept => inferInstanceAs (Decidable (state ≠ 0 ∧ state ≠ 1))
  | .shiftExtra | .recover => .isTrue trivial

/-- Where a rule may lead to from a state, if it leads anywhere. -/
def Leads (m : Marking) (t : Tables) (state rule target : Nat) : Prop :=
  target ≠ 0 →
    if rule ∈ m.rules then target = state
    else (t.rows.getD target default).ends = false ∧ ∀ d ∈ m.depth target, m.Nears state d

instance (m : Marking) (t : Tables) (state rule target : Nat) : Decidable (m.Leads t state rule target) :=
  inferInstanceAs (Decidable (_ → ite ..))

/-- Where a move of the automaton on a letter may lead to from a state: nothing is passed over behind a mark, and
each stage has its next one there. -/
def Moves (m : Marking) (t : Tables) (state letter : Nat) (next : Advance) : Prop :=
  ∀ stage ∈ m.stagesOf state, (stage = .marked → next.blank = false) ∧
    stage.next m.loose next.blank (t.alphabet.sortOf letter) ∈ m.stagesOf next.state

instance (m : Marking) (t : Tables) (state letter : Nat) (next : Advance) :
    Decidable (m.Moves t state letter next) :=
  inferInstanceAs (Decidable (∀ stage ∈ m.stagesOf state, _ ∧ _))

/-- A marking fits the rows of the parser: every action and every rule leads where it may, and no mark is inserted
where it is missing. -/
structure FitsRows (m : Marking) (t : Tables) : Prop where
  lost : m.depth 0 = none
  done : m.depth 1 = none
  actions : ∀ s < t.rows.size, ∀ k < (t.rows.getD s default).actions.size, ∀ action ∈ actionsOn t s k,
    m.Allows t s k action
  gotos : ∀ s < t.rows.size, ∀ r < (t.rows.getD s default).gotos.size, m.Leads t s r (t.goto s r)
  missing : ∀ s < t.rows.size, ∀ k ∈ m.marks, t.stateAfter s k = 0 ∨ t.stateAfter s k = s ∨
    ¬(t.rows.getD (t.stateAfter s k) default).Reduces

/-- A marking fits the automaton: its stages are closed under the moves, and marks are complete only where one
has been read. -/
structure FitsLex (m : Marking) (t : Tables) : Prop where
  alphabet : t.alphabet.IsPure
  start : .blank ∈ m.stagesOf 0 ∧ ∀ row ∈ t.rows, .blank ∈ m.stagesOf row.lex
  keyword : .other ∈ m.stagesOf t.keywordLex
  moves : ∀ state < t.lex.size, ∀ letter < (t.lex.getD state default).moves.size,
    ∀ next ∈ (t.lex.getD state default).moves.getD letter none, m.Moves t state letter next
  accept : ∀ state < t.lex.size, ∀ k ∈ (t.lex.getD state default).accept, k ∈ m.marks →
    ∀ stage ∈ m.stagesOf state, stage = .marked
  marks : ∀ k ∈ m.marks, k ≠ 0 ∧ k ≠ t.word ∧ k < t.scannerStart

/-- A marking fits the tables of a grammar. -/
structure Fits (m : Marking) (t : Tables) : Prop extends m.FitsRows t, m.FitsLex t

/-- A marking covers some kinds: what shows as one of them is a mark or begins with one. -/
structure Covers (m : Marking) (t : Tables) (kinds : List String) : Prop where
  tokens : ∀ k < t.tokens.size, (t.tokens.getD k default).kind ∈ kinds → k ∈ m.marks
  rules : ∀ r < t.rules.size, (t.rules.getD r default).kind ∈ kinds → r ∈ m.rules
  displays : ∀ p ∈ t.productions, ∀ step ∈ p.steps, ∀ d ∈ step.display, d.kind ∉ kinds
  unnamed : "" ∉ kinds
  errors : "ERROR" ∉ kinds

instance (m : Marking) (t : Tables) : Decidable (m.FitsRows t) :=
  decidable_of_iff (_ ∧ _ ∧ _ ∧ _ ∧ _)
    ⟨fun ⟨a, b, c, d, e⟩ => ⟨a, b, c, d, e⟩, fun ⟨a, b, c, d, e⟩ => ⟨a, b, c, d, e⟩⟩

instance (m : Marking) (t : Tables) : Decidable (m.FitsLex t) :=
  decidable_of_iff (_ ∧ _ ∧ _ ∧ _ ∧ _ ∧ _)
    ⟨fun ⟨a, b, c, d, e, f⟩ => ⟨a, b, c, d, e, f⟩, fun ⟨a, b, c, d, e, f⟩ => ⟨a, b, c, d, e, f⟩⟩

instance (m : Marking) (t : Tables) : Decidable (m.Fits t) :=
  decidable_of_iff (m.FitsRows t ∧ m.FitsLex t) ⟨fun ⟨a, b⟩ => ⟨a, b⟩, fun ⟨a, b⟩ => ⟨a, b⟩⟩

instance (m : Marking) (t : Tables) (kinds : List String) : Decidable (m.Covers t kinds) :=
  decidable_of_iff (_ ∧ _ ∧ _ ∧ _ ∧ _)
    ⟨fun ⟨a, b, c, d, e⟩ => ⟨a, b, c, d, e⟩, fun ⟨a, b, c, d, e⟩ => ⟨a, b, c, d, e⟩⟩

/-! ## What has been checked -/

variable {m : Marking} {t : Tables}

/-- What is not the default is there. -/
theorem lt_size_of_getD_ne {α : Type} {xs : Array α} {i : Nat} (d : α) (h : xs.getD i d ≠ d) : i < xs.size := by
  refine Nat.lt_of_not_le fun hsize => h ?_
  rw [Array.getD, dif_neg (Nat.not_lt.mpr hsize)]

theorem getD_mem {α : Type} {xs : Array α} {i : Nat} (d : α) (h : i < xs.size) : xs.getD i d ∈ xs := by
  rw [Array.getD, dif_pos h]
  exact Array.getElem_mem h

/-- Only rows that are there have actions, and only for tokens that are there. -/
theorem lt_of_mem_actionsOn {s k : Nat} {action : Action} (h : action ∈ actionsOn t s k) :
    s < t.rows.size ∧ k < (t.rows.getD s default).actions.size := by
  rw [actionsOn] at h
  constructor
  · refine lt_size_of_getD_ne default fun hnone => ?_
    rw [hnone] at h
    cases h
  · refine lt_size_of_getD_ne [] fun hnone => ?_
    rw [hnone] at h
    cases h

/-- Only rows that are there lead anywhere with a rule. -/
theorem lt_of_goto_ne_zero {s r : Nat} (h : t.goto s r ≠ 0) :
    s < t.rows.size ∧ r < (t.rows.getD s default).gotos.size := by
  refine ⟨lt_size_of_getD_ne default fun hnone => h ?_, lt_size_of_getD_ne 0 h⟩
  rw [Tables.goto, hnone]
  rfl

/-- Only rows that are there lead anywhere with a token. -/
theorem lt_of_stateAfter_ne_zero {s k : Nat} (h : t.stateAfter s k ≠ 0) : s < t.rows.size := by
  refine lt_size_of_getD_ne default fun hnone => h ?_
  rw [Tables.stateAfter, hnone]
  rfl

/-- A state that is near a mark is one up from where it is nearer. -/
theorem Nears.exists_depth {s d : Nat} (h : m.Nears s d) : ∃ e, d = e + 2 ∧ m.depth s = some (e + 1) := by
  obtain ⟨htwo, hdepth⟩ := h
  refine ⟨d - 2, by omega, ?_⟩
  rw [hdepth]
  congr 1
  omega

namespace FitsRows

/-- Every action is allowed. -/
theorem allows (h : m.FitsRows t) {s k : Nat} {action : Action} (haction : action ∈ actionsOn t s k) :
    m.Allows t s k action := by
  obtain ⟨hs, hk⟩ := lt_of_mem_actionsOn haction
  exact h.actions s hs k hk action haction

/-- Every rule leads where it may. -/
theorem leads (h : m.FitsRows t) (s r : Nat) : m.Leads t s r (t.goto s r) := by
  intro hgoto
  obtain ⟨hs, hr⟩ := lt_of_goto_ne_zero hgoto
  exact h.gotos s hs r hr hgoto

/-- A rule that begins with a mark leads back, or nowhere. -/
theorem goto_eq (h : m.FitsRows t) (s : Nat) {r : Nat} (hr : r ∈ m.rules) : t.goto s r = s ∨ t.goto s r = 0 := by
  by_cases hgoto : t.goto s r = 0
  · exact .inr hgoto
  · have hleads := h.leads s r hgoto
    rw [if_pos hr] at hleads
    exact .inl hleads

/-- Any other rule leads up from where it begins, and to where a token is looked for. -/
theorem goto_nears (h : m.FitsRows t) {s r : Nat} (hr : r ∉ m.rules) (hgoto : t.goto s r ≠ 0) :
    (t.rows.getD (t.goto s r) default).ends = false ∧ ∀ d, m.depth (t.goto s r) = some d → m.Nears s d := by
  have hleads := h.leads s r hgoto
  rw [if_neg hr] at hleads
  exact hleads

/-- A state in which a rule that begins with a mark can be complete is some trees up from a mark, and no token is
looked for in it. -/
theorem of_closes (h : m.FitsRows t) {s : Nat} (hs : (m.lore t).Closes s) :
    (t.rows.getD s default).ends = true ∧ m.depth s ≠ none := by
  obtain ⟨k, p, haction, hr⟩ := hs
  obtain ⟨-, hends, -, hdepth⟩ := h.allows haction hr
  refine ⟨hends, ?_⟩
  rw [hdepth]
  exact nofun

/-- What has been checked of the rows is how marks are told. -/
theorem isMarked (h : m.FitsRows t) : (m.lore t).IsMarked where
  lost := h.lost
  done := h.done
  shift _ _ _ _ d haction hd := (h.allows haction d hd).imp_right Nears.exists_depth
  goto s r d hr hd := by
    have hgoto : t.goto s r ≠ 0 := by
      intro hzero
      have hdepth : m.depth (t.goto s r) = some d := hd
      rw [hzero, h.lost] at hdepth
      cases hdepth
    exact ((h.goto_nears hr hgoto).2 d hd).exists_depth
  reduce _ _ _ haction hr := by
    obtain ⟨hk, hends, hsteps, hdepth⟩ := h.allows haction hr
    obtain ⟨d, hd⟩ := Nat.exists_eq_add_one_of_ne_zero (mt List.length_eq_zero_iff.mp hsteps)
    rw [hd] at hdepth
    exact ⟨hk, hends, d, hd, hdepth⟩
  back s _ hr := h.goto_eq s hr
  closes s r hr hcloses := by
    obtain ⟨hends, hdepth⟩ := h.of_closes hcloses
    have hgoto : t.goto s r ≠ 0 := fun hzero => hdepth (by rw [← h.lost, ← hzero]; rfl)
    exact nomatch (h.goto_nears hr hgoto).1.symm.trans hends
  accept _ _ _ haction _ := h.allows haction

/-- No mark can be inserted. -/
theorem not_mem_marks_of_canMiss (h : m.FitsRows t) {s k : Nat} (hmiss : t.CanMiss s k) : k ∉ m.marks := by
  intro hk
  obtain ⟨hlost, hkept, token, p, hreduce⟩ := hmiss
  have hnot := (h.missing s (lt_of_stateAfter_ne_zero hlost) k hk).resolve_left hlost |>.resolve_left hkept
  refine hnot ⟨actionsOn t (t.stateAfter s k) token, ?_, .reduce p, hreduce, p, rfl⟩
  have htoken := (lt_of_mem_actionsOn (List.mem_of_head? hreduce)).2
  exact getD_mem [] htoken

end FitsRows

/-- A marking that fits the automaton tells its stages. -/
theorem FitsLex.isStaged (h : m.FitsLex t) : t.IsStaged m.loose (· ∈ m.marks) m.stagesOf where
  pure := h.alphabet
  start state := by
    by_cases hstate : state < t.rows.size
    · exact h.start.2 _ (getD_mem default hstate)
    · rw [Array.getD, dif_neg hstate]
      exact h.start.1
  keyword := h.keyword
  -- a state that has a move is one of the automaton, and so is the letter
  step state letter next hmove := by
    have hstate : state < t.lex.size := by
      refine lt_size_of_getD_ne default fun hnone => ?_
      rw [hnone] at hmove
      cases hmove
    have hletter : letter < (t.lex.getD state default).moves.size := by
      refine lt_size_of_getD_ne none fun hnone => ?_
      rw [hnone] at hmove
      cases hmove
    exact h.moves state hstate letter hletter next hmove
  accept state k haccept := by
    have hstate : state < t.lex.size := by
      refine lt_size_of_getD_ne default fun hnone => ?_
      rw [hnone] at haccept
      cases haccept
    exact h.accept state hstate k haccept
  done hk := (h.marks 0 hk).1 rfl
  word hk := (h.marks t.word hk).2.1 rfl
  scanner k hk := (h.marks k hk).2.2

/-- What a marking says that fits the tables is known of all trees that are made with them. -/
theorem Fits.holds (h : m.Fits t) : (m.lore t).Holds where
  toIsMarked := h.isMarked
  next _ _ hnext _ hlabel hk := h.isStaged.next hnext hlabel hk
  word _ _ _ hword := absurd hword h.isStaged.word
  missing _ _ hmiss hk := absurd hk (h.not_mem_marks_of_canMiss hmiss)

/-! ## Nodes that begin with a mark -/

/-- The text of a mark comes next where it starts. -/
theorem exists_markedText_of_token {u : Tree} {c : Cursor} (h : u.FitsAt (m.lore t) c) {k : Nat}
    (hlabel : u.label = .token k) (hk : k ∈ m.marks) :
    ∃ cs, (u.startAt c).rest = cs ++ (c.advance u.total).rest ∧ IsMarkedText m.loose cs := by
  obtain ⟨s, parts⟩ := u
  have hopens := h.opens
  rw [hlabel] at hopens
  cases hopens
  rw [Tree.fitsAt_leaf] at h
  have htext : IsMarkedText m.loose ((c.advance s.padding).rest.take s.size.chars) := h.2.2.1 k hlabel hk
  refine ⟨_, ?_, htext⟩
  have hend : c.advance (Tree.node s []).total = (c.advance s.padding).advance s.size := Cursor.advance_add ..
  rw [hend, Tree.startAt, Tree.startOf]
  exact (List.take_append_drop ..).symm

/-- A tree that is a mark, or one for a rule that begins with a mark, has a text that begins with a mark. -/
theorem exists_markedText {u : Tree} {c : Cursor} (h : u.FitsAt (m.lore t) c)
    (hlabel : (∃ k, u.label = .token k ∧ k ∈ m.marks) ∨ ∃ r p, u.label = .rule r p ∧ r ∈ m.rules) :
    ∃ cs, (u.startAt c).rest = cs ++ (c.advance u.total).rest ∧ IsMarkedText m.loose cs := by
  rcases hlabel with ⟨k, hlabel, hk⟩ | ⟨r, p, hlabel, hr⟩
  · exact exists_markedText_of_token h hlabel hk
  · have hopens := h.opens
    rw [hlabel] at hopens
    obtain ⟨first, rest, k, hparts, hfirst, hk⟩ := hopens hr
    obtain ⟨s, parts⟩ := u
    cases hparts
    rw [Tree.FitsAt] at h
    obtain ⟨cs, hcs, hmarked⟩ := exists_markedText_of_token h.1 hfirst hk
    have htotal : (Tree.node s (first :: rest)).total = first.total + Tree.totals rest := h.2.2.1
    -- behind the mark comes the text of the other parts
    refine ⟨cs ++ (c.advance first.total).rest.take (Tree.totals rest).chars, ?_, hmarked.append _⟩
    rw [Tree.startAt, Tree.startOf, hcs, htotal, Cursor.advance_add, List.append_assoc]
    exact congrArg (cs ++ ·) (List.take_append_drop ..).symm

/-- What shows as one of the kinds that are covered is a mark or begins with one. -/
theorem Covers.label_of_shows {kinds : List String} (h : m.Covers t kinds) {n : Node} {u : Tree} {c : Cursor}
    (hshows : n.Shows t u c) (hkind : n.kind ∈ kinds) :
    (∃ k, u.label = .token k ∧ k ∈ m.marks) ∨ ∃ r p, u.label = .rule r p ∧ r ∈ m.rules := by
  rcases hshows.kind with hown | ⟨p, hp, step, hstep, d, hd, hother⟩
  · rw [hown] at hkind
    cases hlabel : u.label with
    -- a node of its own kind is a token or a rule that has it
    | token k =>
      refine .inl ⟨k, rfl, ?_⟩
      rw [hlabel, Label.display] at hkind
      split at hkind
      · rename_i info hinfo
        obtain ⟨hk, hget⟩ := Array.getElem?_eq_some_iff.mp hinfo
        refine h.tokens k hk ?_
        rw [Array.getD, dif_pos hk]
        rw [← hget] at hkind
        exact hkind
      · exact absurd hkind h.unnamed
    | rule r p =>
      refine .inr ⟨r, p, rfl, ?_⟩
      rw [hlabel] at hkind
      refine h.rules r (lt_size_of_getD_ne default fun hnone => h.unnamed ?_) hkind
      have hrule : (t.rules.getD r default).kind ∈ kinds := hkind
      rw [hnone] at hrule
      exact hrule
    | error =>
      rw [hlabel] at hkind
      exact absurd hkind h.errors
    | skipped =>
      rw [hlabel] at hkind
      exact absurd hkind h.errors
  -- what a step displays has none of the kinds
  · rw [hother] at hkind
    exact absurd hkind (h.displays p hp step hstep d hd)

end Marking

end Overdue.Syntax
