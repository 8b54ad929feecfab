/-
What is known of the trees of a grammar.

Of some tokens it is known how they are spelled, and of some rules that they begin with one of these tokens, as
a comment begins with the mark that opens it. A tree for such a rule is put together from what lies on top of
the stack, so that it does begin with a mark is a matter of the states: a state in which the rule is complete
is so many trees up from a mark (`Lore.depth`), however the parser came there.

For that to be of use, every link of the stack has to follow the tables (`Lore.Links`), which is what the
parser has to keep when it pushes. A way down the stack is then a way back through the tables (`Lore.Path`),
and the trees that are popped for the rule begin with the mark (`Lore.Reach.exists_mark`).
-/
import Overdue.Syntax.Node

set_option autoImplicit false

namespace Overdue.Syntax

open Overdue.Syntax.Parser (actionsOn)

/-- Where a rule leads to from a state; 0 stands for nowhere. -/
def Tables.goto (t : Tables) (state rule : Nat) : Nat := (t.rows.getD state default).gotos.getD rule 0

/-- The production with a number. -/
def Tables.production (t : Tables) (number : Nat) : Production := t.productions.getD number default

/-- A token can be inserted in a state where it is missing: it leads on to a state that goes on. -/
def Tables.CanMiss (t : Tables) (state token : Nat) : Prop :=
  t.stateAfter state token ≠ 0 ∧ t.stateAfter state token ≠ state ∧
    ∃ k p, (actionsOn t (t.stateAfter state token) k).head? = some (.reduce p)

/-- What is known of the trees that are made with given tables. -/
structure Lore where
  tables : Tables
  /-- What is known of the text of a token. -/
  spelled : Nat → List Char → Prop
  /-- The tokens that are marks. -/
  mark : Nat → Prop
  /-- The rules that begin with a mark, which may stand anywhere. -/
  rule : Nat → Prop
  /-- How many trees a state is up from a mark, the mark included. -/
  depth : Nat → Option Nat

namespace Lore

/-! ## What the tables have to do -/

/-- A state in which a rule that begins with a mark can be complete. -/
def Closes (lore : Lore) (s : Nat) : Prop :=
  ∃ k p, .reduce p ∈ actionsOn lore.tables s k ∧ lore.rule (lore.tables.production p).head

/-- What the tables have to do for rules to begin with their marks. Where a state is some trees up from a mark,
every way to it comes from the mark or from one tree further down. A rule that begins with a mark is complete
only as many trees up as it has, and where no token is looked for; it leads back to the state in which it began,
or nowhere; and no other rule leads to where it is complete. -/
structure IsMarked (lore : Lore) : Prop where
  lost : lore.depth 0 = none
  done : lore.depth 1 = none
  shift : ∀ s k target repetition d, .shift target repetition ∈ actionsOn lore.tables s k →
    lore.depth target = some d → d = 1 ∧ lore.mark k ∨ ∃ e, d = e + 2 ∧ lore.depth s = some (e + 1)
  goto : ∀ s r d, ¬lore.rule r → lore.depth (lore.tables.goto s r) = some d →
    ∃ e, d = e + 2 ∧ lore.depth s = some (e + 1)
  reduce : ∀ s k p, .reduce p ∈ actionsOn lore.tables s k → lore.rule (lore.tables.production p).head →
    k = 0 ∧ (lore.tables.rows.getD s default).ends = true ∧
      ∃ d, (lore.tables.production p).steps.length = d + 1 ∧ lore.depth s = some (d + 1)
  back : ∀ s r, lore.rule r → lore.tables.goto s r = s ∨ lore.tables.goto s r = 0
  closes : ∀ s r, ¬lore.rule r → ¬lore.Closes (lore.tables.goto s r)
  accept : ∀ s k r, .accept ∈ actionsOn lore.tables s k → lore.rule r → s ≠ 0 ∧ s ≠ 1

/-! ## Links -/

/-- What a tree on the stack may be, between the state below it and the one above it. The state is kept by what
may stand anywhere, and changed as the tables say by anything else, unless the parser has lost track (state 0)
or is done (state 1). -/
inductive Links (lore : Lore) : Nat → Tree → Nat → Prop
  | extra {s : Nat} {t : Tree} (h : t.extra = true) : Links lore s t s
  | token {s k target : Nat} {repetition : Bool} {t : Tree} (hextra : t.extra = false)
      (hlabel : t.label = .token k) (h : .shift target repetition ∈ actionsOn lore.tables s k) :
      Links lore s t target
  | rule {s r p : Nat} {t : Tree} (hextra : t.extra = false) (hlabel : t.label = .rule r p) (hr : ¬lore.rule r) :
      Links lore s t (lore.tables.goto s r)
  | lost {s : Nat} {t : Tree} : Links lore s t 0
  | done {s : Nat} {t : Tree} : Links lore s t 1

/-- A way up the stack from one state to another, with the trees on it and how many of them count. -/
inductive Path (lore : Lore) (top : Nat) : Nat → List Tree → Nat → Prop
  | nil : Path lore top top [] 0
  | tree {s s' n : Nat} {t : Tree} {ts : List Tree} (h : lore.Links s t s') (hrest : Path lore top s' ts n) :
      Path lore top s (t :: ts) (if t.extra then n else n + 1)
  | lost {s n : Nat} {ts : List Tree} (hrest : Path lore top 0 ts n) : Path lore top s ts (n + 1)

/-- Such a way whose lowest step is one that counts. -/
inductive Reach (lore : Lore) (top : Nat) : Nat → List Tree → Nat → Prop
  | nil : Reach lore top top [] 0
  | tree {s s' n : Nat} {t : Tree} {ts : List Tree} (h : lore.Links s t s') (hextra : t.extra = false)
      (hrest : lore.Path top s' ts n) : Reach lore top s (t :: ts) (n + 1)
  | lost {s n : Nat} {ts : List Tree} (hrest : lore.Path top 0 ts n) : Reach lore top s ts (n + 1)

variable {lore : Lore}

/-- What may stand anywhere may be pushed in any state that is kept. -/
theorem Links.of_extra {s s' : Nat} {t : Tree} (hextra : t.extra = true) (h : s' = s ∨ s' = 0 ∨ s' = 1) :
    lore.Links s t s' := by
  rcases h with rfl | rfl | rfl
  · exact .extra hextra
  · exact .lost
  · exact .done

/-- An error keeps the state. -/
theorem Links.state_of_error {s s' : Nat} {t : Tree} (h : lore.Links s t s') (hlabel : t.label = .error) :
    s' = s ∨ s' = 0 ∨ s' = 1 := by
  cases h with
  | extra => exact .inl rfl
  | token _ htoken => exact nomatch htoken.symm.trans hlabel
  | rule _ hrule => exact nomatch hrule.symm.trans hlabel
  | lost => exact .inr (.inl rfl)
  | done => exact .inr (.inr rfl)

/-- A link down from some trees above a mark: what may stand anywhere changes nothing, and with anything else
one has come to the mark, or one tree closer to it. -/
theorem Links.of_depth (hm : lore.IsMarked) {s s' d : Nat} {t : Tree} (h : lore.Links s t s')
    (hd : lore.depth s' = some (d + 1)) :
    t.extra = true ∧ lore.depth s = some (d + 1) ∨
      t.extra = false ∧ (d = 0 ∧ (∃ k, t.label = .token k ∧ lore.mark k) ∨
        ∃ e, d = e + 1 ∧ lore.depth s = some (e + 1)) := by
  cases h with
  | extra hextra => exact .inl ⟨hextra, hd⟩
  | token hextra hlabel h =>
    rcases hm.shift _ _ _ _ _ h hd with ⟨hone, hk⟩ | ⟨e, he, hs⟩
    · exact .inr ⟨hextra, .inl ⟨by omega, _, hlabel, hk⟩⟩
    · exact .inr ⟨hextra, .inr ⟨e, by omega, hs⟩⟩
  | rule hextra hlabel hr =>
    obtain ⟨e, he, hs⟩ := hm.goto _ _ _ hr hd
    exact .inr ⟨hextra, .inr ⟨e, by omega, hs⟩⟩
  | lost =>
    rw [hm.lost] at hd
    cases hd
  | done =>
    rw [hm.done] at hd
    cases hd

/-! ## Ways down the stack -/

/-- A way down from some trees above a mark comes closer to it by the trees that count, as long as not all of
them have been passed. -/
theorem Path.depth (hm : lore.IsMarked) {top s n d : Nat} {ts : List Tree} (h : lore.Path top s ts n)
    (hd : lore.depth top = some (n + (d + 1))) : lore.depth s = some (d + 1) := by
  induction h generalizing d with
  | nil => rwa [Nat.zero_add] at hd
  | @tree s s' n t ts hlink _ ih =>
    cases hextra : t.extra with
    | true =>
      rw [hextra, if_pos rfl] at hd
      rcases hlink.of_depth hm (ih hd) with h | h
      · exact h.2
      · rw [hextra] at h
        cases h.1
    | false =>
      rw [hextra, if_neg Bool.false_ne_true, Nat.add_assoc, Nat.add_comm 1] at hd
      rcases hlink.of_depth hm (ih hd) with h | ⟨-, ⟨hzero, -⟩ | ⟨e, he, hs⟩⟩
      · rw [hextra] at h
        cases h.1
      · cases hzero
      · rw [hs, he]
  | lost _ ih =>
    rw [Nat.add_assoc, Nat.add_comm 1] at hd
    have hlost := ih hd
    rw [hm.lost] at hlost
    cases hlost

/-- The trees on the way down to a mark begin with the mark. -/
theorem Reach.exists_mark (hm : lore.IsMarked) {top s d : Nat} {ts : List Tree}
    (h : lore.Reach top s ts (d + 1)) (hd : lore.depth top = some (d + 1)) :
    ∃ t rest k, ts = t :: rest ∧ t.extra = false ∧ t.label = .token k ∧ lore.mark k := by
  cases h with
  | @tree _ s' _ t rest hlink hextra hpath =>
    have hlast : lore.depth s' = some (0 + 1) := hpath.depth hm hd
    rcases hlink.of_depth hm hlast with h | ⟨-, ⟨-, k, hlabel, hk⟩ | ⟨e, he, -⟩⟩
    · rw [hextra] at h
      cases h.1
    · exact ⟨t, rest, k, rfl, hextra, hlabel, hk⟩
    · cases he
  | lost hpath =>
    have hlost : lore.depth 0 = some (0 + 1) := hpath.depth hm hd
    rw [hm.lost] at hlost
    cases hlost

/-- What may stand anywhere does not change the state. -/
theorem Path.eq_of_extras {top s n : Nat} {ts : List Tree} (h : lore.Path top s ts n)
    (hextras : ∀ t ∈ ts, t.extra = true) (hlost : top ≠ 0) (hdone : top ≠ 1) : s = top := by
  induction h with
  | nil => rfl
  | @tree s s' n t ts hlink _ ih =>
    have hs' : s' = top := ih fun u hu => hextras u (List.mem_cons_of_mem t hu)
    have hextra := hextras t List.mem_cons_self
    cases hlink with
    | extra => exact hs'
    | token hplain =>
      rw [hplain] at hextra
      cases hextra
    | rule hplain =>
      rw [hplain] at hextra
      cases hextra
    | lost => exact absurd hs'.symm hlost
    | done => exact absurd hs'.symm hdone
  | lost _ ih => exact absurd (ih hextras).symm hlost

/-- The last tree that does not stand anywhere, if there is one, need not begin with a mark. -/
def Plain (lore : Lore) (ts : List Tree) : Prop :=
  ∀ core r p, ts.reverse.find? (!·.extra) = some core → core.label = .rule r p → ¬lore.rule r

/-- A tree that is no rule may come behind plain ones. -/
theorem Plain.concat {ts : List Tree} {t : Tree} (h : t.extra = true → lore.Plain ts)
    (hlabel : ∀ r p, t.label ≠ .rule r p) : lore.Plain (ts ++ [t]) := by
  intro core r p hcore hrule
  rw [List.reverse_append, List.reverse_singleton, List.singleton_append, List.find?_cons] at hcore
  cases hextra : t.extra with
  | true =>
    rw [hextra] at hcore
    exact h hextra core r p hcore hrule
  | false =>
    rw [hextra] at hcore
    cases hcore
    exact absurd hrule (hlabel r p)

/-- On a way down from a state where a rule that begins with a mark has not led, the last tree that does not
stand anywhere is for no such rule. -/
theorem Path.plain {top s n : Nat} {ts : List Tree} (h : lore.Path top s ts n)
    (htop : ∀ r, lore.rule r → top ≠ 0 ∧ top ≠ 1) : lore.Plain ts := by
  intro core r p hcore hlabel hr
  -- by induction on the path from above; its core is the last tree that is no extra
  obtain ⟨hlost, hdone⟩ := htop r hr
  induction h with
  | nil => cases hcore
  | @tree s s' n t ts hlink hrest ih =>
    rw [List.reverse_cons, List.find?_append] at hcore
    cases hfind : ts.reverse.find? (!·.extra) with
    | some u =>
      rw [hfind] at hcore
      cases hcore
      exact ih hfind
    | none =>
      have hextras : ∀ u ∈ ts, u.extra = true := by
        intro u hu
        simpa using List.find?_eq_none.mp hfind u (List.mem_reverse.mpr hu)
      -- behind the core there are only extras, which stay in the state above
      have hs' : s' = top := hrest.eq_of_extras hextras hlost hdone
      rw [hfind, Option.none_or, List.find?_singleton] at hcore
      split at hcore
      · rename_i hplain
        cases hcore
        cases hlink with
        | extra hextra =>
          rw [hextra] at hplain
          cases hplain
        | token _ htoken => exact nomatch htoken.symm.trans hlabel
        | rule _ hrule hnot =>
          cases hrule.symm.trans hlabel
          exact hnot hr
        | lost => exact hlost hs'.symm
        | done => exact hdone hs'.symm
      · cases hcore
  | lost _ ih => exact ih hcore

end Lore

end Overdue.Syntax
