/-
Recoveries, and what they make of the places where versions stand.

A version that cannot use a token is repaired: it goes back and what was read since becomes an error, the
token is skipped, or a token is inserted that is not in the text. The first repair leaves the version that is
repaired where it is and adds others, so that the second one can still be tried at the same place, where
the token fits; all of them push only what was popped, what was read there, or nothing.
-/
import Overdue.Proofs.Syntax.Reduction

set_option autoImplicit false

namespace Overdue.Syntax

namespace Parser

open Parse

variable {lore : Lore} {text : List Char} {w : List Standpoint} {p : Parser}

/-! ## Recovery -/

/-- Giving up a version that waits with nothing changes no standpoint. -/
theorem ensures_halt_free {v : Nat} {c : Spot} (h : p.Views lore text w) (hv : w[v]? = some (.free c)) :
    (onStack (·.halt v)).Ensures p fun _ p' => p'.Views lore text w := by
  obtain ⟨h, rfl⟩ := h
  obtain ⟨hlt, hget⟩ := List.getElem?_eq_some_iff.mp hv
  have hhalt := h.stack.halt v
  rw [Stack.view_modify_of_some hv, ← hget, List.set_getElem_self hlt] at hhalt
  exact ensures_onStack h hhalt

/-- Popping an error off a version takes it back to where the error began, if there was one. -/
theorem ensures_popError {v : Nat} {d : Spot} (h : p.Views lore text w) (hv : w[v]? = some (.free d)) :
    (fromStack (·.popError v)).Ensures p fun earlier p' => ∃ c : Spot, p'.Views lore text (w.set v (.free c)) ∧
      Stack.Leads lore c.place ((earlier.map (·.parts)).getD []) d.place ∧
      (d.state = c.state ∨ d.state = 0 ∨ d.state = 1) := by
  obtain ⟨h, rfl⟩ := h
  obtain ⟨hsound, c, hview, hleads, hstate⟩ := h.stack.popError hv
  exact ensures_fromStack h hsound fun p' hp' => ⟨c, hview ▸ hp', hleads, hstate⟩

/-- A recovery under way: after the versions that were there come those that were dealt with, which wait with
nothing, and then those that are left, at the lower ends of their slices. -/
def Recovering (lore : Lore) (text : List Char) (w : List Standpoint) (holds : Spot → List Tree → Prop)
    (rest : List (Nat × List (List Tree))) (p : Parser) : Prop :=
  ∃ others spots, p.Views lore text (w ++ others ++ spots.map .free) ∧ (∀ x ∈ others, x.2 = none) ∧
    Stack.AreSlices holds (w ++ others).length spots rest

/-- When the next slice has been dealt with the recovery goes on with the others. -/
theorem Recovering.next {holds : Spot → List Tree → Prop} {others : List Standpoint} {spots : List Spot} {c : Spot}
    {rest : List (Nat × List (List Tree))} (hothers : ∀ x ∈ others, x.2 = none)
    (hslices : Stack.AreSlices holds ((w ++ others).length + 1) spots rest)
    (h : p.Views lore text (w ++ others ++ .free c :: spots.map .free)) : Recovering lore text w holds rest p := by
  have hfree : ∀ x ∈ [Standpoint.free c], x.2 = none := forall_map_free [c]
  refine ⟨others ++ [.free c], spots, ?_, forall_append_free hothers hfree, ?_⟩
  · rwa [← List.append_assoc, List.append_assoc, List.singleton_append]
  · rwa [← List.append_assoc, List.length_append]

/-- Going back to an earlier state adds versions and leaves those that were there. -/
theorem ensures_recoverTo {v : Nat} {x : Standpoint} (h : p.Views lore text w) (hv : w[v]? = some x)
    (depth state : Nat) :
    (recoverTo v depth state).Ensures p fun _ p' => p'.Extends lore text w := by
  rw [recoverTo]
  refine .grammar ?_
  generalize p.tables = tables
  refine .bind (ensures_popCount h hv depth) ?_
  rintro slices p₁ ⟨spots, hp₁, hslices⟩
  refine .bind (.forIn_rest (fun rest _ => Recovering lore text w (Stack.Pops lore depth x.1) rest)
    (fun _ p => p.Extends lore text w) ⟨[], spots, ?_, nofun, ?_⟩ ?_ ?_) fun _ p hp => .pure hp
  · rwa [List.append_nil]
  · rwa [List.append_nil]
  · rintro ⟨number, alternatives⟩ rest done p ⟨others, spots, hp, hothers, hslices⟩
    cases spots with
    | nil => cases hslices
    | cons c spots =>
      obtain ⟨rfl, hne, hpops, hslices⟩ := hslices
      rw [List.map_cons] at hp
      have hc := getElem?_append_cons (w ++ others) (spots.map Standpoint.free) (.free c)
      refine .look ?_
      dsimp only
      split
      · exact .bind (ensures_halt_free hp hc) fun _ p hp => .pure (.next hothers hslices hp)
      · rename_i hstate
        rw [ne_eq, Classical.not_not, hp.state hc] at hstate
        split
        · exact absurd rfl hne
        · -- An error on top is opened, so what is wrapped starts where the error did, in the same state.
          rename_i trees _
          refine .bind (ensures_popError hp hc) ?_
          rintro earlier p ⟨b, hp, hearlier, hkept⟩
          rw [set_append_cons] at hp
          rw [show c.state = state from hstate] at hkept
          have hleads := Stack.leads_append.mpr ⟨c.place, hearlier, (hpops trees List.mem_cons_self).leads⟩
          have hlinks (t : Tree) (ht : t.extra = true) : lore.Links b.state t state ∧ lore.Links state t state :=
            ⟨.of_extra ht hkept, .extra ht⟩
          split
          · obtain ⟨hfit, hunwraps, hleads⟩ := (leads_build_split hleads tables .error nofun
              trivial true).of_cons
            refine .bind (ensures_push hp (getElem?_append_cons _ _ _) hfit hunwraps
              (hlinks _ (Tree.extra_build ..)).1) fun _ p hp => ?_
            rw [set_append_cons] at hp
            refine .bind (ensures_pushAll hp (getElem?_append_cons _ _ _) hleads fun t ht =>
              ⟨.extra (Tree.extra_of_mem_splitTrailingExtras ht),
                .extra (Tree.extra_of_mem_splitTrailingExtras ht)⟩) ?_
            rintro _ p ⟨q, hp, -⟩
            rw [set_append_cons] at hp
            exact .pure (.next hothers hslices hp)
          · rename_i hchildren
            -- there is nothing to wrap but extras, which are pushed as they are
            rw [← Tree.splitTrailingExtras_append (_ ++ trees)] at hleads
            rw [Bool.not_eq_true', Bool.not_eq_false, List.isEmpty_iff] at hchildren
            rw [hchildren, List.nil_append] at hleads
            refine .bind (ensures_pushAll hp (getElem?_append_cons _ _ _) hleads fun t ht =>
              hlinks t (Tree.extra_of_mem_splitTrailingExtras ht)) ?_
            rintro _ p ⟨q, hp, -⟩
            rw [set_append_cons] at hp
            exact .pure (.next hothers hslices hp)
  · rintro _ p ⟨others, spots, hp, hothers, -⟩
    exact .of_append ⟨_, hp, forall_map_free spots⟩ hothers

/-- Going back to an earlier state adds versions at most, behind those that were there. -/
theorem ensures_recoverToPassed {v : Nat} {x : Standpoint} (h : p.Views lore text w) (hv : w[v]? = some x)
    (next : Tree) (nodes cost : Nat) :
    (recoverToPassed v next nodes cost).Ensures p fun _ p' => p'.Extends lore text w := by
  rw [recoverToPassed]
  refine .get ?_
  dsimp only
  split
  · exact .pure h.extends
  · split
    · exact .pure h.extends
    -- whatever becomes of an entry, the versions that were there are left as they are
    · refine .bind (.forIn (fun _ p => p.Extends lore text w) (fun _ p => p.Extends lore text w) h.extends ?_
        fun _ _ hp => hp) fun b p hp => ?_
      · rintro entry - b p ⟨others, hp, hothers⟩
        have hextends : p.Extends lore text w := ⟨others, hp, hothers⟩
        split
        · refine .get ?_
          split
          · refine .bind (ensures_betterExists hp v false _) fun better p hp => ?_
            have hextends : p.Extends lore text w := ⟨others, hp, hothers⟩
            split
            · exact .pure hextends
            · refine .grammar ?_
              split
              · refine .bind (ensures_recoverTo hp (getElem?_append_of_some hv others) _ _) fun found p hp => ?_
                split <;> exact .pure (hp.of_append hothers)
              · exact .pure hextends
          · exact .pure hextends
        · exact .pure hextends
      · split <;> exact .pure hp

/-- Versions after the first ones that do not go on are removed. -/
theorem ensures_removeInactive (h : p.Extends lore text w) :
    (removeInactive w.length).Ensures p fun _ p' => p'.Extends lore text w := by
  rw [removeInactive]
  refine .get ?_
  dsimp only
  refine .bind (.forIn (fun _ p => p.Extends lore text w) (fun _ p => p.Extends lore text w) h ?_
    fun _ _ hp => hp) fun _ _ hp => .pure hp
  rintro i - _ p hp
  refine .look ?_
  split
  · rename_i hi
    rw [Bool.and_eq_true, decide_eq_true_eq] at hi
    exact .bind (hp.ensures_remove hi.1) fun _ p hp => .pure hp
  · exact .pure hp

/-- Remembering a token keeps the parser sound. -/
theorem ensures_remember (h : p.IsSound lore text) (v : Nat) (token : Tree) :
    (onStack (·.remember v token)).Ensures p fun _ p' => p'.IsSound lore text :=
  (ensures_onStack h (h.stack.remember v token)).mono fun _ _ hp => hp.1

/-- A token that is skipped joins what was skipped before it. -/
theorem ensures_skipToken {v : Nat} {c : Spot} {next : Tree} (h : p.Views lore text w)
    (hv : w[v]? = some (.free c)) (hnext : next.FitsAt lore c.place) (nodes : Nat) :
    (skipToken v next nodes).Ensures p fun _ p' => p'.IsSound lore text := by
  rw [skipToken]
  refine .grammar ?_
  generalize p.tables = tables
  extract_lets isExtra token skipped
  have hskipped : skipped.FitsAt lore c.place := by
    -- whether a token counts as extra does not change where it fits
    have hfits : token.FitsAt lore c.place := by
      dsimp only [token]
      split
      · exact hnext.setExtra true
      · exact hnext
    exact (Tree.fitAt_singleton.mpr hfits).build tables .skipped nofun trivial false
  have hunwraps (parts : List Tree) : (Tree.build tables .skipped false parts).Unwraps := by
    refine .plain ?_ ?_
    · rw [Tree.label_build]
      exact nofun
    · rw [Tree.total_build, Tree.parts_build]
  split
  · refine .bind (ensures_popCount h hv 1) ?_
    rintro slices p ⟨spots, hp, hslices⟩
    split
    · refine .bind (ensures_push hp (getElem?_append_of_some hv _) hskipped (hunwraps _) .lost) fun _ p hp => ?_
      exact ensures_remember hp.1 v next
    · rename_i number alternatives rest
      cases spots with
      | nil => cases hslices
      | cons b spots =>
        obtain ⟨rfl, hne, hpops, hslices⟩ := hslices
        refine .look (.bind (.forIn (fun _ p => p.Extends lore text (w ++ [.free b]))
          (fun _ p => p.Extends lore text (w ++ [.free b])) ?_ ?_ fun _ _ hp => hp) ?_)
        · rw [List.map_cons, List.append_cons] at hp
          exact ⟨_, hp, forall_map_free spots⟩
        · rintro i - _ p hp
          split
          · refine .bind (hp.ensures_remove ?_) fun _ p hp => .pure hp
            rw [List.length_append, List.length_singleton]
            omega
          · exact .pure hp
        · rintro _ p ⟨others, hp, -⟩
          have hlt := (List.getElem?_eq_some_iff.mp hv).1
          -- the first slice takes the place of the version, and what is skipped now joins its trees
          rw [← List.append_cons] at hp
          refine .bind (ensures_renumber hp (getElem?_append_cons _ _ _) (by omega)) fun _ p hp => ?_
          refine .bind (ensures_push (c := b) hp ?_ ?_ (hunwraps _) .lost) fun _ p hp =>
            ensures_remember hp.1 v next
          · rw [List.getElem?_eraseIdx_of_lt hlt, List.getElem?_set_self (by rw [List.length_append]; omega)]
          · obtain ⟨trees, others, rfl⟩ := List.exists_cons_of_ne_nil hne
            have hleads := (hpops trees List.mem_cons_self).leads
            refine (Tree.fitAt_append.mpr ⟨hleads.fit, ?_⟩).build tables .skipped nofun trivial false
            rw [Tree.fitAt_singleton, hleads.arrive]
            exact hskipped
  · refine .bind (ensures_push h hv hskipped (hunwraps _) .lost) fun _ p hp => ?_
    exact ensures_remember hp.1 v next

/-- Recovering a version keeps the parser sound. -/
theorem ensures_recover {v : Nat} {c : Spot} {next : Tree} (h : p.Views lore text w)
    (hv : w[v]? = some (.free c)) (hnext : next.FitsAt lore c.place) :
    (recover v next).Ensures p fun _ p' => p'.IsSound lore text := by
  rw [recover]
  refine .grammar (.look ?_)
  generalize p.tables = tables
  rw [← Stack.length_view, h.2]
  refine .bind (h.fromStack_same fun _ hs => hs.nodesSinceError v) fun nodes p hp => .look ?_
  refine .bind (ensures_recoverToPassed hp hv next nodes _) fun found p hp => ?_
  refine .bind (ensures_removeInactive hp) ?_
  rintro _ p ⟨others, hp, -⟩
  have hv := getElem?_append_of_some hv others
  split
  · rename_i hend
    have hlabel : next.label = .token 0 := eq_of_beq hend
    -- an error without parts takes no text, so the end still fits where the version stands
    obtain ⟨hfit, hunwraps, harrive⟩ := leads_build (.nil c.place) tables .error nofun trivial false
    refine ensures_accept hp hv (.cons hfit hunwraps harrive (.cons hnext (.token hlabel) rfl (.nil _)))
      fun s trees n _ => ?_
    have herror : lore.Plain (trees ++ [Tree.build tables .error false []]) := by
      refine .concat (fun hextra => ?_) fun r p => ?_
      · rw [Tree.extra_build] at hextra
        cases hextra
      · rw [Tree.label_build]
        exact nofun
    rw [List.append_cons]
    exact .concat (fun _ => herror) fun r p => by rw [hlabel]; exact nofun
  · refine .look ?_
    split
    · exact ensures_halt hp.1 v
    · refine .bind (ensures_betterExists hp v false _) fun better p hp => ?_
      split
      · exact ensures_halt hp.1 v
      · exact ensures_skipToken hp hv hnext nodes

/-! ## Starting a recovery -/

/-- A copy of a version is the last one. -/
theorem ensures_copy {v : Nat} {x : Standpoint} (h : p.Views lore text w) (hv : w[v]? = some x) :
    (fromStack (·.copy v)).Ensures p fun new p' => new = w.length ∧ p'.Views lore text (w ++ [x]) := by
  obtain ⟨h, rfl⟩ := h
  obtain ⟨hnew, hsound, hview⟩ := h.stack.copy hv
  exact ensures_fromStack h hsound fun p' hp' => ⟨hnew, hview ▸ hp'⟩

/-- A token that can be inserted fits anywhere. -/
theorem missingLeaf_fitsAt (hlore : lore.Holds) {state token : Nat} (h : lore.tables.CanMiss state token)
    (tables : Tables) (c : Cursor) : (Tree.missingLeaf tables token).FitsAt lore c := by
  refine Tree.fitsAt_leaf.mpr ⟨c.covers_zero, Cursor.covers_zero _, fun other hother => ?_, ?_⟩
  · cases hother
    exact hlore.missing state token h
  · exact rfl

/-- A token that leads to another state is shifted there. -/
theorem links_of_stateAfter {state token : Nat} {t : Tree} (hextra : t.extra = false)
    (hlabel : t.label = .token token) (hlost : lore.tables.stateAfter state token ≠ 0)
    (hkept : lore.tables.stateAfter state token ≠ state) :
    lore.Links state t (lore.tables.stateAfter state token) := by
  rw [Tables.stateAfter] at hlost hkept ⊢
  split
  · rename_i hlast
    exact .token hextra hlabel (List.mem_of_getLast? hlast)
  · rename_i hlast
    rw [hlast] at hkept
    exact absurd rfl hkept
  · rename_i h₁ h₂
    split at hlost
    · exact absurd ‹_› (h₁ _ _)
    · exact absurd ‹_› h₂
    · exact absurd rfl hlost

/-- Inserting a missing token adds versions at most, behind those that were there. -/
theorem ensures_insertMissing {v : Nat} {c : Spot} (h : p.Views lore text w)
    (hv : w[v]? = some (.free c)) (next : Tree) :
    (insertMissing v next).Ensures p fun _ p' => p'.Extends lore text w := by
  have hlore := h.1.holds
  rw [insertMissing]
  refine .grammar (.look ?_)
  rw [h.1.tables, h.state hv]
  split
  · exact .pure h.extends
  · rename_i token _
    refine .bind (.forIn (fun _ p => p.Extends lore text w) (fun _ p => p.Extends lore text w) h.extends ?_
      fun _ _ hp => hp) fun b p hp => ?_
    · rintro missing - b p ⟨others, hp, hothers⟩
      have hextends : p.Extends lore text w := ⟨others, hp, hothers⟩
      dsimp only
      split
      · rename_i htarget
        rw [Bool.and_eq_true, decide_eq_true_eq, decide_eq_true_eq] at htarget
        split
        · rename_i hreduce
          have hmiss : lore.tables.CanMiss c.state missing := ⟨htarget.1, htarget.2, token, _, hreduce⟩
          refine .bind (ensures_copy hp (getElem?_append_of_some hv others)) ?_
          rintro new p ⟨rfl, hp⟩
          refine .bind (ensures_push hp (getElem?_append_cons _ _ _)
            (missingLeaf_fitsAt hlore hmiss lore.tables c.place) (.token rfl)
            (links_of_stateAfter rfl rfl htarget.1 htarget.2)) fun _ p hp => ?_
          rw [set_append_cons] at hp
          -- the copy with the missing leaf stands where the version does, as the leaf takes no text
          have hlength : (w ++ others).length ≤ (w ++ others).length := Nat.le_refl _
          have hp : p.Extends lore text ((w ++ others).set (w ++ others).length (.free c)) := by
            rw [List.set_eq_of_length_le hlength]
            exact ⟨_, hp, forall_map_free [_]⟩
          refine .bind (ensures_reduceAll hp (.inl hlength) ?_) ?_
          · split <;> simp_all
          · rintro shiftable p ⟨q, hp⟩
            rw [List.set_eq_of_length_le hlength] at hp
            split <;> exact .pure (hp.of_append hothers)
        · exact .pure hextends
      · exact .pure hextends
    · dsimp only
      split <;> exact .pure hp

/-- A version that has lost track stays at its place. -/
theorem ensures_pushMark {v : Nat} {c : Spot} (h : p.Views lore text w) (hv : w[v]? = some (.free c)) :
    (onStack (·.push v none 0)).Ensures p fun _ p' => p'.Views lore text (w.set v (.free ⟨c.place, 0⟩)) := by
  obtain ⟨h, rfl⟩ := h
  have hmark := h.stack.pushMark v
  rw [Stack.view_modify_of_some hv] at hmark
  exact ensures_onStack h hmark

/-- A recovery at its start: the version that failed is at its place, the other first ones are as they were,
and there are at least so many versions, of which those behind the first ones wait with nothing. -/
def Failing (lore : Lore) (text : List Char) (w : List Standpoint) (v : Nat) (c : Cursor) (count : Nat)
    (p : Parser) : Prop :=
  ∃ q others, p.Views lore text (w.set v (.free ⟨c, q⟩) ++ others) ∧ (∀ x ∈ others, x.2 = none) ∧
    count ≤ w.length + others.length

section Failing

variable {v i count : Nat} {c : Cursor}

/-- The versions that are dealt with wait with nothing. -/
theorem Failing.exists_free (h : Failing lore text w v c count p) (hv : v < w.length)
    (hi : i = v ∨ w.length ≤ i ∧ i < count) :
    ∃ q others d, p.Views lore text (w.set v (.free ⟨c, q⟩) ++ others) ∧ (∀ x ∈ others, x.2 = none) ∧
      count ≤ w.length + others.length ∧ (w.set v (.free ⟨c, q⟩) ++ others)[i]? = some (.free d) := by
  obtain ⟨q, others, hp, hothers, hcount⟩ := h
  have hlength : (w.set v (.free ⟨c, q⟩)).length = w.length := List.length_set
  rcases hi with rfl | ⟨hfirst, hlast⟩
  · exact ⟨q, others, _, hp, hothers, hcount, getElem?_append_of_some (List.getElem?_set_self hv) others⟩
  · obtain ⟨d, hd⟩ := free_of_length_le hothers (hlength ▸ hfirst) (by rw [List.length_append]; omega)
    exact ⟨q, others, d, hp, hothers, hcount, hd⟩

/-- Inserting a missing token into a version that failed, or into one of the others behind, goes on with the recovery.
-/
theorem Failing.ensures_insertMissing (h : Failing lore text w v c count p) (hv : v < w.length)
    (hi : i = v ∨ w.length ≤ i ∧ i < count) (next : Tree) :
    (insertMissing i next).Ensures p fun _ p' => Failing lore text w v c count p' := by
  obtain ⟨q, others, d, hp, hothers, hcount, hd⟩ := h.exists_free hv hi
  refine (Parser.ensures_insertMissing hp hd next).mono ?_
  rintro _ p ⟨more, hp, hmore⟩
  rw [List.append_assoc] at hp
  exact ⟨q, others ++ more, hp, forall_append_free hothers hmore, by rw [List.length_append]; omega⟩

/-- They stay at their places when they lose track. -/
theorem Failing.ensures_pushMark (h : Failing lore text w v c count p) (hv : v < w.length)
    (hi : i = v ∨ w.length ≤ i ∧ i < count) :
    (onStack (·.push i none 0)).Ensures p fun _ p' => Failing lore text w v c count p' := by
  obtain ⟨q, others, d, hp, hothers, hcount, hd⟩ := h.exists_free hv hi
  have hlength : (w.set v (.free ⟨c, q⟩)).length = w.length := List.length_set
  refine (Parser.ensures_pushMark hp hd).mono fun _ p hp => ?_
  rcases hi with rfl | ⟨hfirst, -⟩
  · have hdc : d = ⟨c, q⟩ := by
      rw [getElem?_append_of_some (List.getElem?_set_self hv)] at hd
      exact congrArg Prod.fst (Option.some.inj hd).symm
    subst hdc
    rw [List.set_append_left _ _ (by omega), List.set_set] at hp
    exact ⟨0, others, hp, hothers, hcount⟩
  · rw [List.set_append_right _ _ (by omega)] at hp
    refine ⟨q, _, hp, fun x hx => ?_, by rw [List.length_set]; omega⟩
    rcases List.mem_or_eq_of_mem_set hx with hx | rfl
    · exact hothers x hx
    · rfl

end Failing

/-- Dealing with a token that no version can use keeps the parser sound. -/
theorem ensures_handleError {v : Nat} {c : Spot} {next : Tree} (h : p.Views lore text w)
    (hv : w[v]? = some (.free c)) (hnext : next.FitsAt lore c.place) :
    (handleError v next).Ensures p fun _ p' => p'.IsSound lore text := by
  obtain ⟨hlt, hget⟩ := List.getElem?_eq_some_iff.mp hv
  rw [handleError]
  refine .look ?_
  rw [← Stack.length_view, h.2]
  have hstart : p.Extends lore text (w.set v (.free c)) := by
    rw [← hget, List.set_getElem_self hlt]
    exact h.extends
  refine .bind (ensures_reduceAll hstart (.inr rfl) nofun) ?_
  rintro _ p ⟨q, others, hp, hothers⟩
  refine .look ?_
  have hcount : p.stack.count = w.length + others.length := by
    rw [← Stack.length_view, hp.2, List.length_append, List.length_set]
  rw [hcount]
  -- the versions that are dealt with are the one that failed and those that reductions added
  have hdealt (i : Nat) (hi : i ∈ v :: (List.range (w.length + others.length)).drop w.length) :
      i = v ∨ w.length ≤ i ∧ i < w.length + others.length := by
    rcases List.mem_cons.mp hi with rfl | hi
    · exact .inl rfl
    · obtain ⟨j, hj, rfl⟩ := List.mem_iff_getElem.mp hi
      rw [List.length_drop, List.length_range] at hj
      rw [List.getElem_drop, List.getElem_range]
      exact .inr ⟨Nat.le_add_right _ _, by omega⟩
  have hfailing : Failing lore text w v c.place (w.length + others.length) p :=
    ⟨q, others, hp, hothers, Nat.le_refl _⟩
  refine .bind (.forIn (fun _ => Failing lore text w v c.place (w.length + others.length))
    (fun _ => Failing lore text w v c.place (w.length + others.length)) hfailing ?_ fun _ _ hp => hp) ?_
  · intro i hi inserted p hp
    have hi := hdealt i hi
    dsimp only
    split
    · refine .bind (hp.ensures_insertMissing hlt hi next) fun inserted p hp => ?_
      exact .bind (hp.ensures_pushMark hlt hi) fun _ p hp => .pure hp
    · exact .bind (hp.ensures_pushMark hlt hi) fun _ p hp => .pure hp
  · rintro _ p ⟨q, others, hp, hothers, -⟩
    have hlength : (w.set v (.free ⟨c.place, q⟩)).length ≤ w.length := Nat.le_of_eq List.length_set
    refine .bind (.forIn_range (fun _ p => p.Extends lore text (w.set v (.free ⟨c.place, q⟩)))
      (fun _ p => p.Extends lore text (w.set v (.free ⟨c.place, q⟩))) ⟨others, hp, hothers⟩
      (fun _ _ _ _ p hp => ?_) fun _ _ hp => hp) ?_
    · exact .bind (hp.ensures_merge hlength v) fun _ p hp => .pure hp
    · rintro _ p ⟨others, hp, -⟩
      -- whatever was merged, the version that failed is still where it was
      have htrail := hp.1.stack.recordTrail v
      rw [hp.2] at htrail
      refine .bind (ensures_onStack hp.1 htrail) fun _ p hp =>
        ensures_recover hp (getElem?_append_of_some (List.getElem?_set_self hlt) others) hnext

end Parser

end Overdue.Syntax
