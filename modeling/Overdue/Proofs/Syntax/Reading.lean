/-
The parser stays in the text.

A version that goes on reads its next token at the place where it stands, and uses it there. So the parser is
sound after every round (`ensures_run`), and the tree of a text fits at its start, with everything that is
known of tokens and rules (`parseTree_fitsAt`). Where nothing need be known, that is so whatever the tables
are, and the tree takes no more than the text (`span_parseTree_le`).

That a rule which begins with a mark is marked as one that may stand anywhere needs one more thing: such a rule
is only complete where no token is looked for. So no token is ever used in such a state (`Usable`), since a token
is read in the state where it is used, or in one from which no reduction leads there.
-/
import Overdue.Proofs.Syntax.Recovery

set_option autoImplicit false

namespace Overdue.Syntax

variable {lore : Lore}

namespace Parser

open Parse

variable {text : List Char} {w : List Standpoint} {p : Parser}

/-! ## Advancing -/

/-- A token can be used at a spot: it fits there, and no rule that begins with a mark is complete there. -/
structure Usable (lore : Lore) (c : Spot) (t : Tree) : Prop where
  fits : t.FitsAt lore c.place
  opened : ¬lore.Closes c.state

theorem label_of_token? {t : Tree} {token : Nat} (h : t.token? = some token) : t.label = .token token := by
  rw [Tree.token?] at h
  split at h
  · cases h
    assumption
  · cases h

/-- An action for a token is one of the state for the number of the token; only tokens have actions. -/
theorem exists_token_of_actionsFor {tables : Tables} {state : Nat} {t : Tree} {action : Action}
    (h : action ∈ actionsFor tables state (some t)) :
    ∃ token, t.label = .token token ∧ action ∈ actionsOn tables state token := by
  rw [actionsFor] at h
  split at h
  · rename_i token htoken
    exact ⟨token, label_of_token? htoken, h⟩
  · cases h

/-- An action is one of the state for some number, with a token or without. -/
theorem exists_actionsOn {tables : Tables} {state : Nat} {next : Option Tree} {action : Action}
    (h : action ∈ actionsFor tables state next) : ∃ k, action ∈ actionsOn tables state k := by
  cases next with
  | none => exact ⟨0, h⟩
  | some t =>
    obtain ⟨token, -, h⟩ := exists_token_of_actionsFor h
    exact ⟨token, h⟩

/-- Taking a token to a state keeps the parser sound. -/
theorem ensures_shift {v : Nat} {c : Spot} {next : Option Tree} (extra : Bool) (target : Nat)
    (h : p.Views lore text w) (hv : w[v]? = some (.free c))
    (hnext : ∀ t, next = some t → t.FitsAt lore c.place ∧ (∃ token, t.label = .token token) ∧
      lore.Links c.state (t.setExtra extra) target) :
    (shift v next extra target).Ensures p fun _ p' => p'.IsSound lore text := by
  rw [shift.eq_def]
  split
  · exact .pure h.1
  · rename_i token
    obtain ⟨hfit, ⟨number, hlabel⟩, hlinks⟩ := hnext token rfl
    -- the token is opened, so that its label is seen through the change of a flag
    obtain ⟨s, parts⟩ := token
    refine .bind (ensures_push h hv (hfit.setExtra extra) (.token hlabel) hlinks) fun _ p hp => ?_
    exact ensures_remember hp.1 v _

/-- What holds after following actions, by what it came to: unless the token was used, the versions that
were there stand where they stood, and new ones stand where the version does that was followed; a token that
could be used there can be used by them. -/
def Followed.Holds (lore : Lore) (text : List Char) (w : List Standpoint) (c : Spot) (next : Option Tree) :
    Followed → Parser → Prop
  | .done, p => p.IsSound lore text
  | so, p => ∃ states, p.Views lore text (w ++ allAt c.place states) ∧
      (next.isSome → ∀ q ∈ states, ¬lore.Closes q) ∧
      ∀ n, so = .reduced n → w.length ≤ n ∧ n < w.length + states.length

/-- The version that is followed stands where it stood. -/
theorem Followed.Holds.views {so : Followed} {c : Spot} {next : Option Tree} (h : so.Holds lore text w c next p)
    (hso : so ≠ .done) :
    ∃ states, p.Views lore text (w ++ allAt c.place states) ∧ (next.isSome → ∀ q ∈ states, ¬lore.Closes q) ∧
      ∀ n, so = .reduced n → w.length ≤ n ∧ n < w.length + states.length := by
  cases so with
  | done => exact absurd rfl hso
  | reduced n => exact h
  | merged => exact h
  | stuck => exact h

/-- Following the actions for a token keeps what is known of the version. -/
theorem ensures_follow {v : Nat} {c : Spot} {next : Option Tree} (hlore : lore.Holds)
    (hv : w[v]? = some (.free c)) {actions : List Action}
    (hactions : ∀ a ∈ actions, a ∈ actionsFor lore.tables c.state next)
    (hnext : ∀ t, next = some t → Usable lore c t) {so : Followed}
    (h : so.Holds lore text w c next p) (hso : so ≠ .done) :
    (follow v next c.state actions so).Ensures p fun r p' => r.Holds lore text w c next p' := by
  induction actions generalizing p so with
  | nil => exact .pure h
  | cons action rest ih =>
    have haction := hactions action List.mem_cons_self
    have hrest (a : Action) (ha : a ∈ rest) := hactions a (List.mem_cons_of_mem action ha)
    obtain ⟨states, hp, hstates, hreduced⟩ := h.views hso
    have hv' := getElem?_append_of_some hv (allAt c.place states)
    rw [follow.eq_def]
    cases action with
    | shift target repetition =>
      dsimp only
      split
      · -- a shift that only repeats is left to the other actions
        exact ih hrest h hso
      · refine .bind (ensures_shift false target hp hv' fun t ht => ?_) fun _ p hp => .pure hp
        subst ht
        obtain ⟨token, hlabel, hshift⟩ := exists_token_of_actionsFor haction
        obtain ⟨s, parts⟩ := t
        exact ⟨(hnext _ rfl).fits, ⟨token, hlabel⟩, .token rfl hlabel hshift⟩
    | shiftExtra =>
      dsimp only
      refine .bind (ensures_shift true c.state hp hv' fun t ht => ?_) fun _ p hp => .pure hp
      subst ht
      obtain ⟨token, hlabel, -⟩ := exists_token_of_actionsFor haction
      obtain ⟨s, parts⟩ := t
      exact ⟨(hnext _ rfl).fits, ⟨token, hlabel⟩, .extra rfl⟩
    | reduce production =>
      dsimp only
      obtain ⟨k, hreduce⟩ := exists_actionsOn haction
      -- where a token can be used, the rule does not begin with a mark
      have hplain (hsome : next.isSome) : ¬lore.rule (lore.tables.production production).head := by
        obtain ⟨t, rfl⟩ := Option.isSome_iff_exists.mp hsome
        exact fun hr => (hnext t rfl).opened ⟨k, production, hreduce, hr⟩
      have hending (hr : lore.rule (lore.tables.production production).head) : next.isNone = true := by
        cases next with
        | none => rfl
        | some t => exact absurd hr (hplain rfl)
      refine .bind (ensures_reduce hp hv' hreduce hending) ?_
      rintro r p ⟨states', hp, hstates', hr⟩
      rw [List.append_assoc, ← allAt_append] at hp
      rw [List.length_append, length_allAt] at hr
      have hall (hsome : next.isSome) : ∀ q ∈ states ++ states', ¬lore.Closes q := by
        intro q hq
        rcases List.mem_append.mp hq with hq | hq
        · exact hstates hsome q hq
        · exact hstates' (hplain hsome) q hq
      split
      · rename_i new
        obtain ⟨rfl, hlt⟩ := hr new rfl
        refine ih hrest ⟨states ++ states', hp, hall, fun n hn => ?_⟩ nofun
        cases hn
        rw [List.length_append]
        omega
      · rename_i old
        obtain ⟨hlow, hhigh⟩ := hreduced old rfl
        refine ih hrest ⟨states ++ states', hp, hall, fun n hn => ?_⟩ nofun
        cases hn
        rw [List.length_append]
        omega
      · exact ih hrest ⟨states ++ states', hp, hall, nofun⟩ nofun
    | accept =>
      dsimp only
      split
      · obtain ⟨token, hlabel, haccept⟩ := exists_token_of_actionsFor haction
        have hfit := (hnext _ rfl).fits
        refine .bind (ensures_accept hp hv' (.cons hfit (.token hlabel) rfl (.nil _)) fun s trees n hpath => ?_)
          fun _ p hp => .pure hp
        have hplain := hpath.plain fun r hr => hlore.accept _ _ r haccept hr
        exact .concat (fun _ => hplain) fun r p => by rw [hlabel]; exact nofun
      · exact .pure hp.1
    | recover =>
      dsimp only
      split
      · exact .bind (ensures_recover hp hv' (hnext _ rfl).fits) fun _ p hp => .pure hp
      · exact .pure hp.1

/-- Where a token is looked for, no rule that begins with a mark is complete. -/
theorem not_closes_of_ends (hlore : lore.Holds) {state : Nat}
    (h : (lore.tables.rows.getD state default).ends = false) : ¬lore.Closes state := by
  rintro ⟨k, production, haction, hr⟩
  have hends := (hlore.reduce _ _ _ haction hr).2.1
  rw [h] at hends
  cases hends

/-- A search that goes on to a token is not where a rule ends. -/
theorem ends_of_next {s : Search} {tables : Tables} {token : Tree} (h : s.next tables = some token) :
    (tables.rows.getD s.state default).ends = false := by
  rw [Search.next] at h
  dsimp only at h
  split at h
  · cases h
  · rename_i hends
    exact eq_false_of_ne_true hends

theorem ends_of_fits {tables : Tables} {state : Nat} {token : Tree} (h : fits tables state token) :
    (tables.rows.getD state default).ends = false := by
  rw [fits] at h
  split at h
  · cases h
  · dsimp only at h
    split at h
    · cases h
    · rename_i hends
      exact eq_false_of_ne_true hends

/-- The token that is read can be used. -/
theorem ensures_readToken {v : Nat} {c : Spot} (h : p.Views lore text w) (hv : w[v]? = some (.free c)) :
    (readToken v c.state).Ensures p fun next p' => p'.Views lore text w ∧
      ∀ t, next = some t → Usable lore c t := by
  have hplace : (p.stack.top v).place = c.place := h.top_place hv
  rw [readToken]
  refine .get ?_
  dsimp only
  rw [h.1.tables, hplace]
  split
  · rename_i token hnext
    have husable : Usable lore c token :=
      ⟨Search.next_fitsAt h.1.holds hnext, not_closes_of_ends h.1.holds (ends_of_next hnext)⟩
    -- the token is kept with the bytes of the place, which is all that is known of it later
    refine ⟨⟨⟨⟨h.1.holds, rfl, h.1.stack, ?_, h.1.finished⟩, h.2⟩, ?_⟩⟩
    · intro l hl
      cases hl
      exact ⟨c.place, h.isIn hv, rfl, husable.fits⟩
    · intro t ht
      obtain rfl : token = t := Option.some.inj (hnext.symm.trans ht)
      exact husable
  · rename_i hnext
    refine .pure ⟨h, fun t ht => ?_⟩
    rw [hnext] at ht
    cases ht

/-- The last token that was read, if it is taken again, can be used. -/
theorem ensures_lastToken? {v : Nat} {c : Spot} (h : p.Views lore text w) (hv : w[v]? = some (.free c)) :
    (lastToken? v c.state).Ensures p fun next p' => p'.Views lore text w ∧
      ∀ t, next = some t → Usable lore c t := by
  rw [lastToken?]
  refine .get ?_
  split
  · exact .pure ⟨h, nofun⟩
  · rename_i last hlast
    refine .pure ⟨h, fun t ht => ?_⟩
    split at ht
    · rename_i hsame
      cases ht
      -- the token was read at the same number of bytes, so it was read here
      obtain ⟨d, hd, hbytes, hfit⟩ := h.1.last last hlast
      rw [Bool.and_eq_true, Bool.and_eq_true, beq_iff_eq, h.top_place hv, h.1.tables] at hsame
      obtain ⟨⟨hplace, -⟩, hfits⟩ := hsame
      rw [Cursor.eq_of_bytes hd (h.isIn hv) (hbytes.trans hplace)] at hfit
      exact ⟨hfit, not_closes_of_ends h.1.holds (ends_of_fits hfits)⟩
    · cases ht

/-- Giving up on a version keeps the parser sound. -/
theorem ensures_giveUp {v : Nat} {c : Spot} {next : Tree} (h : p.Views lore text w)
    (hv : w[v]? = some (.free c)) (hnext : next.FitsAt lore c.place) (state : Nat) :
    (giveUp v state next).Ensures p fun _ p' => p'.IsSound lore text := by
  rw [giveUp]
  split
  · exact ensures_recover h hv hnext
  · refine (ensures_onStack h.1 ⟨h.1.stack.pause ?_, rfl⟩).mono fun _ _ hp => hp.1
    rw [h.top_place hv]
    exact hnext

/-- A token that is taken as a word fits where it fitted. -/
theorem fitsAt_of_asWord? (hlore : lore.Holds) {state : Nat} {next word : Tree} {c : Cursor}
    (h : next.FitsAt lore c) (hword : asWord? lore.tables state next = some word) : word.FitsAt lore c := by
  rw [asWord?] at hword
  split at hword
  · rename_i token htoken
    split at hword
    · cases hword
      exact h.setToken lore.tables (label_of_token? htoken) (hlore.word token)
    · cases hword
  · cases hword

/-- Using a token keeps the parser sound. -/
theorem ensures_useToken (fuel : Nat) {v : Nat} {c : Spot} {next : Option Tree} (h : p.Views lore text w)
    (hv : w[v]? = some (.free c)) (hnext : ∀ t, next = some t → Usable lore c t) :
    (useToken fuel v next).Ensures p fun _ p' => p'.IsSound lore text := by
  induction fuel generalizing p w c next with
  | zero => exact ensures_halt h.1 v
  | succ fuel ih =>
    have hlore := h.1.holds
    rw [useToken.eq_def]
    refine .look (.grammar ?_)
    rw [h.1.tables, h.state hv]
    have hstuck : Followed.stuck.Holds lore text w c next p := by
      refine ⟨[], by rwa [allAt, List.map_nil, List.append_nil], fun _ state hstate => ?_, fun r hr => ?_⟩
      · cases hstate
      · cases hr
    have hgoes : Followed.stuck ≠ .done := by
      intro hdone
      cases hdone
    refine .bind (ensures_follow hlore hv (fun _ ha => ha) hnext hstuck hgoes) fun r p hp => ?_
    have hlt := (List.getElem?_eq_some_iff.mp hv).1
    cases r with
    | done => exact .pure hp
    | reduced r =>
      obtain ⟨states, hp, hstates, hr⟩ := hp
      obtain ⟨hlow, hhigh⟩ := hr r rfl
      obtain ⟨q, hq, hget⟩ := getElem?_append_allAt (c := c.place) hlow hhigh
      dsimp only
      refine .bind (ensures_renumber hp hget (by omega)) fun _ p hp => ?_
      -- the last version that was reduced takes over the number, and stands at the same place
      have hv : (((w ++ allAt c.place states).set v (.free ⟨c.place, q⟩)).eraseIdx r)[v]? =
          some (.free ⟨c.place, q⟩) := by
        rw [List.getElem?_eraseIdx_of_lt (by omega), List.getElem?_set_self (by rw [List.length_append]; omega)]
      split
      · rename_i token
        exact ih hp hv fun t ht => ⟨(hnext t ht).fits, hstates rfl q hq⟩
      · refine .look ?_
        rw [hp.state hv]
        refine .bind (ensures_readToken hp hv) ?_
        rintro next p ⟨hp, hnext⟩
        exact ih hp hv hnext
    | merged =>
      obtain ⟨states, hp, -⟩ := hp
      exact ensures_halt hp.1 v
    | stuck =>
      obtain ⟨states, hp, -⟩ := hp
      have hv := getElem?_append_of_some hv (allAt c.place states)
      dsimp only
      split
      · exact ensures_halt hp.1 v
      · rename_i token
        have husable := hnext token rfl
        split
        · rename_i word hword
          -- a keyword that is read as a word takes the same text
          refine ih hp hv fun t ht => ?_
          cases ht
          exact ⟨fitsAt_of_asWord? hlore husable.fits hword, husable.opened⟩
        · exact ensures_giveUp hp hv husable.fits _

/-- Advancing a version keeps the parser sound. -/
theorem ensures_advance {v : Nat} {c : Spot} (h : p.Views lore text w) (hv : w[v]? = some (.free c)) (fuel : Nat) :
    (advance fuel v).Ensures p fun _ p' => p'.IsSound lore text := by
  rw [advance]
  refine .look ?_
  rw [h.state hv]
  refine .bind (ensures_lastToken? h hv) ?_
  rintro last p ⟨hp, hlast⟩
  split
  · exact ensures_useToken fuel hp hv hlast
  · refine .bind (ensures_readToken hp hv) ?_
    rintro next p ⟨hp, hnext⟩
    exact ensures_useToken fuel hp hv hnext

/-! ## Rounds -/

/-- A version that is active is free. -/
theorem free_of_isActive {s : Stack} {v : Nat} (h : s.isActive v) :
    s.view[v]? = some (.free (s.top v).spot) := by
  rw [Stack.isActive] at h
  split at h
  · rename_i x hv
    refine (Stack.getElem?_view s v).trans ?_
    rw [hv, Option.map_some, Stack.standpoint, Stack.top, Stack.version, Array.getD_eq_getD_getElem?, hv]
    rfl
  · cases h

/-- Advancing a version past the last token keeps the parser sound. -/
theorem ensures_advancePast (h : p.IsSound lore text) (bound fuel v last : Nat) :
    (advancePast bound fuel v last).Ensures p fun _ p' => p'.IsSound lore text := by
  induction fuel generalizing p with
  | zero => exact .pure h
  | succ fuel ih =>
    rw [advancePast]
    refine .look ?_
    split
    · exact .pure h
    · rename_i hactive
      rw [Bool.not_eq_true', Bool.not_eq_false] at hactive
      refine .bind (ensures_advance ⟨h, rfl⟩ (free_of_isActive hactive) bound) fun _ p hp => .look ?_
      dsimp only
      split
      · exact .pure hp
      · exact ih hp

/-- Advancing all versions keeps the parser sound. -/
theorem ensures_advanceAll (h : p.IsSound lore text) (bound fuel v last : Nat) :
    (advanceAll bound fuel v last).Ensures p fun _ p' => p'.IsSound lore text := by
  induction fuel generalizing p v last with
  | zero => exact .pure h
  | succ fuel ih =>
    rw [advanceAll]
    refine .look ?_
    split
    · exact .pure h
    · exact .bind (ensures_advancePast h bound bound v last) fun last p hp => ih hp (v + 1) last

/-- Merging versions keeps the parser sound. -/
theorem ensures_merge_sound (h : p.IsSound lore text) (j v : Nat) :
    (fromStack (·.merge j v)).Ensures p fun _ p' => p'.IsSound lore text :=
  ensures_fromStack h (h.stack.merge j v).1 fun _ hp => hp.1

theorem ensures_swap (h : p.IsSound lore text) (v w : Nat) :
    (onStack (·.swap v w)).Ensures p fun _ p' => p'.IsSound lore text :=
  (ensures_onStack h ⟨h.stack.swap v w, rfl⟩).mono fun _ _ hp => hp.1

theorem ensures_rank (h : p.IsSound lore text) (b : Standing) (fuel i j : Nat) :
    (rank b fuel i j).Ensures p fun _ p' => p'.IsSound lore text := by
  induction fuel generalizing p i j with
  | zero => exact .pure h
  | succ fuel ih =>
    rw [rank]
    split
    · exact .pure h
    · refine .bind (ensures_standing ⟨h, rfl⟩ j) fun a p hp => ?_
      split
      · exact .bind (ensures_remove_sound hp.1 i) fun _ p hp => .pure hp
      · refine .bind (ensures_merge_sound hp.1 j i) fun merged p hp => ?_
        split
        · exact .pure hp
        · exact ih hp i (j + 1)
      · refine .bind (ensures_merge_sound hp.1 j i) fun merged p hp => ?_
        split
        · exact .pure hp
        · exact ih hp i (j + 1)
      · refine .bind (ensures_merge_sound hp.1 j i) fun merged p hp => ?_
        split
        · exact .pure hp
        · exact .bind (ensures_swap hp i j) fun _ p hp => ih hp i (j + 1)
      · exact .bind (ensures_remove_sound hp.1 j) fun _ p hp => ih hp (i - 1) j

/-- Condensing the versions keeps the parser sound. -/
theorem ensures_condense (h : p.IsSound lore text) (fuel i : Nat) (least : Option Nat) :
    (condense fuel i least).Ensures p fun _ p' => p'.IsSound lore text := by
  induction fuel generalizing p i least with
  | zero => exact .pure h
  | succ fuel ih =>
    rw [condense]
    refine .look ?_
    split
    · exact .pure h
    · refine .look ?_
      split
      · exact .bind (ensures_remove_sound h i) fun _ p hp => ih hp i least
      · refine .bind (ensures_standing ⟨h, rfl⟩ i) fun s p hp => ?_
        refine .bind (ensures_rank hp.1 s (fuel + 1) i 0) ?_
        rintro ⟨i, gone⟩ p hp
        exact ih hp _ _

/-- Resuming a version keeps the parser sound, and the token that it waited for fits. -/
theorem ensures_resume (h : p.IsSound lore text) (v : Nat) :
    (fromStack (·.resume v)).Ensures p fun next p' => p'.IsSound lore text ∧
      ∀ t, next = some t → ∃ c : Spot, p'.stack.view[v]? = some (.free c) ∧ t.FitsAt lore c.place := by
  obtain ⟨hsound, hview, hresult⟩ := h.stack.resume v
  refine ensures_fromStack h hsound fun p' hp' => ⟨hp'.1, fun t ht => ?_⟩
  obtain ⟨c, hc⟩ := hresult t ht
  refine ⟨c, ?_, h.stack.waits (c, some t) (List.mem_of_getElem? hc) t rfl⟩
  rw [hp'.2, hview, Stack.view_modify_of_some hc]
  exact List.getElem?_set_self (List.getElem?_eq_some_iff.mp hc).1

/-- Resuming versions that wait keeps the parser sound. -/
theorem ensures_resumePaused (h : p.IsSound lore text) (fuel count i : Nat) (goesOn : Bool) (least : Option Nat) :
    (resumePaused fuel count i goesOn least).Ensures p fun _ p' => p'.IsSound lore text := by
  induction fuel generalizing p count i goesOn least with
  | zero => exact .pure h
  | succ fuel ih =>
    rw [resumePaused]
    split
    · exact .pure h
    · refine .look ?_
      split
      · refine .get ?_
        split
        · refine .look (.bind (ensures_resume h i) ?_)
          rintro next p ⟨hp, hnext⟩
          split
          · obtain ⟨c, hc, hfit⟩ := hnext _ rfl
            exact .bind (ensures_handleError ⟨hp, rfl⟩ hc hfit) fun _ p hp => ih hp _ _ _ _
          · exact ih hp _ _ _ _
        · exact .bind (ensures_remove_sound h i) fun _ p hp => ih hp _ _ _ _
      · exact ih h _ _ _ _

/-- Reading on keeps the parser sound. -/
theorem ensures_run (h : p.IsSound lore text) (bound fuel last : Nat) :
    (run bound fuel last).Ensures p fun _ p' => p'.IsSound lore text := by
  induction fuel generalizing p last with
  | zero => exact .pure h
  | succ fuel ih =>
    rw [run]
    refine .bind (ensures_advanceAll h bound bound 0 last) fun last p hp => ?_
    refine .bind (ensures_condense hp bound 0 none) fun least p hp => .look ?_
    refine .bind (.forIn (fun _ p => p.IsSound lore text) (fun _ p => p.IsSound lore text) hp
      (fun _ _ _ p hp => ?_) fun _ _ hp => hp) fun _ p hp => .look ?_
    · exact .bind (ensures_remove_sound hp maxVersions) fun _ p hp => .pure hp
    · refine .bind (ensures_resumePaused hp _ _ 0 false least) fun least p hp => .get ?_
      -- the three ways to go on to the next round share their proof
      have hrest : Parse.Ensures (do
          if (← look (·.count)) = 0 then return ()
          run bound fuel last) p fun _ p' => p'.IsSound lore text := by
        refine .look ?_
        split
        · exact .pure hp
        · exact ih hp last
      dsimp only
      split
      · split
        · split
          · exact .pure hp
          · exact hrest
        · exact .pure hp
      · exact hrest

end Parser

/-- A tree for a text fits at the start of the text, and what is known of trees holds of it. -/
theorem parseTree_fitsAt (hlore : lore.Holds) {text : List Char} {tree : Tree}
    (h : parseTree lore.tables text = some tree) : tree.FitsAt lore (Cursor.atStart text) := by
  have hstart : Parser.IsSound lore text
      { tables := lore.tables, stack := Stack.start text, last := none, finished := none, accepted := 0 } :=
    ⟨hlore, rfl, Stack.isSound_start text, nofun, nofun⟩
  exact (Parser.ensures_run hstart _ _ 0).holds.finished tree h

/-- That nothing is known of the trees that are made with tables. -/
def Tables.unknown (t : Tables) : Lore where
  tables := t
  spelled _ _ := True
  mark _ := False
  rule _ := False
  depth _ := none

/-- Of tables of which nothing is known, all that is known holds. -/
theorem Tables.unknown_holds (t : Tables) : t.unknown.Holds where
  lost := rfl
  done := rfl
  shift _ _ _ _ _ _ hdepth := nomatch hdepth
  goto _ _ _ _ hdepth := nomatch hdepth
  reduce _ _ _ _ hr := hr.elim
  back _ _ hr := hr.elim
  closes _ _ _ := fun ⟨_, _, _, hr⟩ => hr
  accept _ _ _ _ hr := hr.elim
  next _ _ _ _ _ := trivial
  word _ _ _ := trivial
  missing _ _ _ := trivial

/-- A tree for a text takes no more than the text, whatever the tables are. -/
theorem span_parseTree_le {tables : Tables} {text : List Char} {tree : Tree}
    (h : parseTree tables text = some tree) : tree.span ≤ (Extent.ofChars text).bytes := by
  have hfits := parseTree_fitsAt tables.unknown_holds h
  have hend := Tree.FitsAt.isIn tree hfits (Cursor.isIn_atStart text)
  have hbytes : ((Cursor.atStart text).advance tree.total).bytes = tree.total.bytes := Nat.zero_add _
  rw [Tree.FitsAt.span_eq tree hfits, ← hbytes]
  exact hend.bytes_le

end Overdue.Syntax
