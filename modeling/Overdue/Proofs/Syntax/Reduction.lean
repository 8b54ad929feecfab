/-
Reductions, and what they make of the places where versions stand.

The parser works on a state, so what one of its steps does is said by what holds after it
(`Parse.Ensures`): a small calculus of such statements, one rule for each way to put steps together, takes
the place of running them. A loop has a rule of its own, with an invariant that may speak of what is left to
go through.

Each step is then given by what it makes of the view of the stack, as far as the steps after it need to
know: a reduction adds versions at the place where the version stands that is reduced (`ensures_reduce`), and
making all reductions adds versions somewhere (`ensures_reduceAll`), and neither touches the versions that
were there. A complete tree fits at the start of the text, since its parts lead from there.
-/
import Overdue.Proofs.Syntax.Stack

set_option autoImplicit false

namespace Overdue.Syntax

/-! ## Steps and what they ensure -/

/-- What holds of the result of a step, and of the parser after it. -/
structure Parse.Ensures {α : Type} (x : Parse α) (p : Parser) (post : α → Parser → Prop) : Prop where
  holds : post (x.run p).1 (x.run p).2

namespace Parse.Ensures

variable {α β : Type} {p : Parser} {post mid : α → Parser → Prop}

theorem pure {a : α} (h : post a p) : Parse.Ensures (Pure.pure a) p post := ⟨h⟩

/-- What a step ensures may be used by the steps behind it. -/
theorem bind {x : Parse α} {f : α → Parse β} {post : β → Parser → Prop} (hx : x.Ensures p mid)
    (hf : ∀ a p', mid a p' → (f a).Ensures p' post) : Parse.Ensures (x >>= f) p post :=
  ⟨(hf _ _ hx.holds).holds⟩

theorem get {f : Parser → Parse α} (h : (f p).Ensures p post) :
    Parse.Ensures (MonadState.get >>= f) p post := ⟨h.holds⟩

theorem look {g : Stack → β} {f : β → Parse α} (h : (f (g p.stack)).Ensures p post) :
    Parse.Ensures (Parser.look g >>= f) p post := ⟨h.holds⟩

/-- A step may look up the tables. -/
theorem grammar {f : Tables → Parse α} (h : (f p.tables).Ensures p post) :
    Parse.Ensures (Parser.grammar >>= f) p post := ⟨h.holds⟩

/-- What a step ensures it may ensure in weaker terms. -/
theorem mono {x : Parse α} (hx : x.Ensures p mid) (h : ∀ a p', mid a p' → post a p') : x.Ensures p post :=
  ⟨h _ _ hx.holds⟩

/-- What a round of a loop comes to: it goes on with an invariant, or ends with what holds at its end. -/
def round (inv fin : β → Parser → Prop) : ForInStep β → Parser → Prop
  | .yield b, p => inv b p
  | .done b, p => fin b p

/-- A loop whose invariant speaks of what is left to go through. -/
theorem forIn_rest {γ : Type} {xs : List γ} {b : β} {f : γ → β → Parse (ForInStep β)}
    (inv : List γ → β → Parser → Prop) (fin : β → Parser → Prop) (h : inv xs b p)
    (hstep : ∀ x xs b p, inv (x :: xs) b p → (f x b).Ensures p (round (inv xs) fin))
    (hfin : ∀ b p, inv [] b p → fin b p) : Parse.Ensures (ForIn.forIn xs b f) p fin := by
  induction xs generalizing b p with
  | nil => exact ⟨hfin b p h⟩
  | cons x xs ih =>
    rw [List.forIn_cons]
    refine bind (hstep x xs b p h) fun r p' hr => ?_
    cases r with
    | done b' => exact pure hr
    | yield b' => exact ih hr

/-- A loop that keeps an invariant from one round to the next. -/
theorem forIn {γ : Type} {xs : List γ} {b : β} {f : γ → β → Parse (ForInStep β)}
    (inv fin : β → Parser → Prop) (h : inv b p)
    (hstep : ∀ x ∈ xs, ∀ b p, inv b p → (f x b).Ensures p (round inv fin))
    (hfin : ∀ b p, inv b p → fin b p) : Parse.Ensures (ForIn.forIn xs b f) p fin := by
  refine forIn_rest (fun rest b p => (∀ x ∈ rest, x ∈ xs) ∧ inv b p) fin ⟨fun _ hx => hx, h⟩ ?_
    fun b p hp => hfin b p hp.2
  rintro x rest b p ⟨hrest, hp⟩
  refine mono (hstep x (hrest x List.mem_cons_self) b p hp) fun r p' hr => ?_
  cases r with
  | done b' => exact hr
  | yield b' => exact ⟨fun y hy => hrest y (List.mem_cons_of_mem x hy), hr⟩

/-- A loop over numbers that keeps an invariant. -/
theorem forIn_range {first last : Nat} {b : β} {f : Nat → β → Parse (ForInStep β)}
    (inv fin : β → Parser → Prop) (h : inv b p)
    (hstep : ∀ i, first ≤ i → i < last → ∀ b p, inv b p → (f i b).Ensures p (round inv fin))
    (hfin : ∀ b p, inv b p → fin b p) : Parse.Ensures (ForIn.forIn [first:last] b f) p fin := by
  rw [Std.Legacy.Range.forIn_eq_forIn_range']
  refine forIn inv fin h (fun i hi => ?_) hfin
  rw [List.mem_range'_1, Std.Legacy.Range.size] at hi
  dsimp only at hi
  exact hstep i (by omega) (by omega)

end Parse.Ensures

/-! ## Sound parsers -/

namespace Parser

open Parse

/-- What is known of trees holds with the tables of the parser, its stack is sound, the token that was read last
fits where it was read, and a complete tree fits at the start of the text. -/
structure IsSound (lore : Lore) (text : List Char) (p : Parser) : Prop where
  holds : lore.Holds
  tables : p.tables = lore.tables
  stack : p.stack.IsSound lore text
  last : ∀ l, p.last = some l → ∃ c, c.IsIn text ∧ c.bytes = l.bytes ∧ l.token.FitsAt lore c
  finished : ∀ t, p.finished = some t → t.FitsAt lore (Cursor.atStart text)

/-- A sound parser whose versions stand at given places, in given states. -/
def Views (lore : Lore) (text : List Char) (w : List Standpoint) (p : Parser) : Prop :=
  p.IsSound lore text ∧ p.stack.view = w

variable {lore : Lore} {text : List Char} {w : List Standpoint} {p : Parser}

/-- A sound parser stays so with another sound stack. -/
theorem IsSound.withStack (h : p.IsSound lore text) {s : Stack} (hs : s.IsSound lore text) :
    IsSound lore text { p with stack := s } := ⟨h.holds, h.tables, hs, h.last, h.finished⟩

/-- Changing the stack changes what is viewed as the stack does. -/
theorem ensures_onStack {f : Stack → Stack} (h : p.IsSound lore text)
    (hf : (f p.stack).IsSound lore text ∧ (f p.stack).view = w) :
    (onStack f).Ensures p fun _ p' => p'.Views lore text w :=
  ⟨h.withStack hf.1, hf.2⟩

/-- Changing the stack with a result ensures what holds of the result and of all parsers with the new view. -/
theorem ensures_fromStack {α : Type} {f : Stack → α × Stack} {post : α → Parser → Prop}
    (h : p.IsSound lore text) (hf : (f p.stack).2.IsSound lore text)
    (hpost : ∀ p' : Parser, p'.Views lore text (f p.stack).2.view → post (f p.stack).1 p') :
    (fromStack f).Ensures p post :=
  ⟨hpost _ ⟨h.withStack hf, rfl⟩⟩

/-- A version stands where the view says. -/
theorem Views.top_spot (h : p.Views lore text w) {v : Nat} {x : Standpoint} (hv : w[v]? = some x) :
    (p.stack.top v).spot = x.1 := Stack.top_of_view (h.2 ▸ hv)

theorem Views.top_place (h : p.Views lore text w) {v : Nat} {x : Standpoint} (hv : w[v]? = some x) :
    (p.stack.top v).place = x.1.place := congrArg Spot.place (h.top_spot hv)

theorem Views.state (h : p.Views lore text w) {v : Nat} {x : Standpoint} (hv : w[v]? = some x) :
    p.stack.state v = x.1.state := congrArg Spot.state (h.top_spot hv)

/-- A version stands in the text. -/
theorem Views.isIn (h : p.Views lore text w) {v : Nat} {x : Standpoint} (hv : w[v]? = some x) :
    x.1.place.IsIn text := h.top_place hv ▸ Stack.top_isIn h.1.stack v

/-! ## Comparing and merging versions -/

/-- A change of the stack that keeps it sound and keeps its view keeps the view of the parser. -/
theorem Views.fromStack_same {α : Type} {f : Stack → α × Stack} (h : p.Views lore text w)
    (hf : ∀ s : Stack, s.IsSound lore text → (f s).2.IsSound lore text ∧ (f s).2.view = s.view) :
    (fromStack f).Ensures p fun _ p' => p'.Views lore text w := by
  obtain ⟨h, rfl⟩ := h
  obtain ⟨hsound, hview⟩ := hf p.stack h.stack
  exact ensures_fromStack h hsound fun p' hp' => hview ▸ hp'

/-- Finding out how a version stands keeps the view. -/
theorem ensures_standing (h : p.Views lore text w) (v : Nat) :
    (standing v).Ensures p fun _ p' => p'.Views lore text w :=
  .bind (h.fromStack_same fun _ hs => hs.nodesSinceError v) fun _ _ hp => .get (.pure hp)

/-- Finding out whether there is a better version keeps the view. -/
theorem ensures_betterExists (h : p.Views lore text w) (v : Nat) (inError : Bool) (cost : Nat) :
    (betterExists v inError cost).Ensures p fun _ p' => p'.Views lore text w := by
  rw [betterExists]
  refine .get ?_
  -- both ways on from here run the same loop over the other versions
  extract_lets rest
  have hrest : (rest ()).Ensures p fun _ p' => p'.Views lore text w := by
    refine .bind (h.fromStack_same fun _ hs => hs.nodesSinceError v) fun nodes p' hp => .get ?_
    refine .bind (.forIn_range (fun _ p => p.Views lore text w) (fun _ p => p.Views lore text w) hp
      (fun i _ _ b p hp => .get ?_) fun _ _ hp => hp) fun b p' hp => ?_
    · dsimp only
      split
      · refine .bind (ensures_standing hp i) fun other p' hp => ?_
        split
        · exact .pure hp
        · refine .get ?_
          split <;> exact .pure hp
        · exact .pure hp
      · exact .pure hp
    · dsimp only
      split <;> exact .pure hp
  split
  · split
    · exact .pure h
    · exact hrest
  · exact hrest

/-- A version is merged into another one, and gone, or all stays as it is. -/
theorem ensures_merge (h : p.Views lore text w) (j v : Nat) :
    (fromStack (·.merge j v)).Ensures p fun r p' => p'.Views lore text (if r then w.eraseIdx v else w) := by
  obtain ⟨h, rfl⟩ := h
  obtain ⟨hsound, hview⟩ := h.stack.merge j v
  exact ensures_fromStack h hsound fun p' hp' => hview ▸ hp'

/-- A round of a loop that ends with the first version into which another one can be merged. -/
theorem ensures_mergeRound (h : p.Views lore text w) (j v : Nat) :
    Parse.Ensures (do
      if ← fromStack (·.merge j v) then return ForInStep.done (some true, ())
      else return ForInStep.yield (none, ())) p
      (Ensures.round (fun b p => b.1 = none ∧ p.Views lore text w)
        fun b p => b.1 = some true ∧ p.Views lore text (w.eraseIdx v)) := by
  refine .bind (ensures_merge h j v) fun r p' hp => ?_
  cases r with
  | true => exact .pure ⟨rfl, hp⟩
  | false => exact .pure ⟨rfl, hp⟩

/-- Such a loop removes the version, or leaves all as it is. -/
theorem ensures_mergeLoop {first v : Nat} {f : Nat → Option Bool × Unit → Parse (ForInStep (Option Bool × Unit))}
    (h : p.Views lore text w)
    (hround : ∀ j b p, p.Views lore text w → (f j b).Ensures p
      (Ensures.round (fun b p => b.1 = none ∧ p.Views lore text w)
        fun b p => b.1 = some true ∧ p.Views lore text (w.eraseIdx v))) :
    Parse.Ensures (forIn [first:v] (none, ()) f) p fun b p' =>
      p'.Views lore text (if b.1.getD false then w.eraseIdx v else w) ∧ (b.1.getD false → first < v) := by
  refine .forIn_range (fun b p => b.1 = none ∧ p.Views lore text w) _ ⟨rfl, h⟩ (fun j hj hjv b p hp => ?_)
    fun b p hp => ?_
  · refine (hround j b p hp.2).mono fun r p' hr => ?_
    cases r with
    | yield b => exact hr
    | done b =>
      obtain ⟨hb, hp'⟩ := hr
      have hlt : first < v := Nat.lt_of_le_of_lt hj hjv
      rw [Ensures.round, hb]
      exact ⟨hp', fun _ => hlt⟩
  · rw [hp.1]
    exact ⟨hp.2, nofun⟩

/-- Merging a version into an earlier one removes it, or changes nothing that is viewed. -/
theorem ensures_mergeIntoEarlier (h : p.Views lore text w) (v new : Nat) :
    (mergeIntoEarlier v new).Ensures p fun r p' => p'.Views lore text (if r then w.eraseIdx new else w) := by
  rw [mergeIntoEarlier]
  refine .bind (ensures_mergeLoop h fun j b p hp => ?_) fun b p hp => ?_
  · split
    · exact ensures_mergeRound hp j new
    · exact .pure ⟨rfl, hp⟩
  · dsimp only
    split <;> rename_i hb <;> rw [hb] at hp <;> exact .pure hp.1

/-- Merging a version into one of several removes it, or changes nothing that is viewed. -/
theorem ensures_mergeFrom (h : p.Views lore text w) (first v : Nat) :
    (mergeFrom first v).Ensures p fun r p' =>
      p'.Views lore text (if r then w.eraseIdx v else w) ∧ (r → first < v) := by
  rw [mergeFrom]
  refine .bind (ensures_mergeLoop h fun j b p hp => ensures_mergeRound hp j v) fun b p hp => ?_
  dsimp only
  split <;> rename_i hb <;> rw [hb] at hp <;> exact .pure hp

/-! ## Reducing -/

/-- Removing a version removes it from the view. -/
theorem ensures_remove (h : p.Views lore text w) (v : Nat) :
    (onStack (·.remove v)).Ensures p fun _ p' => p'.Views lore text (w.eraseIdx v) := by
  obtain ⟨h, rfl⟩ := h
  exact ensures_onStack h (h.stack.remove v)

/-- Pushing a tree that fits moves a version on over it, to the state that it leads to. -/
theorem ensures_push {v : Nat} {c : Spot} {t : Tree} {state : Nat} (h : p.Views lore text w)
    (hv : w[v]? = some (.free c)) (ht : t.FitsAt lore c.place) (hu : t.Unwraps)
    (hlinks : lore.Links c.state t state) :
    (onStack (·.push v (some t) state)).Ensures p fun _ p' =>
      p'.Views lore text (w.set v (.free ⟨c.place.advance t.total, state⟩)) := by
  obtain ⟨h, rfl⟩ := h
  exact ensures_onStack h (h.stack.push hv ht hu hlinks)

/-- Trees that are pushed one after the other with the same state move a version on over them. -/
theorem ensures_pushAll {v : Nat} {c : Spot} {d : Cursor} {trees : List Tree} {state : Nat}
    (h : p.Views lore text w) (hv : w[v]? = some (.free c)) (htrees : Stack.Leads lore c.place trees d)
    (hlinks : ∀ t ∈ trees, lore.Links c.state t state ∧ lore.Links state t state) :
    Parse.Ensures (forIn trees PUnit.unit fun tree _ => do
      onStack (·.push v (some tree) state)
      return ForInStep.yield PUnit.unit) p fun _ p' => ∃ q, p'.Views lore text (w.set v (.free ⟨d, q⟩)) ∧
        (q = c.state ∨ q = state) := by
  obtain ⟨hlt, hget⟩ := List.getElem?_eq_some_iff.mp hv
  -- what is left of the trees leads on from where the version stands by now
  refine .forIn_rest (fun rest _ p => ∃ b : Spot, p.Views lore text (w.set v (.free b)) ∧
    Stack.Leads lore b.place rest d ∧ (b.state = c.state ∨ b.state = state) ∧ ∀ t ∈ rest, t ∈ trees) _
    ⟨c, ?_, htrees, .inl rfl, fun _ ht => ht⟩ ?_ ?_
  · rw [← hget, List.set_getElem_self hlt]
    exact h
  · rintro t rest _ p ⟨b, hp, hleads, hstate, hrest⟩
    obtain ⟨hfit, hunwrap, hleads⟩ := hleads.of_cons
    have hlink : lore.Links b.state t state := by
      obtain ⟨hfirst, hlater⟩ := hlinks t (hrest t List.mem_cons_self)
      rcases hstate with hstate | hstate
      · rw [hstate]
        exact hfirst
      · rw [hstate]
        exact hlater
    refine .bind (ensures_push hp (List.getElem?_set_self hlt) hfit hunwrap hlink) fun _ p' hp => .pure ?_
    rw [List.set_set] at hp
    exact ⟨_, hp, hleads, .inr rfl, fun u hu => hrest u (List.mem_cons_of_mem t hu)⟩
  · rintro _ p ⟨b, hp, hleads, hstate, -⟩
    have hbd : b.place = d := hleads.arrive
    rw [← hbd]
    exact ⟨b.state, hp, hstate⟩

/-- What is popped leads up to where the version stands, from where the new versions do. -/
theorem ensures_popCount {v : Nat} {x : Standpoint} (h : p.Views lore text w) (hv : w[v]? = some x)
    (n : Nat) :
    (fromStack (·.popCount v n)).Ensures p fun slices p' => ∃ spots,
      p'.Views lore text (w ++ spots.map .free) ∧
        Stack.AreSlices (Stack.Pops lore n x.1) w.length spots slices := by
  have hspot := h.top_spot hv
  obtain ⟨h, rfl⟩ := h
  obtain ⟨hsound, spots, hview, hslices⟩ := h.stack.popCount v n
  rw [hspot] at hslices
  exact ensures_fromStack h hsound fun p' hp' => ⟨spots, hview ▸ hp', hslices⟩

/-- What is popped when everything is leads up there from the start of the text. -/
theorem ensures_popAll {v : Nat} {x : Standpoint} (h : p.Views lore text w) (hv : w[v]? = some x) :
    (fromStack (·.popAll v)).Ensures p fun slices p' =>
      (∃ spots : List Spot, p'.Views lore text (w ++ spots.map .free)) ∧
      ∀ y ∈ slices, ∀ trees ∈ y.2, Stack.Leads lore (Cursor.atStart text) trees x.1.place ∧
        ∃ c n, lore.Path x.1.state c trees n := by
  have hplace := h.top_place hv
  have hstate := h.state hv
  obtain ⟨h, rfl⟩ := h
  obtain ⟨hsound, ⟨spots, hview⟩, hslices⟩ := h.stack.popAll v
  rw [hplace, show (p.stack.top v).state = x.1.state from hstate] at hslices
  exact ensures_fromStack h hsound fun p' hp' => ⟨⟨spots, hview ▸ hp'⟩, hslices⟩

/-- Trees that are put together lead over the same text as before. -/
theorem leads_build {c d : Cursor} {trees : List Tree} (h : Stack.Leads lore c trees d) (tables : Tables)
    (label : Label) (hlabel : ∀ token, label ≠ .token token) (hopens : label.Opens lore trees) (extra : Bool) :
    (Tree.build tables label extra trees).FitsAt lore c ∧ (Tree.build tables label extra trees).Unwraps ∧
    c.advance (Tree.build tables label extra trees).total = d := by
  have htotals : Tree.totals (Tree.build tables label extra trees).parts =
      (Tree.build tables label extra trees).total := by
    rw [Tree.total_build, Tree.parts_build]
  refine ⟨h.fit.build tables label hlabel hopens extra, ?_, ?_⟩
  · by_cases herror : (Tree.build tables label extra trees).label = .error
    · exact .error htotals h.unwrap
    · exact .plain herror htotals
  · rw [Tree.total_build]
    exact h.arrive

/-- So do they when those at the end that may stand anywhere are left out. -/
theorem leads_build_split {c d : Cursor} {trees : List Tree} (h : Stack.Leads lore c trees d) (tables : Tables)
    (label : Label) (hlabel : ∀ token, label ≠ .token token)
    (hopens : label.Opens lore (Tree.splitTrailingExtras trees).1) (extra : Bool) :
    Stack.Leads lore c (Tree.build tables label extra (Tree.splitTrailingExtras trees).1 ::
      (Tree.splitTrailingExtras trees).2) d := by
  rw [← Tree.splitTrailingExtras_append trees, Stack.leads_append] at h
  obtain ⟨b, hchildren, htrailing⟩ := h
  obtain ⟨hfit, hunwraps, harrive⟩ := leads_build hchildren tables label hlabel hopens extra
  exact .cons hfit hunwraps harrive htrailing

section Slots

variable {α : Type} (xs ys : List α) (x y : α)

theorem getElem?_append_cons : (xs ++ x :: ys)[xs.length]? = some x := by
  rw [List.getElem?_append_right (Nat.le_refl _), Nat.sub_self, List.getElem?_cons_zero]

theorem set_append_cons : (xs ++ x :: ys).set xs.length y = xs ++ y :: ys := by
  rw [List.set_append_right _ _ (Nat.le_refl _), Nat.sub_self, List.set_cons_zero]

theorem eraseIdx_append_cons : (xs ++ x :: ys).eraseIdx xs.length = xs ++ ys := by
  rw [List.eraseIdx_append_of_length_le (Nat.le_refl _), Nat.sub_self, List.eraseIdx_cons_zero]

end Slots

/-- Whether a tree gives back its text is a matter of its label, its parts and its extent. -/
theorem unwraps_congr {t t' : Tree} (h : t.Unwraps) (hlabel : t'.label = t.label)
    (hparts : t'.parts = t.parts) (htotal : t'.total = t.total) : t'.Unwraps := by
  cases h with
  | token htoken => exact .token (hlabel.trans htoken)
  | plain hplain htotals => exact .plain (hlabel ▸ hplain) (by rw [hparts, htotal, htotals])
  | error htotals hall => exact .error (by rw [hparts, htotal, htotals]) (hparts ▸ hall)

/-- Marking and weighting the first of them changes nothing about that. -/
theorem leads_adjust {c d : Cursor} {t : Tree} {ts : List Tree} (h : Stack.Leads lore c (t :: ts) d)
    (extra : Bool) (weight : Int) :
    Stack.Leads lore c ((if extra then t.setExtra true else t).addWeight weight :: ts) d := by
  obtain ⟨hfit, hunwraps, hleads⟩ := h.of_cons
  obtain ⟨s, parts⟩ := t
  cases extra with
  | false => exact .cons (hfit.addWeight weight) (unwraps_congr hunwraps rfl rfl rfl) rfl hleads
  | true =>
    exact .cons ((hfit.setExtra true).addWeight weight) (unwraps_congr hunwraps rfl rfl rfl) rfl hleads

/-- A loop that picks one of several ways to put trees together ends with one that is as it should be. -/
theorem ensures_pick {holds : List Tree → Prop} (good : Tree × List Tree → Prop)
    {alternatives : List (List Tree)}
    {f : List Tree → Option (Tree × List Tree) → Parse (ForInStep (Option (Tree × List Tree)))}
    (h : p.Views lore text w) (hne : alternatives ≠ []) (hall : ∀ trees ∈ alternatives, holds trees)
    (hf : ∀ trees best p, p.Views lore text w → holds trees → (∀ x, best = some x → good x) →
      (f trees best).Ensures p fun r p' => p'.Views lore text w ∧ ∃ x, r = .yield (some x) ∧ good x) :
    Parse.Ensures (forIn alternatives none f) p fun best p' => p'.Views lore text w ∧
      ∃ x, best = some x ∧ good x := by
  -- Nothing is picked only as long as no alternative has been seen, and there is one.
  refine .forIn_rest (fun rest best p => p.Views lore text w ∧ (∀ trees ∈ rest, holds trees) ∧
      (best = none → rest ≠ []) ∧ ∀ x, best = some x → good x) _
    ⟨h, hall, fun _ => hne, nofun⟩ ?_ ?_
  · rintro trees rest best p ⟨hp, hrest, -, hbest⟩
    refine (hf trees best p hp (hrest trees List.mem_cons_self) hbest).mono ?_
    rintro r p' ⟨hp', x, rfl, hx⟩
    refine ⟨hp', fun us hus => hrest us (List.mem_cons_of_mem _ hus), nofun, fun y hy => ?_⟩
    cases hy
    exact hx
  · rintro best p ⟨hp, -, hne, hbest⟩
    cases best with
    | none => exact absurd rfl (hne rfl)
    | some x => exact ⟨hp, x, rfl, hbest x rfl⟩

/-- Versions that wait with nothing at a place, in given states. -/
def allAt (c : Cursor) (states : List Nat) : List Standpoint := states.map fun q => .free ⟨c, q⟩

theorem length_allAt (c : Cursor) (states : List Nat) : (allAt c states).length = states.length :=
  List.length_map _

theorem allAt_append (c : Cursor) (states states' : List Nat) :
    allAt c (states ++ states') = allAt c states ++ allAt c states' := List.map_append

/-- Trees that were popped for a production, put together, and what is left over of them. -/
structure Picked (lore : Lore) (production : Nat) (c d : Cursor) (x : Tree × List Tree) : Prop where
  leads : Stack.Leads lore c (x.1 :: x.2) d
  label : x.1.label = .rule (lore.tables.production production).head production
  extra : x.1.extra = false
  trailing : ∀ t ∈ x.2, t.extra = true

/-- The trees that are popped where a rule is complete that begins with a mark begin with a mark. -/
theorem opens_of_pops (hlore : lore.Holds) {production k : Nat} {c d : Spot} {trees : List Tree}
    (haction : .reduce production ∈ actionsOn lore.tables d.state k)
    (hpops : Stack.Pops lore (lore.tables.production production).steps.length d c trees) :
    (Label.rule (lore.tables.production production).head production).Opens lore
      (Tree.splitTrailingExtras trees).1 := by
  intro hr
  obtain ⟨-, -, n, hsteps, hdepth⟩ := hlore.reduce _ _ _ haction hr
  have hreach := hpops.reach
  rw [hsteps] at hreach
  obtain ⟨t, rest, k, rfl, hextra, htoken, hk⟩ := hreach.exists_mark hlore.toIsMarked hdepth
  obtain ⟨rest', hsplit⟩ := Tree.splitTrailingExtras_cons hextra rest
  exact ⟨t, rest', k, hsplit, htoken, hk⟩

/-- A tree that is built of what was popped for a production is one that may be pushed. -/
theorem picked_build (hlore : lore.Holds) {production k : Nat} {c d : Spot} {trees : List Tree}
    (haction : .reduce production ∈ actionsOn lore.tables d.state k)
    (hpops : Stack.Pops lore (lore.tables.production production).steps.length d c trees) :
    Picked lore production c.place d.place
      (Tree.build lore.tables (.rule (lore.tables.production production).head production) false
        (Tree.splitTrailingExtras trees).1, (Tree.splitTrailingExtras trees).2) where
  leads := leads_build_split hpops.leads lore.tables (.rule _ _) nofun (opens_of_pops hlore haction hpops) false
  label := Tree.label_build ..
  extra := Tree.extra_build ..
  trailing _ ht := Tree.extra_of_mem_splitTrailingExtras ht

/-- What is pushed for a production leads to the state that its rule leads to. A rule that begins with a mark
leads back to the same state, if anywhere, so it is marked as one that may stand anywhere. -/
theorem links_of_picked (hlore : lore.Holds) {production state : Nat} {c d : Cursor} {x : Tree × List Tree}
    (h : Picked lore production c d x) {ending : Bool}
    (hending : lore.rule (lore.tables.production production).head → ending = true) (weight : Int) :
    lore.Links state
      ((if ending && lore.tables.goto state (lore.tables.production production).head == state
        then x.1.setExtra true else x.1).addWeight weight)
      (lore.tables.goto state (lore.tables.production production).head) := by
  obtain ⟨⟨s, parts⟩, trailing⟩ := x
  have hlabel : s.label = .rule (lore.tables.production production).head production := h.label
  have hextra : s.extra = false := h.extra
  split
  · rename_i hback
    rw [Bool.and_eq_true, beq_iff_eq] at hback
    exact .of_extra rfl (.inl hback.2)
  · rename_i hon
    by_cases hr : lore.rule (lore.tables.production production).head
    · have hnext : lore.tables.goto state (lore.tables.production production).head ≠ state := by
        intro hback
        rw [hending hr, hback, Bool.true_and, beq_self_eq_true] at hon
        exact hon rfl
      rw [(hlore.back state _ hr).resolve_left hnext]
      exact .lost
    · exact .rule hextra hlabel hr

/-- A reduction under way: after the versions that were there come those that have been reduced, all at the
place where the reduction started, and then those that are left, at the lower ends of their slices. The
slices were numbered before some of the versions were removed. -/
def Reducing (lore : Lore) (text : List Char) (w : List Standpoint) (d : Spot) (production : Nat)
    (rest : List (Nat × List (List Tree))) (removed : Nat) (p : Parser) : Prop :=
  ∃ states spots, p.Views lore text (w ++ allAt d.place states ++ spots.map .free) ∧
    Stack.AreSlices (Stack.Pops lore (lore.tables.production production).steps.length d)
      (w.length + states.length + removed) spots rest ∧
    (¬lore.rule (lore.tables.production production).head → ∀ q ∈ states, ¬lore.Closes q)

/-- A reduction adds versions at the place of the version that is reduced; if it adds any, the first of them
is returned. If the rule does not begin with a mark, no rule that does is complete in their states. -/
theorem ensures_reduce {v production k : Nat} {x : Standpoint} {ending : Bool} (h : p.Views lore text w)
    (hv : w[v]? = some x) (haction : .reduce production ∈ actionsOn lore.tables x.1.state k)
    (hending : lore.rule (lore.tables.production production).head → ending = true) :
    (reduce v production ending).Ensures p fun r p' => ∃ states,
      p'.Views lore text (w ++ allAt x.1.place states) ∧
      (¬lore.rule (lore.tables.production production).head → ∀ q ∈ states, ¬lore.Closes q) ∧
      ∀ n, r = some n → n = w.length ∧ 0 < states.length := by
  have hlore := h.1.holds
  rw [reduce]
  refine .grammar (.look ?_)
  rw [h.1.tables]
  refine .bind (ensures_popCount h hv _) ?_
  rintro slices p₁ ⟨spots, hp₁, hslices⟩
  refine .get ?_
  dsimp only
  refine .bind (.forIn_rest (Reducing lore text w x.1 production)
    (fun _ p => ∃ states, p.Views lore text (w ++ allAt x.1.place states) ∧
      (¬lore.rule (lore.tables.production production).head → ∀ q ∈ states, ¬lore.Closes q)) ?_ ?_ ?_) ?_
  · exact ⟨[], spots, by rwa [allAt, List.map_nil, List.append_nil], hslices, fun _ => nofun⟩
  · rintro ⟨number, alternatives⟩ rest removed p ⟨states, spots, hp, hslices, hstates⟩
    cases spots with
    | nil => cases hslices
    | cons c spots =>
      obtain ⟨rfl, hne, hpops, hslices⟩ := hslices
      have hlength : (w ++ allAt x.1.place states).length = w.length + states.length := by
        rw [List.length_append, length_allAt]
      rw [List.map_cons] at hp
      dsimp only
      -- The version of this slice is the first one that is left.
      rw [Nat.add_sub_cancel, ← hlength]
      split
      · refine .bind (ensures_remove hp _) fun _ p' hp => .pure ⟨states, spots, ?_, hslices, hstates⟩
        rwa [eraseIdx_append_cons] at hp
      · refine .bind (ensures_pick (Picked lore production c.place x.1.place) hp hne hpops
          fun trees best p hp htrees hbest => ?_) ?_
        · have hbuilt := picked_build hlore haction htrees
          split
          · exact .pure ⟨hp, _, rfl, hbuilt⟩
          · split
            · exact .pure ⟨hp, _, rfl, hbuilt⟩
            · exact .pure ⟨hp, _, rfl, hbest _ rfl⟩
        · rintro best p ⟨hp, ⟨tree, trailing⟩, rfl, hpicked⟩
          -- Pushing what was picked moves the version up to where the reduction started.
          have hadjusted := fun extra weight => (leads_adjust hpicked.leads extra weight).of_cons
          refine .look ?_
          rw [hp.state (getElem?_append_cons _ _ _)]
          refine .bind (ensures_push hp (getElem?_append_cons _ _ _) (hadjusted _ _).1
            (hadjusted _ _).2.1 (links_of_picked hlore hpicked hending _)) fun _ p hp => ?_
          rw [set_append_cons] at hp
          refine .bind (ensures_pushAll hp (getElem?_append_cons _ _ _) (hadjusted _ _).2.2 fun t ht =>
            ⟨.extra (hpicked.trailing t ht), .extra (hpicked.trailing t ht)⟩) ?_
          rintro _ p ⟨q, hp, hq⟩
          rw [or_self] at hq
          rw [set_append_cons] at hp
          refine .bind (ensures_mergeIntoEarlier hp v _) fun merged p hp => ?_
          split
          · rename_i hmerged
            rw [if_pos hmerged, eraseIdx_append_cons] at hp
            exact .pure ⟨states, spots, hp, hslices, hstates⟩
          · rename_i hmerged
            rw [if_neg hmerged] at hp
            refine .pure ⟨states ++ [q], spots, ?_, ?_, fun hr q' hq' => ?_⟩
            · rw [allAt_append, ← List.append_assoc, List.append_assoc]
              exact hp
            · rw [List.length_append, List.length_singleton, ← Nat.add_assoc, Nat.add_right_comm]
              exact hslices
            · rcases List.mem_append.mp hq' with hq' | hq'
              · exact hstates hr q' hq'
              · rw [List.mem_singleton.mp hq', hq]
                exact hlore.closes _ _ hr
  · rintro removed p ⟨states, spots, hp, hslices, hstates⟩
    cases spots with
    | nil => exact ⟨states, by rwa [List.map_nil, List.append_nil] at hp, hstates⟩
    | cons c spots => cases hslices
  · rintro removed p' ⟨states, hp, hstates⟩
    refine .look (.pure ⟨states, hp, hstates, fun n hn => ?_⟩)
    rw [← Stack.length_view, ← Stack.length_view, hp.2, h.2, List.length_append, length_allAt] at hn
    split at hn
    · cases hn
      exact ⟨rfl, by omega⟩
    · cases hn

/-! ## Accepting -/

theorem ensures_halt (h : p.IsSound lore text) (v : Nat) :
    (onStack (·.halt v)).Ensures p fun _ p' => p'.IsSound lore text :=
  (ensures_onStack h (h.stack.halt v)).mono fun _ _ hp => hp.1

/-- Removing a version keeps the parser sound. -/
theorem ensures_remove_sound (h : p.IsSound lore text) (v : Nat) :
    (onStack (·.remove v)).Ensures p fun _ p' => p'.IsSound lore text :=
  (ensures_onStack h (h.stack.remove v)).mono fun _ _ hp => hp.1

/-- Finishing with a tree of the whole text keeps the parser sound. -/
theorem ensures_finish (h : p.IsSound lore text) {root : Tree}
    (hroot : root.FitsAt lore (Cursor.atStart text)) (keep : Parser → Bool) :
    Parse.Ensures (modify fun p => { p with
      finished := if keep p then some root else p.finished, accepted := p.accepted + 1 }) p
      fun _ p' => p'.IsSound lore text := by
  refine ⟨h.holds, h.tables, h.stack, h.last, fun t ht => ?_⟩
  have ht : (if keep p then some root else p.finished) = some t := ht
  split at ht
  · cases ht
    exact hroot
  · exact h.finished t ht

/-- A version ends with a complete tree if what comes last fits, and the last tree that does not stand anywhere
need not begin with a mark. -/
theorem ensures_accept {v : Nat} {c : Spot} {d : Cursor} {last : List Tree} (h : p.Views lore text w)
    (hv : w[v]? = some (.free c)) (hlast : Stack.Leads lore c.place last d)
    (hplain : ∀ s trees n, lore.Path c.state s trees n → lore.Plain (trees ++ last)) :
    (accept v last).Ensures p fun _ p' => p'.IsSound lore text := by
  rw [accept]
  refine .grammar (.bind (ensures_popAll h hv) ?_)
  rintro slices p₁ ⟨⟨spots, hp₁⟩, hslices⟩
  have hv₁ : (w ++ spots.map Standpoint.free)[v]? = some (.free c) := by
    rw [List.getElem?_append_left (List.getElem?_eq_some_iff.mp hv).1]
    exact hv
  refine .bind (ensures_pushAll hp₁ hv₁ hlast fun _ _ => ⟨.done, .done⟩) ?_
  rintro _ p₂ ⟨q, hp₂, -⟩
  refine .bind (.forIn (fun _ p => p.IsSound lore text) (fun _ p => p.IsSound lore text) hp₂.1
    (fun x hx _ p hp => ?_) fun _ _ hp => hp) fun _ p hp => ?_
  · refine .bind (.forIn (fun _ p => p.IsSound lore text) (fun _ p => p.IsSound lore text) hp
      (fun trees htrees _ p hp => ?_) fun _ _ hp => hp) fun _ p hp => .pure hp
    -- the trees lead from the start of the text, so what is made of them fits there
    obtain ⟨hbelow, s, n, hpath⟩ := hslices x hx trees htrees
    have hleads := Stack.leads_append.mpr ⟨c.place, hbelow, hlast⟩
    split
    · exact .pure hp
    · rename_i root hroot
      have hfits := hleads.fit.makeRoot (fun t ht => (hleads.unwrap t ht).totals_parts)
        (hplain s trees n hpath) hroot
      exact .bind (ensures_finish hp hfits _) fun _ p hp => .pure hp
  · split
    · exact .bind (ensures_remove_sound hp _) fun _ _ hp => ensures_halt hp v
    · exact ensures_halt hp v

/-! ## Making all reductions -/

/-- A sound parser whose first versions stand at given places, in given states; the others wait with nothing. -/
def Extends (lore : Lore) (text : List Char) (w : List Standpoint) (p : Parser) : Prop :=
  ∃ others : List Standpoint, p.Views lore text (w ++ others) ∧ ∀ x ∈ others, x.2 = none

/-- Where there are no further versions the view is extended. -/
theorem Views.extends (h : p.Views lore text w) : p.Extends lore text w :=
  ⟨[], by rwa [List.append_nil], nofun⟩

/-- Further versions that wait with nothing may be forgotten. -/
theorem Extends.of_append {others : List Standpoint} (h : p.Extends lore text (w ++ others))
    (hothers : ∀ x ∈ others, x.2 = none) : p.Extends lore text w := by
  obtain ⟨more, hp, hmore⟩ := h
  refine ⟨others ++ more, by rwa [← List.append_assoc], fun x hx => ?_⟩
  rcases List.mem_append.mp hx with hx | hx
  · exact hothers x hx
  · exact hmore x hx

theorem forall_map_free (spots : List Spot) : ∀ x ∈ spots.map Standpoint.free, x.2 = none := by
  intro x hx
  obtain ⟨c, -, rfl⟩ := List.mem_map.mp hx
  rfl

theorem forall_allAt (c : Cursor) (states : List Nat) : ∀ x ∈ allAt c states, x.2 = none := by
  intro x hx
  obtain ⟨q, -, rfl⟩ := List.mem_map.mp hx
  rfl

/-- Every version after the first ones waits with nothing. -/
theorem free_of_length_le {others : List Standpoint} (hothers : ∀ x ∈ others, x.2 = none) {v : Nat}
    (hfirst : w.length ≤ v) (hlast : v < (w ++ others).length) :
    ∃ c, (w ++ others)[v]? = some (.free c) := by
  rw [List.length_append] at hlast
  have hlt : v - w.length < others.length := by omega
  refine ⟨others[v - w.length].1, ?_⟩
  rw [List.getElem?_append_right hfirst, List.getElem?_eq_getElem hlt]
  exact congrArg some (Prod.ext rfl (hothers _ (List.getElem_mem hlt)))

/-- Where a further version was removed the view is still extended. -/
theorem Extends.of_eraseIdx {others : List Standpoint} {v : Nat} (h : p.Views lore text ((w ++ others).eraseIdx v))
    (hothers : ∀ x ∈ others, x.2 = none) (hv : w.length ≤ v) : p.Extends lore text w := by
  rw [List.eraseIdx_append_of_length_le hv] at h
  exact ⟨_, h, fun x hx => hothers x (List.mem_of_mem_eraseIdx hx)⟩

/-- Removing a further version leaves the others. -/
theorem Extends.ensures_remove (h : p.Extends lore text w) {v : Nat} (hv : w.length ≤ v) :
    (onStack (·.remove v)).Ensures p fun _ p' => p'.Extends lore text w := by
  obtain ⟨others, hp, hothers⟩ := h
  exact (Parser.ensures_remove hp v).mono fun _ p' hp' => .of_eraseIdx hp' hothers hv

/-- Merging a further version leaves the others. -/
theorem Extends.ensures_merge (h : p.Extends lore text w) {v : Nat} (hv : w.length ≤ v) (j : Nat) :
    (fromStack (·.merge j v)).Ensures p fun _ p' => p'.Extends lore text w := by
  obtain ⟨others, hp, hothers⟩ := h
  refine (Parser.ensures_merge hp j v).mono fun r p' hp' => ?_
  cases r with
  | true => exact .of_eraseIdx hp' hothers hv
  | false => exact ⟨others, hp', hothers⟩

/-- The reductions that are possible are those of the state for some token other than the end. -/
theorem ensures_possibleActions (h : p.Views lore text w) (state : Nat) {token? : Option Nat}
    (htoken : token? ≠ some 0) :
    (possibleActions state token?).Ensures p fun r p' => p'.Views lore text w ∧
      ∀ production ∈ r.1, ∃ k, k ≠ 0 ∧ .reduce production ∈ actionsOn lore.tables state k := by
  let known (b : List Nat × Bool) (p : Parser) : Prop := p.Views lore text w ∧
    ∀ production ∈ b.1, ∃ k, k ≠ 0 ∧ .reduce production ∈ actionsOn lore.tables state k
  rw [possibleActions]
  refine .grammar ?_
  rw [h.1.tables]
  dsimp only
  refine .bind (.forIn known known ⟨h, nofun⟩ (fun token hmem b p hp => ?_) fun _ _ hp => hp)
    fun _ p hp => .pure hp
  -- the end of the text is not among the tokens that are tried
  have hne : token ≠ 0 := by
    split at hmem
    · obtain rfl := List.mem_singleton.mp hmem
      exact fun hzero => htoken (congrArg some hzero)
    · obtain ⟨i, hi, rfl⟩ := List.mem_iff_getElem.mp hmem
      rw [List.getElem_drop, List.getElem_range]
      omega
  refine .bind (.forIn known known hp (fun action haction b p hp => ?_) fun _ _ hp => hp)
    fun _ p hp => .pure hp
  split
  · split <;> exact .pure hp
  · exact .pure hp
  · split
    -- the one case that adds a reduction, by an action that the row has
    · refine .pure ⟨hp.1, fun production hproduction => ?_⟩
      rcases List.mem_append.mp hproduction with hproduction | hproduction
      · exact hp.2 production hproduction
      · obtain rfl := List.mem_singleton.mp hproduction
        exact ⟨token, hne, haction⟩
    · exact .pure hp
  · exact .pure hp

/-- A version takes the number of an earlier one. -/
theorem ensures_renumber {later earlier : Nat} {x : Standpoint} (h : p.Views lore text w)
    (hx : w[later]? = some x) (hne : later ≠ earlier) :
    (onStack (·.renumber later earlier)).Ensures p fun _ p' =>
      p'.Views lore text ((w.set earlier x).eraseIdx later) := by
  obtain ⟨h, rfl⟩ := h
  exact ensures_onStack h (h.stack.renumber hx hne)

/-- The first versions are found by their numbers. -/
theorem getElem?_append_of_some {v : Nat} {x : Standpoint} (hv : w[v]? = some x) (others : List Standpoint) :
    (w ++ others)[v]? = some x := by
  rw [List.getElem?_append_left (List.getElem?_eq_some_iff.mp hv).1]
  exact hv

/-- A further version is in one of its states. -/
theorem getElem?_append_allAt {v : Nat} {c : Cursor} {states : List Nat} (hfirst : w.length ≤ v)
    (hlast : v < w.length + states.length) :
    ∃ q ∈ states, (w ++ allAt c states)[v]? = some (.free ⟨c, q⟩) := by
  have hlt : v - w.length < states.length := by omega
  refine ⟨states[v - w.length], List.getElem_mem hlt, ?_⟩
  rw [List.getElem?_append_right hfirst, allAt, List.getElem?_map, List.getElem?_eq_getElem hlt]
  rfl

/-- Reductions in a row add versions at the same place. -/
theorem ensures_reduceEach {v : Nat} {c : Spot} (h : p.Views lore text w) (hv : w[v]? = some (.free c))
    {reductions : List Nat}
    (hreductions : ∀ production ∈ reductions, ∃ k, k ≠ 0 ∧ .reduce production ∈ actionsOn lore.tables c.state k) :
    Parse.Ensures (forIn reductions (none : Option Nat) fun production _ => do
      let reduced ← reduce v production false
      pure (ForInStep.yield reduced)) p fun r p' => ∃ states,
      p'.Views lore text (w ++ allAt c.place states) ∧
      ∀ n, r = some n → w.length ≤ n ∧ n < w.length + states.length := by
  refine .forIn (fun r p => ∃ states, p.Views lore text (w ++ allAt c.place states) ∧
    ∀ n, r = some n → w.length ≤ n ∧ n < w.length + states.length) _ ⟨[], ?_, nofun⟩ ?_ fun _ _ hp => hp
  · rwa [allAt, List.map_nil, List.append_nil]
  · rintro production hmem r p ⟨states, hp, -⟩
    obtain ⟨k, hk, haction⟩ := hreductions production hmem
    -- a rule that begins with a mark is complete only at the end
    refine .bind (ensures_reduce hp (getElem?_append_of_some hv _) haction fun hr =>
      absurd (h.1.holds.reduce _ _ _ haction hr).1 hk) ?_
    rintro r p ⟨states', hp, -, hr⟩
    refine .pure ⟨states ++ states', ?_, fun n hn => ?_⟩
    · rwa [List.append_assoc, ← allAt_append] at hp
    · obtain ⟨rfl, hlt⟩ := hr n hn
      rw [List.length_append, List.length_append, length_allAt]
      omega

/-- Versions that wait with nothing do so one behind the other. -/
theorem forall_append_free {others more : List Standpoint} (hothers : ∀ x ∈ others, x.2 = none)
    (hmore : ∀ x ∈ more, x.2 = none) : ∀ x ∈ others ++ more, x.2 = none := by
  intro x hx
  rcases List.mem_append.mp hx with hx | hx
  · exact hothers x hx
  · exact hmore x hx

/-- A version that takes the number of one after the first ones leaves those as they are. -/
theorem Extends.of_renumber {others : List Standpoint} {v r : Nat} {x : Standpoint}
    (h : p.Views lore text (((w ++ others).set v x).eraseIdx r)) (hothers : ∀ x ∈ others, x.2 = none)
    (hx : x.2 = none) (hv : w.length ≤ v) (hr : w.length ≤ r) : p.Extends lore text w := by
  rw [List.set_append_right _ _ hv] at h
  refine .of_eraseIdx h (fun y hy => ?_) hr
  rcases List.mem_or_eq_of_mem_set hy with hy | rfl
  · exact hothers y hy
  · exact hx

/-- The loop of `reduceAll` looks at a version of the first ones only at its start, and then leaves it at its
place. -/
theorem ensures_reduceAll_go {first initial : Nat} {token? : Option Nat} {c : Cursor}
    (hinitial : w.length ≤ initial) (hfirst : w.length ≤ first ∨ token? = none) (htoken : token? ≠ some 0)
    (fuel : Nat) {i v : Nat} {shiftable : Bool} {q : Nat}
    (h : p.Extends lore text (w.set first (.free ⟨c, q⟩))) (hv : v = first ∨ w.length ≤ v) :
    (reduceAll.go first token? initial fuel i v shiftable).Ensures p fun _ p' =>
      ∃ q, p'.Extends lore text (w.set first (.free ⟨c, q⟩)) := by
  induction fuel generalizing p i v shiftable q with
  | zero => exact .pure ⟨q, h⟩
  | succ fuel ih =>
    obtain ⟨others, hp, hothers⟩ := h
    have hlength : (w.set first (.free ⟨c, q⟩)).length = w.length := List.length_set
    rw [reduceAll.go]
    refine .look ?_
    rw [← Stack.length_view, hp.2]
    split
    · exact .pure ⟨q, others, hp, hothers⟩
    · rename_i hcount
      rw [ge_iff_le, Nat.not_le] at hcount
      -- a version of the first ones is looked at only at the start, and is known to wait with nothing
      obtain ⟨b, hb⟩ : ∃ b, (w.set first (.free ⟨c, q⟩) ++ others)[v]? = some (.free b) := by
        by_cases hw : w.length ≤ v
        · exact free_of_length_le hothers (hlength ▸ hw) hcount
        · obtain rfl : v = first := hv.resolve_right hw
          exact ⟨_, getElem?_append_of_some (List.getElem?_set_self (by omega)) others⟩
      refine .bind (ensures_mergeFrom hp initial v) fun merged p hp => ?_
      split
      · rename_i hmerged
        rw [if_pos hmerged] at hp
        exact ih (.of_eraseIdx hp.1 hothers (by have := hp.2 hmerged; omega)) hv
      · rename_i hmerged
        rw [if_neg hmerged] at hp
        refine .look ?_
        rw [hp.1.state hb]
        refine .bind (ensures_possibleActions hp.1 _ htoken) ?_
        rintro ⟨reductions, shifts⟩ p ⟨hp, hreductions⟩
        refine .bind (ensures_reduceEach hp hb hreductions) ?_
        rintro reduced p ⟨states, hp, hreduced⟩
        have hothers' := forall_append_free hothers (forall_allAt b.place states)
        have hextends : p.Extends lore text (w.set first (.free ⟨c, q⟩)) :=
          ⟨_, by rwa [List.append_assoc] at hp, hothers'⟩
        dsimp only
        -- after the start the loop goes on with the versions behind the first ones
        generalize hnext : (if v = first then (w.set first (.free ⟨c, q⟩) ++ others).length else v + 1) = next
        have hnext : next = first ∨ w.length ≤ next := by
          rw [List.length_append] at hnext
          split at hnext <;> omega
        -- Versions are removed only where a token is given, so never one of the first ones.
        have hgone (hsome : token?.isSome) : Parse.Ensures (do
            onStack fun s => s.remove v
            reduceAll.go first token? initial fuel (i + 1) next shiftable) p fun _ p' =>
              ∃ q, p'.Extends lore text (w.set first (.free ⟨c, q⟩)) := by
          have hwv : w.length ≤ v := by
            rcases hfirst with hfirst | rfl
            · omega
            · cases hsome
          exact .bind (hextends.ensures_remove (hlength ▸ hwv)) fun _ p hp => ih hp hnext
        split
        · exact ih hextends hnext
        · split
          · rename_i r
            obtain ⟨hlow, hhigh⟩ := hreduced r rfl
            split
            · obtain ⟨q', -, hr⟩ := getElem?_append_allAt (c := b.place) hlow hhigh
              rw [List.length_append] at hlow hcount
              refine .bind (ensures_renumber hp hr (by omega)) fun _ p hp => ?_
              rw [List.append_assoc] at hp
              by_cases hw : w.length ≤ v
              · exact ih (.of_renumber hp hothers' rfl (by omega) (by omega)) hv
              · -- the first version takes over the state of the one that was reduced, at the same place
                obtain rfl : v = first := hv.resolve_right hw
                rw [List.set_append_left _ _ (by omega), List.set_set] at hp
                have hbc : b = ⟨c, q⟩ := by
                  rw [getElem?_append_of_some (List.getElem?_set_self (by omega))] at hb
                  exact congrArg Prod.fst (Option.some.inj hb).symm
                subst hbc
                exact ih (.of_eraseIdx hp hothers' (by rw [List.length_set]; omega)) hv
            · split
              · exact hgone ‹_›
              · exact ih hextends hnext
          · split
            · exact hgone ‹_›
            · exact ih hextends hnext

/-- Making all reductions from a version on leaves it at its place, and the other ones as they are. -/
theorem ensures_reduceAll {first : Nat} {token? : Option Nat} {c : Spot}
    (h : p.Extends lore text (w.set first (.free c))) (hfirst : w.length ≤ first ∨ token? = none)
    (htoken : token? ≠ some 0) :
    (reduceAll first token?).Ensures p fun _ p' =>
      ∃ q, p'.Extends lore text (w.set first (.free ⟨c.place, q⟩)) := by
  rw [reduceAll]
  refine .look (ensures_reduceAll_go ?_ hfirst htoken 1000 h (.inl rfl))
  obtain ⟨others, hp, -⟩ := h
  rw [← Stack.length_view, hp.2, List.length_append, List.length_set]
  omega

end Parser

end Overdue.Syntax
