/-
Trees that fit their text.

The parser never looks at a tree to find out where it is: a tree only carries extents, and places are moved
on by them. This is sound as long as the extents are those of the text at the place where the tree stands.
A leaf fits at a place if its padding and its size are the extents of what comes next there; any other tree
fits if its parts do, one behind the other, and its own extent is their sum (`Tree.FitsAt`). What is known of
tokens and rules (`Lore`) is a parameter of all this: a token is spelled as it should be wherever the parser
puts it, and a tree for a rule that begins with a mark has the mark as its first part.

A place of a text is known by its bytes alone (`Cursor.eq_of_bytes`), which is what lets the parser merge
readings that have come to the same number of bytes.
-/
import Overdue.Proofs.Syntax.Layout
import Overdue.Proofs.Syntax.Lore

set_option autoImplicit false

namespace Overdue.Syntax

/-! ## Extents -/

namespace Extent

theorem add_def (a b : Extent) : a + b = ⟨a.chars + b.chars, a.bytes + b.bytes, a.rows + b.rows⟩ := rfl

@[simp] theorem add_bytes (a b : Extent) : (a + b).bytes = a.bytes + b.bytes := rfl

protected theorem add_assoc (a b c : Extent) : a + b + c = a + (b + c) := by
  simp only [add_def, Nat.add_assoc]

@[simp] protected theorem zero_add (a : Extent) : zero + a = a := by
  simp only [add_def, zero, Nat.zero_add]

/-- Where two extents come to nothing each of them is nothing. -/
theorem eq_zero_of_add_eq_zero {a b : Extent} (h : a + b = zero) : a = zero ∧ b = zero := by
  obtain ⟨chars, bytes, rows⟩ := a
  obtain ⟨chars', bytes', rows'⟩ := b
  simp only [add_def, zero, Extent.mk.injEq, Nat.add_eq_zero_iff] at h ⊢
  omega

/-- The extent of a text is that of its beginning and that of its end. -/
theorem ofChars_append (cs ds : List Char) : ofChars (cs ++ ds) = ofChars cs + ofChars ds := by
  have hfold (e : Extent) : ds.foldl (fun e c => e + ofChar c) e = e + ofChars ds := by
    rw [ofChars]
    induction ds generalizing e with
    | nil => rfl
    | cons d ds ih =>
      rw [List.foldl_cons, List.foldl_cons, ih, ih (zero + ofChar d), Extent.zero_add, Extent.add_assoc]
  calc ofChars (cs ++ ds)
      = ds.foldl (fun e c => e + ofChar c) (ofChars cs) := List.foldl_append ..
    _ = ofChars cs + ofChars ds := hfold _

/-- The extent of a text is that of its first character and that of the others. -/
theorem ofChars_cons (c : Char) (cs : List Char) : ofChars (c :: cs) = ofChar c + ofChars cs := by
  have hone : ofChars [c] = ofChar c := Extent.zero_add _
  rw [← List.singleton_append, ofChars_append, hone]

@[simp] theorem ofChars_chars (cs : List Char) : (ofChars cs).chars = cs.length := by
  induction cs with
  | nil => rfl
  | cons c cs ih =>
    rw [ofChars_cons, add_def, ih, List.length_cons, Nat.add_comm]
    rfl

/-- Only the empty text takes no bytes. -/
theorem eq_nil_of_bytes_eq_zero {cs : List Char} (h : (ofChars cs).bytes = 0) : cs = [] := by
  cases cs with
  | nil => rfl
  | cons c cs =>
    have hpos : 0 < c.utf8Size := Char.utf8Size_pos c
    rw [ofChars_cons, add_bytes] at h
    have hsize : (ofChar c).bytes = c.utf8Size := rfl
    omega

/-- The bytes of characters are those of their encoding. -/
theorem ofChars_bytes_eq (cs : List Char) : (ofChars cs).bytes = cs.utf8Encode.size := by
  induction cs with
  | nil => rfl
  | cons c cs ih =>
    have hone : [c].utf8Encode.size = c.utf8Size := by
      rw [List.utf8Encode_singleton]
      simp
    rw [ofChars_cons, add_bytes, ih, List.utf8Encode_cons, ByteArray.size_append, hone]
    rfl

/-- The bytes of a text are those of its encoding. -/
theorem ofChars_bytes (text : String) : (ofChars text.toList).bytes = text.toUTF8.size := by
  rw [ofChars_bytes_eq, String.utf8Encode_toList, String.toUTF8_eq_toByteArray]

end Extent

/-! ## Places -/

namespace Cursor

/-- The place before a text. -/
def atStart (text : List Char) : Cursor := ⟨0, 0, text⟩

/-- A place in a text: what comes before it takes the bytes and the rows that it says. -/
def IsIn (text : List Char) (c : Cursor) : Prop :=
  ∃ before, text = before ++ c.rest ∧ c.bytes = (Extent.ofChars before).bytes ∧
    c.row = (Extent.ofChars before).rows

theorem isIn_atStart (text : List Char) : (atStart text).IsIn text := ⟨[], rfl, rfl, rfl⟩

/-- A place in a text lies no further than its end. -/
theorem IsIn.bytes_le {text : List Char} {c : Cursor} (h : c.IsIn text) :
    c.bytes ≤ (Extent.ofChars text).bytes := by
  obtain ⟨before, htext, hbytes, -⟩ := h
  rw [htext, Extent.ofChars_append, Extent.add_bytes]
  omega

/-- Places of a text are told apart by their bytes. -/
theorem eq_of_bytes {text : List Char} {c d : Cursor} (hc : c.IsIn text) (hd : d.IsIn text)
    (h : c.bytes = d.bytes) : c = d := by
  obtain ⟨before, htext, hbytes, hrow⟩ := hc
  obtain ⟨before', htext', hbytes', hrow'⟩ := hd
  have hbefore : before = before' := by
    rw [hbytes, hbytes'] at h
    -- one of the two is the other and something in between, which takes no bytes
    rcases List.append_eq_append_iff.mp (htext.symm.trans htext') with
      ⟨middle, rfl, -⟩ | ⟨middle, rfl, -⟩
    · rw [Extent.ofChars_append, Extent.add_bytes] at h
      rw [Extent.eq_nil_of_bytes_eq_zero (by omega : (Extent.ofChars middle).bytes = 0), List.append_nil]
    · rw [Extent.ofChars_append, Extent.add_bytes] at h
      rw [Extent.eq_nil_of_bytes_eq_zero (by omega : (Extent.ofChars middle).bytes = 0), List.append_nil]
  subst hbefore
  have hrest : c.rest = d.rest := List.append_cancel_left (htext.symm.trans htext')
  obtain ⟨bytes, row, rest⟩ := c
  obtain ⟨bytes', row', rest'⟩ := d
  dsimp only at h hrow hrow' hrest
  rw [h, hrow, hrow', hrest]

@[simp] theorem advance_zero (c : Cursor) : c.advance .zero = c := rfl

theorem advance_add (c : Cursor) (a b : Extent) : c.advance (a + b) = (c.advance a).advance b := by
  simp only [advance, Extent.add_def, Nat.add_assoc, List.drop_drop]

/-- Some of the text that comes next has this extent. -/
def Covers (c : Cursor) (e : Extent) : Prop := ∃ count, e = Extent.ofChars (c.rest.take count)

theorem covers_zero (c : Cursor) : c.Covers .zero := ⟨0, rfl⟩

/-- Going on by the extent of some characters leaves the others. -/
theorem advance_ofChars_take (c : Cursor) (count : Nat) :
    (c.advance (Extent.ofChars (c.rest.take count))).rest = c.rest.drop count := by
  rw [advance, Extent.ofChars_chars, List.length_take]
  rcases Nat.le_total count c.rest.length with h | h
  · rw [Nat.min_eq_left h]
  · rw [Nat.min_eq_right h, List.drop_length, List.drop_of_length_le h]

/-- A place that is moved on over text stays in the text. -/
theorem IsIn.advance {text : List Char} {c : Cursor} {e : Extent} (h : c.IsIn text) (he : c.Covers e) :
    (c.advance e).IsIn text := by
  obtain ⟨count, rfl⟩ := he
  obtain ⟨before, htext, hbytes, hrow⟩ := h
  refine ⟨before ++ c.rest.take count, ?_, ?_, ?_⟩
  · rw [advance_ofChars_take, List.append_assoc, List.take_append_drop]
    exact htext
  · rw [Extent.ofChars_append, Extent.add_bytes, ← hbytes]
    rfl
  · rw [Extent.ofChars_append, Extent.add_def, ← hrow]
    rfl

end Cursor

/-! ## Trees -/

variable {lore : Lore}

/-- What is known of the text of a token holds of the text of a leaf at a place, if the leaf is a token. -/
def Summary.IsSpelledAt (lore : Lore) (s : Summary) (c : Cursor) : Prop :=
  ∀ token, s.label = .token token → lore.spelled token ((c.advance s.padding).rest.take s.size.chars)

/-- Parts that a tree with a label may have: a token has none, and those of a rule that begins with a mark begin
with a mark. -/
def Label.Opens (lore : Lore) : Label → List Tree → Prop
  | .token _, parts => parts = []
  | .rule r _, parts => lore.rule r →
      ∃ first rest k, parts = first :: rest ∧ first.label = .token k ∧ lore.mark k
  | .error, _ | .skipped, _ => True

/-- Nothing has to begin with a mark where there is no rule. -/
theorem Label.opens_nil {label : Label} (h : ∀ r p, label ≠ .rule r p) : label.Opens lore [] := by
  cases label with
  | token => rfl
  | rule r p => exact absurd rfl (h r p)
  | error => trivial
  | skipped => trivial

/-- What is no rule that begins with a mark may begin with anything. -/
theorem Label.opens_of_not_rule {label : Label} (htoken : ∀ token, label ≠ .token token)
    (hrule : ∀ r p, label = .rule r p → ¬lore.rule r) (parts : List Tree) : label.Opens lore parts := by
  cases label with
  | token k => exact absurd rfl (htoken k)
  | rule r p => exact fun hr => absurd hr (hrule r p rfl)
  | error => trivial
  | skipped => trivial

namespace Tree

/-- The text covered by trees one after the other. -/
def totals : List Tree → Extent
  | [] => .zero
  | t :: ts => t.total + totals ts

theorem totals_append (ts us : List Tree) : totals (ts ++ us) = totals ts + totals us := by
  induction ts with
  | nil => exact (Extent.zero_add _).symm
  | cons t ts ih => rw [List.cons_append, totals, totals, ih, Extent.add_assoc]

mutual

/-- A tree has the extents of the text at a place, and begins with a mark if it has to. -/
def FitsAt (lore : Lore) : Tree → Cursor → Prop
  | .node s parts, c =>
    match parts with
    | [] => c.Covers s.padding ∧ (c.advance s.padding).Covers s.size ∧ s.IsSpelledAt lore c ∧
        s.label.Opens lore []
    | part :: parts => part.FitsAt lore c ∧ FitAt lore parts (c.advance part.total) ∧
        s.padding + s.size = totals (part :: parts) ∧ s.label.Opens lore (part :: parts)

/-- Trees one after the other have the extents of the text from a place on. -/
def FitAt (lore : Lore) : List Tree → Cursor → Prop
  | [], _ => True
  | t :: ts, c => t.FitsAt lore c ∧ FitAt lore ts (c.advance t.total)

end

/-- Trees fit one behind the other. -/
theorem fitAt_append {ts us : List Tree} {c : Cursor} :
    FitAt lore (ts ++ us) c ↔ FitAt lore ts c ∧ FitAt lore us (c.advance (totals ts)) := by
  induction ts generalizing c with
  | nil =>
    rw [List.nil_append, FitAt, totals, Cursor.advance_zero]
    exact (and_iff_right trivial).symm
  | cons t ts ih => rw [List.cons_append, FitAt, FitAt, ih, totals, Cursor.advance_add, and_assoc]

theorem fitAt_singleton {t : Tree} {c : Cursor} : FitAt lore [t] c ↔ t.FitsAt lore c := by
  rw [FitAt, FitAt, and_true]

/-- A leaf fits where its padding and its size are those of the text. -/
theorem fitsAt_leaf {s : Summary} {c : Cursor} :
    (Tree.node s []).FitsAt lore c ↔
      c.Covers s.padding ∧ (c.advance s.padding).Covers s.size ∧ s.IsSpelledAt lore c ∧
        s.label.Opens lore [] := by
  rw [FitsAt]

/-- A tree that is no token, with the extent of its parts, fits where they do. -/
theorem fitsAt_of_parts {s : Summary} {parts : List Tree} {c : Cursor} (h : FitAt lore parts c)
    (hlabel : ∀ token, s.label ≠ .token token) (hopens : s.label.Opens lore parts)
    (hsum : s.padding + s.size = totals parts) : (Tree.node s parts).FitsAt lore c := by
  rw [FitsAt.eq_def]
  cases parts with
  | nil =>
    obtain ⟨hpadding, hsize⟩ := Extent.eq_zero_of_add_eq_zero hsum
    dsimp only
    rw [hpadding, hsize]
    exact ⟨c.covers_zero, (c.advance .zero).covers_zero, fun token h => absurd h (hlabel token), hopens⟩
  | cons part parts =>
    rw [FitAt] at h
    exact ⟨h.1, h.2, hsum, hopens⟩

/-- What a tree fits at is settled by its extents, its parts, its spelling and its mark. -/
theorem FitsAt.congr {s s' : Summary} {parts : List Tree} {c : Cursor} (h : (Tree.node s parts).FitsAt lore c)
    (hpadding : s'.padding = s.padding) (hsize : s'.size = s.size)
    (hspelled : s.IsSpelledAt lore c → s'.IsSpelledAt lore c)
    (hopens : s.label.Opens lore parts → s'.label.Opens lore parts) : (Tree.node s' parts).FitsAt lore c := by
  rw [FitsAt.eq_def] at h ⊢
  dsimp only at h ⊢
  rw [hpadding, hsize]
  cases parts with
  | nil => exact ⟨h.1, h.2.1, hspelled h.2.2.1, hopens h.2.2.2⟩
  | cons part parts => exact ⟨h.1, h.2.1, h.2.2.1, hopens h.2.2.2⟩

/-- A tree that fits begins with a mark if it has to. -/
theorem FitsAt.opens {t : Tree} {c : Cursor} (h : t.FitsAt lore c) : t.label.Opens lore t.parts := by
  obtain ⟨s, parts⟩ := t
  cases parts with
  | nil =>
    rw [fitsAt_leaf] at h
    exact h.2.2.2
  | cons part parts =>
    rw [FitsAt] at h
    exact h.2.2.2

/-- The parts of a tree fit where it does. -/
theorem FitsAt.parts {t : Tree} {c : Cursor} (h : t.FitsAt lore c) : FitAt lore t.parts c := by
  obtain ⟨s, parts⟩ := t
  cases parts with
  | nil => exact trivial
  | cons part parts =>
    rw [FitsAt] at h
    exact ⟨h.1, h.2.1⟩

mutual

/-- Moving on over a tree that fits stays in the text. -/
theorem FitsAt.isIn {text : List Char} (t : Tree) {c : Cursor} (h : t.FitsAt lore c) (hc : c.IsIn text) :
    (c.advance t.total).IsIn text := by
  obtain ⟨s, parts⟩ := t
  cases parts with
  | nil =>
    rw [fitsAt_leaf] at h
    have hpadding := hc.advance h.1
    have hsize := hpadding.advance h.2.1
    rw [← Cursor.advance_add] at hsize
    exact hsize
  | cons part parts =>
    rw [FitsAt] at h
    -- moving on over the tree is moving on over its parts one by one
    have htotal : (Tree.node s (part :: parts)).total = part.total + totals parts := h.2.2.1
    rw [htotal, Cursor.advance_add]
    exact FitAt.isIn parts h.2.1 (FitsAt.isIn part h.1 hc)

/-- Trees that fit at a place in a text end in the text. -/
theorem FitAt.isIn {text : List Char} (ts : List Tree) {c : Cursor} (h : FitAt lore ts c) (hc : c.IsIn text) :
    (c.advance (totals ts)).IsIn text := by
  cases ts with
  | nil => exact hc
  | cons t ts =>
    rw [FitAt] at h
    rw [totals, Cursor.advance_add]
    exact FitAt.isIn ts h.2 (FitsAt.isIn t h.1 hc)

end

mutual

/-- A tree that fits takes the bytes of its extent when it is laid out. -/
theorem FitsAt.span_eq (t : Tree) {c : Cursor} (h : t.FitsAt lore c) : t.span = t.total.bytes := by
  obtain ⟨s, parts⟩ := t
  cases parts with
  | nil =>
    rw [span]
    rfl
  | cons part parts =>
    rw [FitsAt] at h
    have htotal : (Tree.node s (part :: parts)).total = part.total + totals parts := h.2.2.1
    rw [span, htotal, Extent.add_bytes, FitsAt.span_eq part h.1, FitAt.spans_eq parts h.2.1]

/-- The span of trees is the bytes of their extents. -/
theorem FitAt.spans_eq (ts : List Tree) {c : Cursor} (h : FitAt lore ts c) : spans ts = (totals ts).bytes := by
  cases ts with
  | nil =>
    rw [spans]
    rfl
  | cons t ts =>
    rw [FitAt] at h
    rw [spans, totals, Extent.add_bytes, FitsAt.span_eq t h.1, FitAt.spans_eq ts h.2]

end

/-! ## Putting trees together -/

/-- A tree fits whether it is an extra or not. -/
theorem FitsAt.setExtra {t : Tree} {c : Cursor} (h : t.FitsAt lore c) (extra : Bool) :
    (t.setExtra extra).FitsAt lore c := by
  cases t
  exact h.congr rfl rfl id id

/-- A tree fits whatever its weight is. -/
theorem FitsAt.addWeight {t : Tree} {c : Cursor} (h : t.FitsAt lore c) (w : Int) :
    (t.addWeight w).FitsAt lore c := by
  cases t
  exact h.congr rfl rfl id id

/-- A token can be read as another one of which no more is known. -/
theorem FitsAt.setToken {t : Tree} {c : Cursor} (h : t.FitsAt lore c) (tables : Tables) {token token' : Nat}
    (hlabel : t.label = .token token) (hspelled : ∀ text, lore.spelled token text → lore.spelled token' text) :
    (t.setToken tables token').FitsAt lore c := by
  obtain ⟨s, parts⟩ := t
  refine h.congr rfl rfl (fun hs other hother => ?_) fun hopens => ?_
  · cases hother
    exact hspelled _ (hs token hlabel)
  · rw [show s.label = .token token from hlabel] at hopens
    exact hopens

/-- Steps are matched to all trees, in their order. -/
theorem map_matchSteps (steps : List Step) (ts : List Tree) : (matchSteps steps ts).map (·.2) = ts := by
  fun_induction matchSteps steps ts with
  | case1 => rfl
  | case2 steps t ts h ih => rw [List.map_cons, ih]
  | case3 t ts h ih => rw [List.map_cons, ih]
  | case4 t ts h s rest ih => rw [List.map_cons, ih]

/-- The sums of a tree grow by the extents of its parts; those of no parts are nothing. -/
theorem total_addParts (skipping : Bool) (pairs : List (Option Step × Tree)) (acc : Summary)
    (h : acc.children = 0 → acc.padding + acc.size = .zero) :
    let sums := pairs.foldl
      (fun acc (step?, part) => addPart skipping acc ((step?.bind (·.display)).isSome) part) acc
    sums.padding + sums.size = acc.padding + acc.size + totals (pairs.map (·.2)) := by
  induction pairs generalizing acc with
  | nil => rfl
  | cons pair pairs ih =>
    obtain ⟨step?, part⟩ := pair
    have hsum : (addPart skipping acc ((step?.bind (·.display)).isSome) part).padding +
        (addPart skipping acc ((step?.bind (·.display)).isSome) part).size =
          acc.padding + acc.size + part.total := by
      -- the first part sets the padding, every later one only adds to the size
      by_cases hfirst : acc.children = 0
      · rw [h hfirst, Extent.zero_add]
        simp only [addPart, hfirst, beq_self_eq_true, if_true]
        rfl
      · have hlater : (acc.children == 0) = false := beq_false_of_ne hfirst
        simp only [addPart, hlater, Bool.false_eq_true, if_false, total, Extent.add_assoc]
    -- there is a part now, so nothing is asked of the sums any more
    have hrest := ih (addPart skipping acc ((step?.bind (·.display)).isSome) part) (fun hzero => nomatch hzero)
    simp only [List.foldl_cons, List.map_cons, totals]
    rw [hrest, hsum, Extent.add_assoc]

/-- A tree that is put together has the extent of its parts. -/
theorem total_build (tables : Tables) (label : Label) (extra : Bool) (parts : List Tree) :
    (build tables label extra parts).total = totals parts := by
  unfold build
  refine (total_addParts _ _ _ fun _ => rfl).trans ?_
  rw [map_matchSteps]
  exact Extent.zero_add _

theorem parts_build (tables : Tables) (label : Label) (extra : Bool) (parts : List Tree) :
    (build tables label extra parts).parts = parts := rfl

theorem label_build (tables : Tables) (label : Label) (extra : Bool) (parts : List Tree) :
    (build tables label extra parts).label = label := by
  unfold build
  exact List.foldlRecOn (motive := fun acc : Summary => acc.label = label) _ _ rfl fun _ h _ _ => h

theorem extra_build (tables : Tables) (label : Label) (extra : Bool) (parts : List Tree) :
    (build tables label extra parts).extra = extra := by
  unfold build
  exact List.foldlRecOn (motive := fun acc : Summary => acc.extra = extra) _ _ rfl fun _ h _ _ => h

/-- A tree that is put together fits where its parts do. -/
theorem FitAt.build {parts : List Tree} {c : Cursor} (h : FitAt lore parts c) (tables : Tables)
    (label : Label) (hlabel : ∀ token, label ≠ .token token) (hopens : label.Opens lore parts) (extra : Bool) :
    (build tables label extra parts).FitsAt lore c := by
  have hbuilt : (Tree.build tables label extra parts).label = label := label_build tables label extra parts
  refine fitsAt_of_parts h (fun token htoken => hlabel token (hbuilt.symm.trans htoken)) ?_
    (total_build tables label extra parts)
  rw [← hbuilt] at hopens
  exact hopens

/-- Splitting off the extras at the end loses nothing. -/
theorem splitTrailingExtras_append (ts : List Tree) :
    (splitTrailingExtras ts).1 ++ (splitTrailingExtras ts).2 = ts := by
  have hsplit := List.prefix_iff_eq_append.mp (List.takeWhile_prefix (l := ts.reverse) (·.extra))
  rw [splitTrailingExtras, ← List.reverse_append, hsplit, List.reverse_reverse]

/-- What is split off are extras. -/
theorem extra_of_mem_splitTrailingExtras {ts : List Tree} {t : Tree} (h : t ∈ (splitTrailingExtras ts).2) :
    t.extra = true :=
  List.all_eq_true.mp (List.all_takeWhile (l := ts.reverse)) t (List.mem_reverse.mp h)

/-- A first tree that does not stand anywhere is not split off. -/
theorem splitTrailingExtras_cons {t : Tree} (h : t.extra = false) (ts : List Tree) :
    ∃ rest, (splitTrailingExtras (t :: ts)).1 = t :: rest := by
  have happend := splitTrailingExtras_append (t :: ts)
  cases hsplit : (splitTrailingExtras (t :: ts)).1 with
  | nil =>
    rw [hsplit, List.nil_append] at happend
    have hextra : t.extra = true := extra_of_mem_splitTrailingExtras (by rw [happend]; exact List.mem_cons_self)
    rw [h] at hextra
    cases hextra
  | cons u us =>
    rw [hsplit] at happend
    injection happend with hu
    exact ⟨us, by rw [hu]⟩

/-! ## Complete trees -/

/-- The trees that a complete tree is made of: one that is no token is replaced by its parts. -/
theorem exists_core_of_makeRoot {tables : Tables} {trees : List Tree} {root : Tree}
    (h : Parser.makeRoot tables trees = some root) :
    ∃ before core after, trees = before ++ core :: after ∧ core.extra = false ∧ (∀ t ∈ after, t.extra = true) ∧
      (∀ token, core.label ≠ .token token) ∧
      root = build tables core.label false (before ++ core.parts ++ after) := by
  -- the trees are taken apart from their end: first the extras, then the core
  have hsplit := List.prefix_iff_eq_append.mp (List.takeWhile_prefix (l := trees.reverse) (·.extra))
  have hextra : ∀ t ∈ trees.reverse.takeWhile (·.extra), t.extra :=
    List.all_eq_true.mp List.all_takeWhile
  rw [Parser.makeRoot] at h
  split at h
  · cases h
  · rename_i core before hdrop
    have hcore : core.extra = false := by
      have hrest : trees.reverse.dropWhile (·.extra) = core :: before := by
        rw [← hdrop]
        exact List.append_cancel_left (List.takeWhile_append_dropWhile.trans hsplit.symm)
      have hhead := List.head?_dropWhile_not (·.extra) trees.reverse
      rwa [hrest] at hhead
    split at h
    · cases h
    · rename_i hlabel
      cases h
      rw [hdrop] at hsplit
      have htrees := congrArg List.reverse hsplit
      rw [List.reverse_reverse, List.reverse_append, List.reverse_cons, List.append_assoc,
        List.singleton_append] at htrees
      exact ⟨before.reverse, core, _, htrees.symm, hcore, fun t ht => hextra t (List.mem_reverse.mp ht),
        hlabel, rfl⟩

/-- A complete tree fits where the trees fit that it is made of, if those that are no tokens have the extent
of their parts, and the last one that does not stand anywhere need not begin with a mark. -/
theorem FitAt.makeRoot {tables : Tables} {trees : List Tree} {c : Cursor} {root : Tree}
    (h : FitAt lore trees c)
    (hwhole : ∀ t ∈ trees, (∀ token, t.label ≠ .token token) → totals t.parts = t.total)
    (hplain : lore.Plain trees) (hroot : Parser.makeRoot tables trees = some root) : root.FitsAt lore c := by
  obtain ⟨before, core, after, rfl, hextra, hafter, hlabel, rfl⟩ := exists_core_of_makeRoot hroot
  have hcore := hwhole core (List.mem_append_right before List.mem_cons_self) hlabel
  rw [fitAt_append, FitAt] at h
  have hlast : (before ++ core :: after).reverse.find? (!·.extra) = some core := by
    have hnone : after.reverse.find? (!·.extra) = none := by
      refine List.find?_eq_none.mpr fun t ht => ?_
      rw [hafter t (List.mem_reverse.mp ht)]
      exact Bool.false_ne_true
    rw [List.reverse_append, List.reverse_cons, List.append_assoc, List.find?_append, hnone, Option.none_or,
      List.singleton_append, List.find?_cons, hextra]
    rfl
  refine FitAt.build ?_ tables core.label hlabel (Label.opens_of_not_rule hlabel
    (fun r p => hplain core r p hlast) _) false
  rw [fitAt_append, fitAt_append, totals_append, Cursor.advance_add, hcore]
  exact ⟨⟨h.1, h.2.1.parts⟩, h.2.2⟩

end Tree

/-! ## Tokens -/

/-- What is known of trees holds of those that are made with the tables: tokens that are found are spelled so,
nothing more is known of words, a token that can be inserted may have no text, and rules begin with marks. -/
structure Lore.Holds (lore : Lore) : Prop extends lore.IsMarked where
  next : ∀ (s : Search) (token : Tree), s.next lore.tables = some token →
    token.summary.IsSpelledAt lore s.place
  word : ∀ token text, lore.spelled token text → lore.spelled lore.tables.word text
  missing : ∀ state token, lore.tables.CanMiss state token → lore.spelled token []

/-- What is found between two offsets from a place fits there. -/
theorem fitsAt_extent {token : Tree} {place : Cursor} {start stop : Nat} (hparts : token.parts = [])
    (hpadding : token.summary.padding = place.extent 0 start)
    (hsize : token.summary.size = place.extent start stop)
    (hlabel : ∀ r p, token.label ≠ .rule r p) (hspelled : token.summary.IsSpelledAt lore place) :
    token.FitsAt lore place := by
  obtain ⟨s, parts⟩ := token
  cases hparts
  have hrest : (place.advance (place.extent 0 start)).rest = place.rest.drop start :=
    place.advance_ofChars_take start
  have hcovers : (place.advance (place.extent 0 start)).Covers (place.extent start stop) :=
    ⟨stop - start, by rw [hrest, Cursor.extent]⟩
  rw [Tree.fitsAt_leaf, show s.padding = _ from hpadding, show s.size = _ from hsize]
  exact ⟨⟨start, rfl⟩, hcovers, hspelled, Label.opens_nil hlabel⟩

/-- A token that was found is a leaf with the extents of what was found, and for no rule. -/
theorem Search.tree_extents (s : Search) (t : Tables) (found : Found) :
    (s.tree t found).parts = [] ∧ (s.tree t found).summary.padding = s.place.extent 0 found.start ∧
      (s.tree t found).summary.size = s.place.extent found.start found.stop ∧
      ∀ r p, (s.tree t found).label ≠ .rule r p := by
  rw [Search.tree]
  split
  · exact ⟨rfl, rfl, rfl, nofun⟩
  · split
    · dsimp only
      split
      · exact ⟨rfl, rfl, rfl, nofun⟩
      · split
        · exact ⟨rfl, rfl, rfl, nofun⟩
        · exact ⟨rfl, rfl, rfl, nofun⟩
    · exact ⟨rfl, rfl, rfl, nofun⟩

/-- The next token fits at the place where it is looked for. -/
theorem Search.next_fitsAt (hlore : lore.Holds) {s : Search} {token : Tree}
    (h : s.next lore.tables = some token) : token.FitsAt lore s.place := by
  have hspelled := hlore.next s token h
  rw [Search.next] at h
  dsimp only at h
  split at h
  · cases h
  · split at h
    · rename_i found _
      cases h
      obtain ⟨hparts, hpadding, hsize, hlabel⟩ := s.tree_extents lore.tables found
      exact fitsAt_extent hparts hpadding hsize hlabel hspelled
    · cases h
      exact fitsAt_extent rfl rfl rfl nofun hspelled

end Overdue.Syntax
