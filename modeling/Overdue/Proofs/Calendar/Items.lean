/-
Items of a pattern that are written and read back.

A word is read back wherever it stands, because its first letters tell it apart. A number is not: its digits
are read as long as there are any and the field has room for them, so a number that leaves room and is
followed by a digit is read as a larger one. Of such a number it is said that it runs on. Items of which none
runs on are read back from what is written, whatever their order (`readItems_renderItems`), and the first
number that runs on is misread (`Field.readValue_ne_of_runsOn`).

White space is read as it comes, so at any time some of the text may have been taken already; `Trimmed` is
the invariant that says so.
-/
import Overdue.Proofs.Calendar.Identification

set_option autoImplicit false

namespace Overdue.Calendar

open Overdue.Text

/-! ## Words -/

namespace NameField

theorem dropLetters?_append (name rest : List Char) : dropLetters? name (name ++ rest) = some rest := by
  induction name with
  | nil => rfl
  | cons c cs ih => rw [List.cons_append, dropLetters?, if_pos rfl, ih]

/-- Letters are not found in the place of other ones. -/
theorem dropLetters?_eq_none {a b : List Char} (hlength : a.length = b.length)
    (h : a.map Char.toLower ≠ b.map Char.toLower) (rest : List Char) :
    dropLetters? a (b ++ rest) = none := by
  induction a generalizing b with
  | nil =>
    cases b with
    | nil => exact absurd rfl h
    | cons => cases hlength
  | cons x a ih =>
    cases b with
    | nil => cases hlength
    | cons y b =>
      rw [List.cons_append, dropLetters?]
      split
      · rename_i hletter
        refine ih (Nat.succ.inj hlength) ?_
        intro heq
        exact h (by rw [List.map_cons, List.map_cons, hletter, heq])
      · rfl

/-- The letters that tell a name apart from the other ones. -/
def short (name : List Char) : List Char := name.take shortLength

/-- A name is found in the place of its letters, whatever names are tried before it. -/
theorem readFrom_append {inFull : Bool} {before after : List (List Char)} {name : List Char}
    (hbefore : ∀ other ∈ before, (short other).length = (short name).length ∧
      (short other).map Char.toLower ≠ (short name).map Char.toLower) (i : Nat) (rest : List Char) :
    readFrom inFull i (before ++ name :: after) ((if inFull then name else short name) ++ rest) =
      some (i + before.length, rest) := by
  -- whatever is written starts with the letters that tell names apart
  have hwritten : (if inFull then name else short name) ++ rest =
      short name ++ ((if inFull then name.drop shortLength else []) ++ rest) := by
    cases inFull with
    | true => rw [if_pos rfl, if_pos rfl, ← List.append_assoc, short, List.take_append_drop]
    | false => rfl
  rw [hwritten]
  induction before generalizing i with
  | nil =>
    rw [List.nil_append, readFrom, ← short, dropLetters?_append]
    cases inFull with
    | true =>
      dsimp only
      rw [if_pos rfl, if_pos rfl, dropLetters?_append]
      rfl
    | false => rfl
  | cons other before ih =>
    obtain ⟨hlength, hother⟩ := hbefore other List.mem_cons_self
    rw [List.cons_append, readFrom, ← short, dropLetters?_eq_none hlength hother]
    dsimp only
    rw [ih (fun o ho => hbefore o (List.mem_cons_of_mem _ ho)) (i + 1), List.length_cons]
    congr 2
    omega

/-- The short names of months and days have three letters each, and no two of them are the same. -/
theorem names_apart (f : NameField) :
    (∀ name ∈ f.names, (short name).length = 3) ∧
    f.names.Pairwise fun a b => (short a).map Char.toLower ≠ (short b).map Char.toLower := by
  cases f with
  | month => decide
  | weekday => decide

theorem indexOf_lt (f : NameField) (d : Date) : f.indexOf d < f.names.length := by
  cases f with
  | month =>
    have := d.month_le
    change d.month - 1 < 12
    omega
  | weekday => exact d.weekday.index_lt

/-- The name of a date stands at its position, and is written in full or by its letters. -/
theorem exists_name (f : NameField) (inFull : Bool) (d : Date) :
    ∃ before name after, f.names = before ++ name :: after ∧ before.length = f.indexOf d ∧
      f.render inFull d = if inFull then name else short name := by
  have hindex := f.indexOf_lt d
  have hlength : (f.names.take (f.indexOf d)).length = f.indexOf d := by
    rw [List.length_take, Nat.min_eq_left hindex.le]
  refine ⟨f.names.take (f.indexOf d), f.names[f.indexOf d], f.names.drop (f.indexOf d + 1), ?_, hlength, ?_⟩
  · rw [← List.drop_eq_getElem_cons hindex, List.take_append_drop]
  · rw [render, List.getD_eq_getElem?_getD, List.getElem?_eq_getElem hindex]
    rfl

/-- The name of a date is read back. -/
theorem read_render (f : NameField) (inFull : Bool) (d : Date) (rest : List Char) :
    f.read inFull (f.render inFull d ++ rest) = some (f.indexOf d, rest) := by
  obtain ⟨hlength, hapart⟩ := f.names_apart
  obtain ⟨before, name, after, hnames, hbefore, hrender⟩ := f.exists_name inFull d
  rw [hnames] at hlength hapart
  rw [read, hrender, hnames, readFrom_append ?_ 0 rest, Nat.zero_add, hbefore]
  intro other hother
  rw [hlength other (by simp [hother]), hlength name (by simp)]
  exact ⟨rfl, (List.pairwise_append.mp hapart).2.2 other hother name List.mem_cons_self⟩

instance (cs : List Char) : Decidable (StartsSolid cs) :=
  decidable_of_iff (cs.head?.all (!isSpace ·) = true) (by cases cs <;> simp [StartsSolid])

/-- No name begins with white space. -/
theorem startsSolid_names (f : NameField) :
    ∀ name ∈ f.names, (name ≠ [] ∧ StartsSolid name) ∧
      (short name ≠ [] ∧ StartsSolid (short name)) := by
  cases f with
  | month => decide
  | weekday => decide

theorem startsSolid_render (f : NameField) (inFull : Bool) (d : Date) (rest : List Char) :
    StartsSolid (f.render inFull d ++ rest) := by
  obtain ⟨before, name, after, hnames, -, hrender⟩ := f.exists_name inFull d
  obtain ⟨hname, hshort⟩ := f.startsSolid_names name (by simp [hnames])
  rw [hrender]
  cases inFull with
  | true => exact startsSolid_append hname.2 hname.1
  | false => exact startsSolid_append hshort.2 hshort.1

end NameField

/-! ## Numbers -/

theorem singleton_digitChar {n : Nat} (h : n < 10) (padding : Padding) :
    [digitChar n] = padded padding 1 n := by
  rw [padded, digits, Nat.toDigits_of_lt_base h, digitChar_eq_digitChar h]
  cases padding <;> rfl

/-- Every number of a recent date is filled up to the width of its field in the same way. -/
theorem Field.render_eq_padded {d : Date} (h : d.IsRecent) (f : Field) (padding : Padding) :
    f.render padding d = padded padding f.width (f.numberOf d) := by
  have hnumber := f.numberOf_lt h
  obtain ⟨hweek, hweek'⟩ := h.weekYear
  obtain ⟨hyear, hyear'⟩ := h
  cases f with
  | year | weekYear => exact if_pos ⟨by omega, by omega⟩
  | quarter | daysFromSunday | dayOfWeek => exact singleton_digitChar hnumber padding
  | ordinal => rfl
  | _ => exact twoPlaces_eq_padded hnumber

theorem countP_isDigit_blanks {blanks : List Char} (h : IsBlank blanks) :
    blanks.countP Char.isDigit = 0 := by
  rw [List.countP_eq_zero]
  intro c hc hdigit
  have := isSpace_of_isDigit hdigit
  rw [h c hc] at this
  cases this

theorem isBlank_replicate_blank (n : Nat) : IsBlank (List.replicate n ' ') := by
  intro c hc
  rw [(List.mem_replicate.mp hc).2]
  decide

/-- A number that fits its field is written as a numeral after blanks. -/
theorem exists_numeral_of_padded (padding : Padding) {width n : Nat} (h : n < Nat.pow 10 width)
    (hwidth : 0 < width) :
    ∃ blanks ds, padded padding width n = blanks ++ ds ∧ IsBlank blanks ∧ IsNumeral ds ∧
      valueOf ds = n ∧ ds.length ≤ width := by
  have hlength : (digits n).length ≤ width :=
    (Nat.length_toDigits_le_iff (by decide) hwidth).mpr h
  cases padding with
  | none => exact ⟨[], digits n, rfl, isBlank_nil, isNumeral_digits n, valueOf_digits n, hlength⟩
  | zero =>
    exact ⟨[], padded .zero width n, rfl, isBlank_nil, isNumeral_padded width n,
      valueOf_padded width n, (length_padded hlength).le⟩
  | space =>
    exact ⟨_, digits n, rfl, isBlank_replicate_blank _, isNumeral_digits n, valueOf_digits n, hlength⟩

/-- A field of a recent date is written as blanks and then a numeral of its number, which is no wider than the field.
-/
theorem Field.exists_numeral {d : Date} (hd : d.IsRecent) (f : Field) (padding : Padding) :
    ∃ blanks ds, f.render padding d = blanks ++ ds ∧ IsBlank blanks ∧ IsNumeral ds ∧
      valueOf ds = f.numberOf d ∧ ds.length ≤ f.width ∧
      (f.render padding d).countP Char.isDigit = ds.length := by
  have hwidth : 0 < f.width := by cases f <;> decide
  obtain ⟨blanks, ds, hrender, hblanks, hds, hvalue, hlength⟩ :=
    exists_numeral_of_padded padding (f.numberOf_lt hd) hwidth
  rw [f.render_eq_padded hd]
  refine ⟨blanks, ds, hrender, hblanks, hds, hvalue, hlength, ?_⟩
  rw [hrender, List.countP_append, countP_isDigit_blanks hblanks, Nat.zero_add,
    List.countP_eq_length.mpr hds.2]

/-- A number runs on if it leaves room for more digits and is followed by one. -/
def Field.RunsOn (f : Field) (padding : Padding) (d : Date) (rest : List Char) : Prop :=
  (f.render padding d).countP Char.isDigit < f.width ∧ ¬ StartsNoDigit rest

instance (cs : List Char) : Decidable (StartsNoDigit cs) :=
  decidable_of_iff (cs.head?.all (!·.isDigit) = true) (by cases cs <;> simp [StartsNoDigit])

instance (f : Field) (padding : Padding) (d : Date) (rest : List Char) :
    Decidable (f.RunsOn padding d rest) :=
  inferInstanceAs (Decidable (_ ∧ _))

/-! ## Texts of which white space has been taken -/

/-- A text is left of another one if it is the same, or lacks the white space at the start. -/
def Trimmed (cs text : List Char) : Prop := cs = text ∨ cs = trimStart text

/-- Taking the white space away once more makes no difference. -/
theorem Trimmed.trimStart_eq {cs text : List Char} (h : Trimmed cs text) :
    trimStart cs = trimStart text := by
  rcases h with rfl | rfl
  · rfl
  · exact trimStart_trimStart text

/-- Where there is no white space at the start none can have been taken away. -/
theorem Trimmed.eq_of_startsSolid {cs text : List Char} (h : Trimmed cs text)
    (hsolid : StartsSolid text) : cs = text := by
  rcases h with rfl | rfl
  · rfl
  · exact trimStart_eq_self hsolid

/-- A number is looked for where white space ends. -/
theorem Field.readValue_of_trimmed {f : Field} {cs blanks ds rest : List Char}
    (hcs : Trimmed cs (blanks ++ ds ++ rest)) (hblanks : IsBlank blanks) :
    f.readValue cs = f.readValue (ds ++ rest) := by
  have htrim : trimStart cs = trimStart (ds ++ rest) := by
    rw [hcs.trimStart_eq, List.append_assoc, trimStart_blanks_append hblanks]
  rw [Field.readValue, htrim, ← Field.readValue]

/-- What was written for a field is read back where nothing behind it runs on. -/
theorem Field.readValue_render {d : Date} (hd : d.IsRecent) {f : Field} {padding : Padding}
    {cs rest : List Char} (hapart : ¬ f.RunsOn padding d rest)
    (hcs : Trimmed cs (f.render padding d ++ rest)) :
    f.readValue cs = .ok (f.numberOf d, rest) := by
  obtain ⟨blanks, ds, hrender, hblanks, hds, hvalue, hlength, hcount⟩ := f.exists_numeral hd padding
  rw [Field.RunsOn, hcount] at hapart
  rw [hrender] at hcs
  rw [Field.readValue_of_trimmed hcs hblanks, Field.readValue_append hds ?_, hvalue]
  by_cases hfull : ds.length = f.width
  · exact .inl hfull
  · refine .inr ⟨hlength, ?_⟩
    by_contra hrest
    exact hapart ⟨by omega, hrest⟩

/-! ## Numbers that run on -/

/-- More digits do not make a number smaller. -/
theorem le_valueOf_append (ds es : List Char) : valueOf ds ≤ valueOf (ds ++ es) := by
  rw [valueOf, valueOf, List.foldl_append]
  generalize ds.foldl _ 0 = n
  induction es generalizing n with
  | nil => exact Nat.le_refl n
  | cons c es ih =>
    rw [List.foldl_cons]
    refine Nat.le_trans ?_ (ih _)
    omega

/-- A digit more makes a number larger, except that a zero after a zero does not. -/
theorem valueOf_lt_append_cons {ds : List Char} {c : Char} (hc : c.isDigit = true)
    (hzero : valueOf ds = 0 → c ≠ '0') (es : List Char) : valueOf ds < valueOf (ds ++ c :: es) := by
  have hle := le_valueOf_append (ds ++ [c]) es
  rw [List.append_assoc, List.singleton_append] at hle
  have hstep : valueOf (ds ++ [c]) = valueOf ds * 10 + (c.toNat - '0'.toNat) := by
    rw [valueOf, List.foldl_append]
    rfl
  by_cases hvalue : valueOf ds = 0
  · have hne : c.toNat ≠ '0'.toNat := fun h => hzero hvalue (Char.toNat_inj.mp h)
    have hlow : '0'.toNat ≤ c.toNat := by
      have hrange : 48 ≤ c.toNat ∧ c.toNat ≤ 57 := by
        simpa [Char.isDigit, UInt32.le_iff_toNat_le] using hc
      exact hrange.1
    omega
  · omega

/-- Where there is room for it, a digit after a number is read as one of the number. -/
theorem readNumber_append_cons {width : Nat} {ds : List Char} {c : Char} (hds : IsNumeral ds)
    (hc : c.isDigit = true) (hroom : ds.length < width) (rest : List Char) :
    ∃ es rest', readNumber width (ds ++ c :: rest) = .ok (valueOf (ds ++ c :: es), rest') := by
  have htake : (ds ++ c :: rest).take width = ds ++ c :: rest.take (width - ds.length - 1) := by
    obtain ⟨room, rfl⟩ : ∃ room, width = ds.length + (room + 1) := ⟨width - ds.length - 1, by omega⟩
    rw [List.take_append, List.take_of_length_le (by omega), Nat.add_sub_cancel_left,
      List.take_succ_cons, Nat.add_sub_cancel]
  generalize rest.take (width - ds.length - 1) = next at htake
  have hsplit : splitWhile Char.isDigit (ds ++ c :: next) =
      (ds ++ c :: next.takeWhile Char.isDigit, next.dropWhile Char.isDigit) := by
    rw [splitWhile, List.takeWhile_append_of_pos hds.2, List.dropWhile_append_of_pos hds.2,
      List.takeWhile_cons_of_pos hc, List.dropWhile_cons_of_pos hc]
  have hdigits : readDigits (ds ++ c :: next) =
      .ok (valueOf (ds ++ c :: next.takeWhile Char.isDigit), next.dropWhile Char.isDigit) := by
    rw [readDigits, hsplit]
    cases ds with
    | nil => rfl
    | cons => rfl
  refine ⟨next.takeWhile Char.isDigit,
    next.dropWhile Char.isDigit ++ (ds ++ c :: rest).drop width, ?_⟩
  rw [readNumber, htake, hdigits, ok_bind]
  rfl

/-- A number that runs on is misread, unless it is zero and the digit after it is zero as well. -/
theorem Field.readValue_ne_of_runsOn {d : Date} (hd : d.IsRecent) {f : Field} {padding : Padding}
    {cs rest rest' : List Char} {v : Int} (hruns : f.RunsOn padding d rest)
    (hzero : f.numberOf d = 0 → rest.head? ≠ some '0')
    (hcs : Trimmed cs (f.render padding d ++ rest)) (hread : f.readValue cs = .ok (v, rest')) :
    v ≠ f.numberOf d := by
  obtain ⟨blanks, ds, hrender, hblanks, hds, hvalue, -, hcount⟩ := f.exists_numeral hd padding
  obtain ⟨hroom, hdigit⟩ := hruns
  rw [hcount] at hroom
  rw [hrender] at hcs
  cases rest with
  | nil => exact absurd nofun hdigit
  | cons c rest =>
    have hc : c.isDigit = true := by
      by_contra hnot
      refine hdigit ?_
      rintro _ ⟨⟩
      exact Bool.not_eq_true _ ▸ hnot
    have hnext : valueOf ds = 0 → c ≠ '0' := by
      intro h heq
      exact hzero (hvalue ▸ h) (congrArg some heq)
    -- the next digit is taken too, and makes the number larger
    obtain ⟨es, rest'', hnumber⟩ := readNumber_append_cons hds hc hroom rest
    have hlarger := valueOf_lt_append_cons hc hnext es
    rw [Field.readValue_of_trimmed hcs hblanks, Field.readValue_numeral hds, hnumber] at hread
    cases hread
    omega

/-! ## Items -/

/-- An item as it stands in a pattern: a text that stands for itself does not start with white space. -/
def Item.IsProper : Item → Prop
  | literal text => text ≠ [] ∧ StartsSolid text
  | space text => IsBlank text
  | number _ _ | name _ _ => True

theorem dropPrefix?_append (text rest : List Char) : dropPrefix? text (text ++ rest) = some rest :=
  dropPrefix?_eq_some_iff.mpr rfl

/-- An item ends where it should: it is no number that runs on. -/
def Item.Ends (d : Date) (rest : List Char) : Item → Prop
  | number f padding => ¬ f.RunsOn padding d rest
  | literal _ | space _ | name _ _ => True

instance (d : Date) (rest : List Char) : (i : Item) → Decidable (i.Ends d rest)
  | .number f padding => inferInstanceAs (Decidable (¬ f.RunsOn padding d rest))
  | .literal _ | .space _ | .name _ _ => .isTrue trivial

/-- An item is read back from what is written, and white space after it may be taken along. -/
theorem Item.read_render {d : Date} (hd : d.IsRecent) {i : Item} (hi : i.IsProper)
    {cs rest : List Char} (hends : i.Ends d rest) (hcs : Trimmed cs (i.render d ++ rest))
    (known : List Field) :
    ∃ rest', Trimmed rest' rest ∧
      i.read (Reading.of known d) cs = .ok (Reading.of (i.field?.toList ++ known) d, rest') := by
  -- one case for each kind of item; only numbers may run on
  cases i with
  | literal text =>
    obtain rfl := hcs.eq_of_startsSolid (startsSolid_append hi.2 hi.1)
    refine ⟨rest, .inl rfl, ?_⟩
    rw [Item.read, Item.render, dropPrefix?_append]
    rfl
  | space text =>
    refine ⟨trimStart cs, .inr ?_, rfl⟩
    rw [hcs.trimStart_eq]
    exact trimStart_blanks_append hi
  | number f padding =>
    refine ⟨rest, .inl rfl, ?_⟩
    exact Item.read_number (Field.readValue_render hd hends hcs) (Reading.set_of hd known f padding)
  | name f inFull =>
    obtain rfl := hcs.eq_of_startsSolid (f.startsSolid_render inFull d rest)
    refine ⟨rest, .inl rfl, ?_⟩
    rw [Item.read, Item.render, NameField.read_render]
    dsimp only
    rw [Reading.setName_of]
    rfl

/-! ## Lists of items -/

/-- Of the items none is a number that runs on in front of the items after it, or of a text after all. -/
def NumbersApart (d : Date) (rest : List Char) : List Item → Prop
  | [] => True
  | i :: items => i.Ends d (renderItems items d ++ rest) ∧ NumbersApart d rest items

instance NumbersApart.decidable (d : Date) (rest : List Char) :
    (items : List Item) → Decidable (NumbersApart d rest items)
  | [] => .isTrue trivial
  | i :: items =>
    have := NumbersApart.decidable d rest items
    inferInstanceAs (Decidable (i.Ends d (renderItems items d ++ rest) ∧ _))

/-- Items are read back from what is written if no number runs on, and reading goes on after them. -/
theorem readItems_renderItems {d : Date} (hd : d.IsRecent) {items : List Item}
    (hitems : ∀ i ∈ items, i.IsProper) {cs rest : List Char} (hapart : NumbersApart d rest items)
    (hcs : Trimmed cs (renderItems items d ++ rest)) (known : List Field) (after : List Item) :
    ∃ rest', Trimmed rest' rest ∧
      readItems (items ++ after) (Reading.of known d) cs =
        readItems after (Reading.of ((items.filterMap Item.field?).reverse ++ known) d) rest' := by
  induction items generalizing cs known with
  | nil => exact ⟨cs, hcs, rfl⟩
  | cons i items ih =>
    obtain ⟨hends, hapart⟩ := hapart
    have hcs' : Trimmed cs (i.render d ++ (renderItems items d ++ rest)) := by
      rwa [← List.append_assoc]
    obtain ⟨next, hnext, hread⟩ :=
      Item.read_render hd (hitems i List.mem_cons_self) hends hcs' known
    obtain ⟨rest', hrest, hmore⟩ :=
      ih (fun j hj => hitems j (List.mem_cons_of_mem _ hj)) hapart hnext (i.field?.toList ++ known)
    refine ⟨rest', hrest, ?_⟩
    rw [List.cons_append, readItems_cons hread, hmore]
    cases hfield : i.field? with
    | none => rw [List.filterMap_cons_none hfield]; rfl
    | some f =>
      rw [List.filterMap_cons_some hfield, List.reverse_cons, List.append_assoc]
      rfl

end Overdue.Calendar
