/-
What is read of a text up to its first white space.

A text falls into runs of characters that are not white space. An item of a pattern takes white space, or it
takes a part of one run and does not look beyond its end (`Item.read_append_eq_ok_iff`). So a list of items
that reads a text in full reads the first run of it alone exactly if nothing but white space comes after
(`readItems_run_iff`): otherwise there are items left, and they find nothing. Since fields are never read from
white space, a text that is a date has a first run.
-/
import Overdue.Proofs.Calendar.StandardText

set_option autoImplicit false

namespace Overdue.Calendar

open Overdue.Text

/-! ## Numbers -/

/-- White space does not continue a number. -/
theorem startsNoDigit_append_iff {cs more : List Char} (hmore : StartsBlank more) :
    StartsNoDigit (cs ++ more) ↔ StartsNoDigit cs := by
  -- only after nothing does the white space come first
  by_cases hnil : cs = []
  · subst hnil
    refine iff_of_true ?_ startsNoDigit_nil
    intro c hc
    by_contra hdigit
    have hsolid := isSpace_of_isDigit (Bool.not_eq_false _ ▸ hdigit)
    simp [hmore c hc] at hsolid
  · simp [StartsNoDigit, hnil]

/-- A number ends at a blank, so what comes after one does not matter to it. -/
theorem Field.takes_append_iff {f : Field} {run rest more : List Char} {v : Int}
    (hmore : StartsBlank more) : f.Takes run v (rest ++ more) ↔ f.Takes run v rest := by
  -- in all three cases the rest only has to stop the digits
  constructor
  · intro h
    cases h with
    | plain hds hstop => exact .plain hds (by rwa [startsNoDigit_append_iff hmore] at hstop)
    | plus hsigned hds hstop => exact .plus hsigned hds ((startsNoDigit_append_iff hmore).mp hstop)
    | minus hsigned hds hstop => exact .minus hsigned hds ((startsNoDigit_append_iff hmore).mp hstop)
  · intro h
    cases h with
    | plain hds hstop => exact .plain hds (by rwa [startsNoDigit_append_iff hmore])
    | plus hsigned hds hstop => exact .plus hsigned hds ((startsNoDigit_append_iff hmore).mpr hstop)
    | minus hsigned hds hstop => exact .minus hsigned hds ((startsNoDigit_append_iff hmore).mpr hstop)

/-! ## Words -/

namespace NameField

/-- A name has letters to tell it apart, and no white space. -/
theorem names_solid (f : NameField) :
    ∀ name ∈ f.names, short name ≠ [] ∧ IsSolid (name.map Char.toLower) := by
  cases f with
  | month => decide
  | weekday => decide

/-- A letter is not found in the place of white space. -/
theorem isSpace_of_toLower_eq {a c : Char} (ha : isSpace a.toLower = false) (h : a.toLower = c.toLower) :
    isSpace c = false := by
  by_contra hspace
  rw [Bool.not_eq_false] at hspace
  rw [h, toLower_of_isSpace hspace, hspace] at ha
  cases ha

/-- Letters that are found are as many as were looked for. -/
theorem exists_of_dropLetters? {letters cs rest : List Char} (hletters : IsSolid (letters.map Char.toLower))
    (h : dropLetters? letters cs = some rest) :
    ∃ run, cs = run ++ rest ∧ IsSolid run ∧ run.length = letters.length := by
  induction letters generalizing cs with
  | nil =>
    cases h
    exact ⟨[], rfl, nofun, rfl⟩
  | cons a letters ih =>
    cases cs with
    | nil => cases h
    | cons c cs =>
      rw [dropLetters?] at h
      -- a letter matches in either case, so it is not the letter itself that is known to be solid
      split at h
      · rename_i hletter
        obtain ⟨run, rfl, hrun, hlength⟩ := ih (fun c hc => hletters c (List.mem_cons_of_mem _ hc)) h
        refine ⟨c :: run, rfl, ?_, congrArg (· + 1) hlength⟩
        intro b hb
        rcases List.mem_cons.mp hb with rfl | hb
        · exact isSpace_of_toLower_eq (hletters _ List.mem_cons_self) hletter
        · exact hrun b hb
      · cases h

/-- Letters that are taken along only if all of them are there. -/
theorem exists_of_dropLetters?_getD {letters : List Char} (hletters : IsSolid (letters.map Char.toLower))
    (cs : List Char) : ∃ run, cs = run ++ (dropLetters? letters cs).getD cs ∧ IsSolid run := by
  cases hdrop : dropLetters? letters cs with
  | none => exact ⟨[], rfl, nofun⟩
  | some rest =>
    obtain ⟨run, hcs, hrun, -⟩ := exists_of_dropLetters? hletters hdrop
    exact ⟨run, hcs, hrun⟩

/-- Letters end at a blank, so what comes after one does not matter to them. -/
theorem dropLetters?_append_blank {letters : List Char} (hletters : IsSolid (letters.map Char.toLower))
    {more : List Char} (hmore : StartsBlank more) (cs : List Char) :
    dropLetters? letters (cs ++ more) = (dropLetters? letters cs).map (· ++ more) := by
  induction letters generalizing cs with
  | nil => rfl
  | cons a letters ih =>
    have ih := ih (fun c hc => hletters c (List.mem_cons_of_mem _ hc))
    cases cs with
    | cons c cs =>
      rw [List.cons_append, dropLetters?, dropLetters?]
      split
      · exact ih cs
      · rfl
    | nil =>
      cases more with
      | nil => rfl
      | cons c more =>
        -- no letter is found in the white space that comes next
        have hne : a.toLower ≠ c.toLower := by
          intro hletter
          have hsolid := isSpace_of_toLower_eq (hletters _ List.mem_cons_self) hletter
          simp [hmore c rfl] at hsolid
        rw [List.nil_append, dropLetters?.eq_def (a :: letters) (c :: more)]
        exact if_neg hne

theorem isSolid_parts {name : List Char} (h : IsSolid (name.map Char.toLower)) :
    IsSolid ((short name).map Char.toLower) ∧ IsSolid ((name.drop shortLength).map Char.toLower) := by
  rw [short, List.map_take, List.map_drop]
  exact ⟨fun c hc => h c (List.mem_of_mem_take hc), fun c hc => h c (List.mem_of_mem_drop hc)⟩

variable {inFull : Bool} {names : List (List Char)}

/-- Names that have no white space are found whatever comes after a blank. -/
theorem readFrom_append_blank (hnames : ∀ name ∈ names, IsSolid (name.map Char.toLower))
    {more : List Char} (hmore : StartsBlank more) (i : Nat) (cs : List Char) :
    readFrom inFull i names (cs ++ more) =
      (readFrom inFull i names cs).map fun (j, rest) => (j, rest ++ more) := by
  induction names generalizing i with
  | nil => rfl
  | cons name names ih =>
    have ih := ih (fun other hother => hnames other (List.mem_cons_of_mem _ hother))
    obtain ⟨hshort, hlong⟩ := isSolid_parts (hnames name List.mem_cons_self)
    rw [readFrom, readFrom, ← short, dropLetters?_append_blank hshort hmore]
    -- the first letters decide on the name, and those after them on where it ends
    cases dropLetters? (short name) cs with
    | none => exact ih (i + 1)
    | some rest =>
      dsimp only [Option.map_some]
      rw [dropLetters?_append_blank hlong hmore]
      cases inFull with
      | false => rfl
      | true => cases dropLetters? (name.drop shortLength) rest <;> rfl

theorem read_append_blank (f : NameField) {more : List Char} (hmore : StartsBlank more) (cs : List Char) :
    f.read inFull (cs ++ more) = (f.read inFull cs).map fun (j, rest) => (j, rest ++ more) :=
  readFrom_append_blank (fun name hname => (f.names_solid name hname).2) hmore 0 cs

/-- A name is read from the front of a run, be it by its first letters only or with those after them. -/
theorem exists_run_of_readFrom
    (hnames : ∀ name ∈ names, short name ≠ [] ∧ IsSolid (name.map Char.toLower)) {i j : Nat}
    {cs rest : List Char} (h : readFrom inFull i names cs = some (j, rest)) :
    ∃ run, cs = run ++ rest ∧ run ≠ [] ∧ IsSolid run := by
  -- by induction on the names, of which the first that fits is taken
  induction names generalizing i with
  | nil => cases h
  | cons name names ih =>
    obtain ⟨hne, hname⟩ := hnames name List.mem_cons_self
    obtain ⟨hshort, hlong⟩ := isSolid_parts hname
    rw [readFrom] at h
    split at h
    · exact ih (fun other hother => hnames other (List.mem_cons_of_mem _ hother)) h
    · rename_i after hdrop
      obtain ⟨run, rfl, hrun, hlength⟩ := exists_of_dropLetters? hshort hdrop
      have hrunne : run ≠ [] := by
        rintro rfl
        exact hne (List.length_eq_zero_iff.mp hlength.symm)
      split at h
      · obtain ⟨-, rfl⟩ := Prod.mk.inj (Option.some.inj h)
        obtain ⟨more, hafter, hmore⟩ := exists_of_dropLetters?_getD hlong after
        refine ⟨run ++ more, ?_, List.append_ne_nil_of_left_ne_nil hrunne _, ?_⟩
        · rw [List.append_assoc, ← hafter]
        · intro c hc
          exact (List.mem_append.mp hc).elim (hrun c) (hmore c)
      · cases h
        exact ⟨run, rfl, hrunne, hrun⟩

end NameField

/-! ## Items -/

/-- An item that is white space. -/
def Item.IsSpace : Item → Prop
  | space _ => True
  | literal _ | number _ _ | name _ _ => False

section Items

variable {i : Item} {r r' : Reading} {cs rest more : List Char}

theorem Item.read_of_isSpace (h : i.IsSpace) : i.read r cs = .ok (r, trimStart cs) := by
  cases i with
  | space text => rfl
  | literal | number | name => exact h.elim

/-- A literal item takes its own text away and notes nothing. -/
theorem Item.read_literal_eq_ok_iff {text : List Char} :
    (Item.literal text).read r cs = .ok (r', rest) ↔ cs = text ++ rest ∧ r' = r := by
  rw [← dropPrefix?_eq_some_iff, Item.read]
  cases dropPrefix? text cs with
  | none => simp
  | some rest' => simp [and_comm, eq_comm]

/-- An item for a name takes the name and notes its number. -/
theorem Item.read_name_eq_ok_iff {f : NameField} {inFull : Bool} :
    (Item.name f inFull).read r cs = .ok (r', rest) ↔
      ∃ n, f.read inFull cs = some (n, rest) ∧ r.setName f n = .ok r' := by
  rw [Item.read]
  cases f.read inFull cs with
  | none => simp
  | some x =>
    obtain ⟨n, rest'⟩ := x
    constructor
    · intro h
      obtain ⟨r'', hset, ⟨⟩⟩ := bind_eq_ok_iff.mp h
      exact ⟨n, rfl, hset⟩
    · rintro ⟨_, ⟨⟩, hset⟩
      exact bind_eq_ok_iff.mpr ⟨r', hset, rfl⟩

/-- An item that is not white space takes a part of a run. -/
theorem Item.exists_run (hi : i.IsWhole) (hspace : ¬ i.IsSpace) (h : i.read r cs = .ok (r', rest)) :
    ∃ run, trimStart cs = run ++ rest ∧ run ≠ [] ∧ IsSolid run := by
  cases i with
  | space text => exact absurd trivial hspace
  | literal text =>
    obtain ⟨rfl, -⟩ := Item.read_literal_eq_ok_iff.mp h
    exact ⟨text, trimStart_run_append hi.1 hi.2 rest, hi⟩
  | number f padding =>
    obtain ⟨v, hvalue, -⟩ := Item.read_number_eq_ok_iff.mp h
    obtain ⟨run, htrim, htakes⟩ := Field.readValue_eq_ok_iff.mp hvalue
    exact ⟨run, htrim, htakes.isRun⟩
  | name f inFull =>
    obtain ⟨n, hread, -⟩ := Item.read_name_eq_ok_iff.mp h
    obtain ⟨run, rfl, hne, hrun⟩ := NameField.exists_run_of_readFrom f.names_solid hread
    exact ⟨run, trimStart_run_append hne hrun rest, hne, hrun⟩

/-- An item that can be read can also be read without the white space in front of it. -/
theorem Item.read_trimStart (hi : i.IsWhole) (h : i.read r cs = .ok (r', rest)) :
    i.read r (trimStart cs) = .ok (r', rest) := by
  cases i with
  | space text => rwa [Item.read, trimStart_trimStart]
  | literal text =>
    obtain ⟨rfl, -⟩ := Item.read_literal_eq_ok_iff.mp h
    rwa [trimStart_run_append hi.1 hi.2]
  | number f padding =>
    obtain ⟨v, hvalue, hset⟩ := Item.read_number_eq_ok_iff.mp h
    rw [Field.readValue_eq_ok_iff, ← trimStart_trimStart, ← Field.readValue_eq_ok_iff] at hvalue
    exact Item.read_number hvalue hset
  | name f inFull =>
    obtain ⟨n, hread, -⟩ := Item.read_name_eq_ok_iff.mp h
    obtain ⟨run, rfl, hne, hrun⟩ := NameField.exists_run_of_readFrom f.names_solid hread
    rwa [trimStart_run_append hne hrun]

/-- What is left of a run is one. -/
theorem Item.isSolid_of_read (hi : i.IsWhole) (hcs : IsSolid cs) (h : i.read r cs = .ok (r', rest)) :
    IsSolid rest := by
  have htrim : trimStart cs = cs := trimStart_eq_self (startsSolid_of_isSolid hcs)
  by_cases hspace : i.IsSpace
  · rw [Item.read_of_isSpace hspace, htrim] at h
    cases h
    exact hcs
  · obtain ⟨run, happend, -⟩ := Item.exists_run hi hspace h
    rw [htrim] at happend
    intro c hc
    exact hcs c (by simp [happend, hc])

/-- Inside a run an item does not look beyond its end. -/
theorem Item.read_append_eq_ok_iff (hi : i.IsWhole) (hcs : IsSolid cs) (hne : cs ≠ [])
    (hmore : StartsBlank more) :
    i.read r (cs ++ more) = .ok (r', rest) ↔
      ∃ cs', i.read r cs = .ok (r', cs') ∧ rest = cs' ++ more := by
  have htrim : trimStart (cs ++ more) = cs ++ more := trimStart_run_append hne hcs more
  have htrim' : trimStart cs = cs := trimStart_eq_self (startsSolid_of_isSolid hcs)
  cases i with
  | space text =>
    -- there is no white space to take
    simp [Item.read, htrim, htrim', and_assoc, eq_comm]
  | literal text =>
    simp only [Item.read_literal_eq_ok_iff]
    constructor
    · rintro ⟨happend, rfl⟩
      obtain ⟨cs', rfl, rfl⟩ := exists_of_append_eq_run hmore hi.2 happend
      exact ⟨cs', ⟨rfl, rfl⟩, rfl⟩
    · rintro ⟨cs', ⟨rfl, rfl⟩, rfl⟩
      exact ⟨List.append_assoc .., rfl⟩
  | number f padding =>
    simp only [Item.read_number_eq_ok_iff, Field.readValue_eq_ok_iff, htrim, htrim']
    constructor
    · rintro ⟨v, ⟨run, happend, htakes⟩, hset⟩
      -- a numeral is solid, so it ends before the white space
      obtain ⟨cs', rfl, rfl⟩ := exists_of_append_eq_run hmore htakes.isRun.2 happend
      exact ⟨cs', ⟨v, ⟨run, rfl, (Field.takes_append_iff hmore).mp htakes⟩, hset⟩, rfl⟩
    · rintro ⟨cs', ⟨v, ⟨run, rfl, htakes⟩, hset⟩, rfl⟩
      exact ⟨v, ⟨run, List.append_assoc .., (Field.takes_append_iff hmore).mpr htakes⟩, hset⟩
  | name f inFull =>
    simp only [Item.read_name_eq_ok_iff, f.read_append_blank hmore, Option.map_eq_some_iff, Prod.exists,
      Prod.mk.injEq]
    constructor
    · rintro ⟨_, ⟨n, cs', hread, rfl, rfl⟩, hset⟩
      exact ⟨cs', ⟨n, hread, hset⟩, rfl⟩
    · rintro ⟨cs', ⟨n, hread, hset⟩, rfl⟩
      exact ⟨n, ⟨n, cs', hread, rfl, rfl⟩, hset⟩

end Items

/-! ## Lists of items -/

section Runs

variable {items : List Item} {r r' : Reading} {cs rest more run : List Char}

/-- From white space only white space is read. -/
theorem isSpace_of_readItems (hitems : ∀ i ∈ items, i.IsWhole) (hcs : IsBlank cs)
    (h : readItems items r cs = .ok (r', rest)) : ∀ i ∈ items, i.IsSpace := by
  induction items generalizing r cs with
  | nil => nofun
  | cons i items ih =>
    obtain ⟨r'', rest', hread, h⟩ := readItems_cons_eq_ok_iff.mp h
    have htrim : trimStart cs = [] := List.dropWhile_eq_nil_iff.mpr hcs
    have hspace : i.IsSpace := by
      by_contra hspace
      obtain ⟨run, happend, hne, -⟩ := Item.exists_run (hitems i List.mem_cons_self) hspace hread
      rw [htrim] at happend
      exact hne (List.append_eq_nil_iff.mp happend.symm).1
    -- the white space is gone then, and what comes after it is read from nothing
    rw [Item.read_of_isSpace hspace, htrim] at hread
    cases hread
    intro j hj
    rcases List.mem_cons.mp hj with rfl | hj
    · exact hspace
    · exact ih (fun j hj => hitems j (List.mem_cons_of_mem _ hj)) isBlank_nil h j hj

/-- Items that are white space read any text, and take nothing else from it. -/
theorem readItems_of_isSpace (hitems : ∀ i ∈ items, i.IsSpace) (r : Reading) (cs : List Char) :
    ∃ rest, Trimmed rest cs ∧ readItems items r cs = .ok (r, rest) := by
  induction items generalizing cs with
  | nil => exact ⟨cs, .inl rfl, rfl⟩
  | cons i items ih =>
    obtain ⟨rest, hrest, hread⟩ := ih (fun j hj => hitems j (List.mem_cons_of_mem _ hj)) (trimStart cs)
    refine ⟨rest, .inr ?_, ?_⟩
    · rcases hrest with rfl | rfl
      · rfl
      · exact trimStart_trimStart cs
    · rw [readItems_cons (Item.read_of_isSpace (hitems i List.mem_cons_self)), hread]

/-- Items by which a text is read in full can do with nothing exactly if the text is white space. -/
theorem readItems_nil_iff (hitems : ∀ i ∈ items, i.IsWhole) (h : readItems items r cs = .ok (r', []))
    (r'' : Reading) : readItems items r [] = .ok (r'', []) ↔ IsBlank cs ∧ r'' = r' := by
  -- either way all items are white space, and these read whatever there is
  constructor
  · intro hnil
    have hspace := isSpace_of_readItems hitems isBlank_nil hnil
    obtain ⟨rest, hrest, hread⟩ := readItems_of_isSpace hspace r cs
    obtain ⟨rest', -, hread'⟩ := readItems_of_isSpace hspace r []
    rw [h] at hread
    rw [hnil] at hread'
    cases hread
    cases hread'
    exact ⟨List.dropWhile_eq_nil_iff.mp hrest.trimStart_eq.symm, rfl⟩
  · rintro ⟨hblank, rfl⟩
    have hspace := isSpace_of_readItems hitems hblank h
    obtain ⟨rest, hrest, hread⟩ := readItems_of_isSpace hspace r cs
    obtain ⟨rest', hrest', hread'⟩ := readItems_of_isSpace hspace r []
    rw [h] at hread
    cases hread
    rw [hread', hrest'.eq_of_startsSolid nofun]

/-- Where a text is read in full, its first run alone is read exactly if only white space follows it,
and then the same is read. -/
theorem readItems_run_iff (hitems : ∀ i ∈ items, i.IsWhole) (hrun : IsSolid run)
    (hmore : StartsBlank more) (h : readItems items r (run ++ more) = .ok (r', [])) (r'' : Reading) :
    readItems items r run = .ok (r'', []) ↔ IsBlank more ∧ r'' = r' := by
  -- the items take the run bit by bit, and when it is used up there is nothing left to read
  induction items generalizing r run with
  | nil =>
    obtain ⟨rfl, -⟩ := List.append_eq_nil_iff.mp (congrArg Prod.snd (Except.ok.inj h))
    exact readItems_nil_iff hitems h r''
  | cons i items ih =>
    by_cases hne : run = []
    · subst hne
      exact readItems_nil_iff hitems h r''
    · obtain ⟨r₁, rest, hread, h⟩ := readItems_cons_eq_ok_iff.mp h
      have hi := hitems i List.mem_cons_self
      obtain ⟨run', hread', rfl⟩ := (Item.read_append_eq_ok_iff hi hrun hne hmore).mp hread
      rw [readItems_cons hread']
      exact ih (fun j hj => hitems j (List.mem_cons_of_mem _ hj)) (Item.isSolid_of_read hi hrun hread') h

/-- White space in front of a text does not keep it from being read, but is not needed either. -/
theorem readItems_trimStart (hitems : ∀ i ∈ items, i.IsWhole) (h : readItems items r cs = .ok (r', [])) :
    readItems items r (trimStart cs) = .ok (r', []) := by
  cases items with
  | nil =>
    cases h
    rfl
  | cons i items =>
    obtain ⟨r₁, rest, hread, h⟩ := readItems_cons_eq_ok_iff.mp h
    rw [readItems_cons (Item.read_trimStart (hitems i List.mem_cons_self) hread), h]

/-! ## Dates -/

variable {d : Date}

/-- A date is read if all items can be read, nothing is left over, and what has been noted tells the date. -/
theorem readDate_eq_ok_iff :
    readDate items cs = .ok d ↔ ∃ r, readItems items {} cs = .ok (r, []) ∧ r.date = .ok d := by
  constructor
  · intro h
    obtain ⟨⟨r, rest⟩, hread, h⟩ := bind_eq_ok_iff.mp h
    cases rest with
    | nil => exact ⟨r, hread, h⟩
    | cons c rest => cases h
  · rintro ⟨r, hread, h⟩
    rw [readDate, hread]
    exact h

/-- White space is no date. -/
theorem not_isBlank_of_readDate (hitems : ∀ i ∈ items, i.IsWhole) (h : readDate items cs = .ok d) :
    ¬ IsBlank cs := by
  intro hblank
  obtain ⟨r, hread, hdate⟩ := readDate_eq_ok_iff.mp h
  obtain ⟨rest, -, hread'⟩ := readItems_of_isSpace (isSpace_of_readItems hitems hblank hread) {} cs
  rw [hread] at hread'
  -- nothing is known then, and that does not identify a date
  cases hread'
  cases hdate

/-- Where a text is a date, its first run is one exactly if only white space follows it, and then it is the
same date. -/
theorem readDate_run_iff (hitems : ∀ i ∈ items, i.IsWhole) (h : readDate items cs = .ok d)
    (hrun : IsSolid run) (hmore : StartsBlank more) (hcs : trimStart cs = run ++ more) (e : Date) :
    readDate items run = .ok e ↔ IsBlank more ∧ e = d := by
  obtain ⟨r, hread, hdate⟩ := readDate_eq_ok_iff.mp h
  have hread := readItems_trimStart hitems hread
  rw [hcs] at hread
  simp only [readDate_eq_ok_iff, readItems_run_iff hitems hrun hmore hread]
  constructor
  · rintro ⟨_, ⟨hblank, rfl⟩, he⟩
    rw [hdate] at he
    cases he
    exact ⟨hblank, rfl⟩
  · rintro ⟨hblank, rfl⟩
    exact ⟨r, ⟨hblank, rfl⟩, hdate⟩

end Runs

end Overdue.Calendar
