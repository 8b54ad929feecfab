/-
Scan roots with dots at the end.

Three dots at the end of a scan root ask for everything below a directory. Directories are walked to the bottom
anyway, so the dots are taken off, and the separators in front of them as well. As slashes at the end of a path
make no component (`components_append_slashes`), the root is the directory before the dots, with two exceptions.
A backslash goes with the slashes, although it is a character of a name like any other, so that a name which ends
with one is cut short. And where nothing is left the current directory is scanned, although a path of slashes alone
is the root of the file system. The main statement says that there are no other exceptions.
-/
import Mathlib.Data.List.DropRight
import Overdue.Proofs.FileSystem.Paths

set_option autoImplicit false

namespace Overdue

open Overdue.Text

/-! ## What is taken off -/

/-- The characters that are taken off in front of the dots. -/
def isSeparator (c : Char) : Bool := c == '/' || c == '\\'

theorem isSeparator_iff {c : Char} : isSeparator c = true ↔ c = '/' ∨ c = '\\' := by
  simp [isSeparator]

/-- The dots that ask for everything below a directory. -/
def dots : List Char := ['.', '.', '.']

/-- A path that does not end in three dots is the root as it is. -/
theorem scanRoot_of_not_dots {pattern : String} (h : ¬ dots <:+ pattern.toList) :
    scanRoot pattern = ⟨pattern⟩ := by
  unfold scanRoot
  split
  · rename_i base hreverse
    -- the text is looked at from its end, where the dots would stand
    refine absurd ⟨base.reverse, ?_⟩ h
    rw [List.reverse_eq_iff.mp hreverse]
    simp [dots]
  · rfl

/-- Dots are taken off together with the separators in front of them. -/
theorem scanRoot_of_dots {pattern : String} {front : List Char} (h : pattern.toList = front ++ dots) :
    scanRoot pattern =
      if front.rdropWhile isSeparator = [] then ⟨"."⟩
      else ⟨String.ofList (front.rdropWhile isSeparator)⟩ := by
  have hreverse : pattern.toList.reverse = '.' :: '.' :: '.' :: front.reverse := by
    simp [h, dots]
  have hbase : (front.reverse.dropWhile fun c => c == '/' || c == '\\').reverse =
      front.rdropWhile isSeparator := rfl
  unfold scanRoot
  rw [hreverse]
  simp only [hbase]
  split
  · rename_i hnil
    rw [if_pos hnil]
  · rename_i hne
    rw [if_neg hne]

/-- The path of a directory, given as a text, is shown as that text. -/
theorem toList_text_of_bytes {p : Path} {cs : List Char} (h : p.bytes = encode cs) : p.text.toList = cs := by
  change p.raw.bytes = _ at h
  rw [Path.text, RawText.shown, h, decode_encode, String.toList_ofList]

/-- A directory before dots is followed by a slash, unless it ends with one or is empty. -/
theorem exists_join_dots (d : String) :
    ∃ slash, ((⟨d⟩ : Path).join "...").text.toList = d.toList ++ slash ++ dots ∧ ∀ c ∈ slash, c = '/' := by
  unfold Path.join
  split
  · refine ⟨[], toList_text_of_bytes ?_, nofun⟩
    rw [List.append_nil, encode_append]
    rfl
  · refine ⟨['/'], toList_text_of_bytes ?_, by simp⟩
    rw [encode_append, encode_append, List.append_assoc]
    rfl

/-- Separators at the end are dropped together. -/
theorem rdropWhile_append_of_pos {front back : List Char} (h : ∀ c ∈ back, isSeparator c = true) :
    (front ++ back).rdropWhile isSeparator = front.rdropWhile isSeparator := by
  simp only [List.rdropWhile, List.reverse_append]
  rw [List.dropWhile_append_of_pos]
  intro c hc
  exact h c (List.mem_reverse.mp hc)

/-- The slash before the dots is taken off, so the root is made of the directory alone. -/
theorem scanRoot_join (d : String) :
    scanRoot ((⟨d⟩ : Path).join "...").text =
      if d.toList.rdropWhile isSeparator = [] then ⟨"."⟩
      else ⟨String.ofList (d.toList.rdropWhile isSeparator)⟩ := by
  obtain ⟨slash, htext, hslash⟩ := exists_join_dots d
  have hseparators : ∀ c ∈ slash, isSeparator c = true := by
    intro c hc
    rw [hslash c hc]
    decide
  rw [scanRoot_of_dots htext, rdropWhile_append_of_pos hseparators]

/-! ## Slashes at the end -/

namespace Path

/-- A slash at the end of a path makes no difference to its components. -/
theorem components_append_slash {bs : List UInt8} (hne : bs ≠ []) :
    (⟨⟨bs ++ [slash]⟩⟩ : Path).components = (⟨⟨bs⟩⟩ : Path).components := by
  obtain ⟨b, bs, rfl⟩ := List.exists_cons_of_ne_nil hne
  have hbytes : (⟨⟨b :: bs⟩⟩ : Path).bytes = b :: bs := rfl
  have hbytes' : (⟨⟨b :: bs ++ [slash]⟩⟩ : Path).bytes = b :: (bs ++ [slash]) := rfl
  by_cases hb : b = slash
  · subst hb
    rw [components_of_absolute rfl, components_of_absolute rfl, segments_of_absolute hbytes,
      segments_of_absolute hbytes', splitOn_append_cons]
    congr 1
    exact solidComponents_concat_nil _
  · have hrelative : (⟨⟨b :: bs⟩⟩ : Path).isAbsolute = false := by
      simp [isAbsolute_cons hbytes, hb]
    have hrelative' : (⟨⟨b :: bs ++ [slash]⟩⟩ : Path).isAbsolute = false := by
      rw [isAbsolute_cons hbytes', beq_eq_false_iff_ne]
      exact hb
    -- the first piece, where a dot counts, is the same in both paths
    obtain ⟨first, rest, hpieces⟩ := List.exists_cons_of_ne_nil (splitOn_ne_nil slash (b :: bs))
    have hsegments : (⟨⟨b :: bs⟩⟩ : Path).segments = first :: rest := by
      rw [segments_of_relative hrelative, hbytes, hpieces]
    have hsegments' : (⟨⟨b :: bs ++ [slash]⟩⟩ : Path).segments = first :: (rest ++ [[]]) := by
      rw [segments_of_relative hrelative', hbytes', ← List.cons_append, splitOn_append_cons, hpieces]
      rfl
    rw [components_of_relative hrelative hsegments, components_of_relative hrelative' hsegments',
      solidComponents_concat_nil]

/-- Slashes at the end of a path make no component. -/
theorem components_append_slashes {bs slashes : List UInt8} (hne : bs ≠ [])
    (hslashes : ∀ b ∈ slashes, b = slash) :
    (⟨⟨bs ++ slashes⟩⟩ : Path).components = (⟨⟨bs⟩⟩ : Path).components := by
  induction slashes using List.reverseRecOn with
  | nil => rw [List.append_nil]
  | append_singleton slashes b ih =>
    have hb : b = slash := hslashes b (by simp)
    rw [hb, ← List.append_assoc, components_append_slash (by simp [hne])]
    apply ih
    intro c hc
    exact hslashes c (by simp [hc])

/-! ## Backslashes -/

/-- The byte of a backslash. -/
def backslash : UInt8 := byteOf '\\'

/-- The bytes of a name. -/
def Component.letters : Component → List UInt8
  | name text => text.bytes
  | root | current | parent => []

/-- Each backslash of a piece stands in its component. -/
theorem count_letters_componentOf (piece : List UInt8) :
    (componentOf piece).letters.count backslash = piece.count backslash := by
  unfold componentOf
  split
  · rename_i h
    rw [h]
    rfl
  · split
    · rename_i h
      rw [h]
      rfl
    · rfl

/-- A piece that makes no component holds no backslash. -/
theorem count_solidComponents (pieces : List (List UInt8)) :
    ((solidComponents pieces).flatMap Component.letters).count backslash = pieces.flatten.count backslash := by
  induction pieces with
  | nil => rfl
  | cons piece pieces ih =>
    rw [← List.singleton_append, solidComponents_append, List.flatMap_append, List.count_append,
      List.flatten_append, List.count_append, ih]
    congr 1
    by_cases hsolid : isSolid piece = true
    · simp [solidComponents, hsolid, count_letters_componentOf]
    · have hempty : piece = [] ∨ piece = [dot] := by
        simp only [isSolid, Bool.and_eq_true, bne_iff_ne, ne_eq] at hsolid
        tauto
      rcases hempty with rfl | rfl <;> rfl

/-- There are as many backslashes in the pieces between slashes as in the whole. -/
theorem count_flatten_splitOn (bs : List UInt8) :
    (splitOn slash bs).flatten.count backslash = bs.count backslash := by
  induction bs with
  | nil => rfl
  | cons b bs ih =>
    rw [splitOn]
    split
    · rename_i hb
      rw [hb, List.flatten_cons, List.nil_append, ih, List.count_cons_of_ne (by decide)]
    · obtain ⟨piece, pieces, hpieces⟩ := List.exists_cons_of_ne_nil (splitOn_ne_nil slash bs)
      rw [hpieces] at ih ⊢
      simp only [List.flatten_cons, List.cons_append, List.count_cons] at ih ⊢
      rw [ih]

/-- Every backslash of a path is part of a name. -/
theorem count_components (p : Path) :
    (p.components.flatMap Component.letters).count backslash = p.bytes.count backslash := by
  cases habsolute : p.isAbsolute with
  | true =>
    obtain ⟨bs, hbytes⟩ : ∃ bs, p.bytes = slash :: bs := by
      simpa [isAbsolute, List.head?_eq_some_iff] using habsolute
    rw [components_of_absolute habsolute, segments_of_absolute hbytes, List.flatMap_cons, List.count_append,
      count_solidComponents, count_flatten_splitOn, hbytes, List.count_cons_of_ne (by decide)]
    exact Nat.zero_add _
  | false =>
    obtain ⟨first, rest, hpieces⟩ := List.exists_cons_of_ne_nil (splitOn_ne_nil slash p.bytes)
    have hsegments : p.segments = first :: rest := by
      rw [segments_of_relative habsolute, hpieces]
    rw [components_of_relative habsolute hsegments, ← count_flatten_splitOn p.bytes, hpieces, List.flatMap_append,
      List.count_append, count_solidComponents, List.flatten_cons, List.count_append]
    congr 1
    split
    · rename_i hdot
      rw [hdot]
      rfl
    · simp [count_solidComponents]

/-- A path that is given as a text has its backslashes in its names. -/
theorem count_components_ofString (d : String) :
    ((⟨d⟩ : Path).components.flatMap Component.letters).count backslash = d.toList.count '\\' := by
  rw [count_components]
  exact count_encode (by decide) d.toList

end Path

/-! ## The directory before the dots -/

/-- A path ends in a piece that does not end with a backslash, whatever slashes come after it. -/
def EndsInName (cs : List Char) : Prop :=
  ∃ front last slashes, cs = front ++ last :: slashes ∧ isSeparator last = false ∧ ∀ c ∈ slashes, c = '/'

/-- What is taken off are slashes, and they are not all of the path. -/
theorem endsInName_iff {cs : List Char} :
    EndsInName cs ↔ cs.rdropWhile isSeparator ≠ [] ∧ ∀ c ∈ cs.rtakeWhile isSeparator, c = '/' := by
  have hcut : cs.rdropWhile isSeparator ++ cs.rtakeWhile isSeparator = cs :=
    List.rdropWhile_append_rtakeWhile
  -- the slashes are among the separators at the end, so there is nothing else
  constructor
  · rintro ⟨front, last, slashes, rfl, hlast, hslashes⟩
    have hseparators : ∀ c ∈ slashes, isSeparator c = true := by
      intro c hc
      rw [hslashes c hc]
      decide
    have hfront : (front ++ last :: slashes).rdropWhile isSeparator = front ++ [last] := by
      rw [List.append_cons, rdropWhile_append_of_pos hseparators]
      exact List.rdropWhile_concat_neg _ _ _ (by simp [hlast])
    have hback : (front ++ last :: slashes).rtakeWhile isSeparator = slashes := by
      rw [hfront] at hcut
      simpa using hcut
    rw [hfront, hback]
    exact ⟨by simp, hslashes⟩
  · rintro ⟨hne, hslashes⟩
    refine ⟨(cs.rdropWhile isSeparator).dropLast, (cs.rdropWhile isSeparator).getLast hne, _, ?_, ?_,
      hslashes⟩
    · rw [List.append_cons, List.dropLast_concat_getLast hne]
      exact hcut.symm
    · simpa using List.rdropWhile_last_not isSeparator cs hne

/-- A path that is given as a text is absolute if the text starts with a slash. -/
theorem isAbsolute_ofString_iff {d : String} : (⟨d⟩ : Path).isAbsolute = true ↔ d.toList.head? = some '/' := by
  have hbytes : (⟨d⟩ : Path).bytes = encode d.toList := rfl
  rw [Path.isAbsolute, hbytes, beq_iff_eq]
  exact head?_encode_eq_byteOf_iff (c := '/') (by decide)

/-- A path of separators only is not the current directory: it holds a backslash, or starts at the root, or is
empty. -/
theorem components_ne_current {d : String} (h : d.toList.rdropWhile isSeparator = []) :
    (⟨"."⟩ : Path).components ≠ (⟨d⟩ : Path).components := by
  have hcurrent : (⟨"."⟩ : Path).components = [.current] := by decide
  rw [List.rdropWhile_eq_nil_iff] at h
  intro heq
  have hcount := Path.count_components_ofString d
  rw [← heq, hcurrent] at hcount
  have hback : '\\' ∉ d.toList := List.count_eq_zero.mp hcount.symm
  cases htext : d.toList with
  | nil =>
    obtain rfl : d = "" := String.toList_eq_nil_iff.mp htext
    exact absurd heq (by decide)
  | cons c cs =>
    rw [htext] at h hback
    have hc : c = '/' := by
      rcases isSeparator_iff.mp (h c (by simp)) with hc | hc
      · exact hc
      · exact absurd (by simp [hc]) hback
    have habsolute : (⟨d⟩ : Path).isAbsolute = true := isAbsolute_ofString_iff.mpr (by simp [htext, hc])
    rw [Path.components_of_absolute habsolute, hcurrent] at heq
    cases heq

/-- The directory before the dots is the root of the scan exactly if it ends in a name, apart from slashes and
with no backslash at its end. -/
theorem components_scanRoot_join_iff (d : String) :
    (scanRoot ((⟨d⟩ : Path).join "...").text).components = (⟨d⟩ : Path).components ↔ EndsInName d.toList := by
  have hcut : d.toList.rdropWhile isSeparator ++ d.toList.rtakeWhile isSeparator = d.toList :=
    List.rdropWhile_append_rtakeWhile
  rw [scanRoot_join, endsInName_iff]
  -- what is cut off is all there is only if nothing but separators is given
  by_cases hnil : d.toList.rdropWhile isSeparator = []
  · rw [if_pos hnil]
    exact iff_of_false (components_ne_current hnil) fun h => h.1 hnil
  · rw [if_neg hnil]
    constructor
    · intro heq
      refine ⟨hnil, ?_⟩
      intro c hc
      rcases isSeparator_iff.mp (List.mem_rtakeWhile_imp hc) with hslash | hback
      · exact hslash
      · -- a backslash is missing from the names
        subst hback
        have hcount := Path.count_components_ofString d
        rw [← heq, Path.count_components_ofString, String.toList_ofList] at hcount
        have hlost := congrArg (List.count '\\') hcut
        have hpos := List.count_pos_iff.mpr hc
        rw [List.count_append] at hlost
        omega
    · rintro ⟨-, hslashes⟩
      -- slashes at the end make no difference to the components
      have hbytes : RawText.ofString d = ⟨encode (d.toList.rdropWhile isSeparator) ++
          encode (d.toList.rtakeWhile isSeparator)⟩ := by
        rw [← encode_append, hcut]
        rfl
      have hfront : RawText.ofString (String.ofList (d.toList.rdropWhile isSeparator)) =
          ⟨encode (d.toList.rdropWhile isSeparator)⟩ := by
        rw [RawText.ofString, String.toList_ofList]
      rw [hbytes, hfront, Path.components_append_slashes (mt encode_eq_nil_iff.mp hnil)]
      intro b hb
      obtain ⟨c, hc, hb⟩ := List.mem_flatMap.mp hb
      rw [hslashes c hc, utf8EncodeChar_of_isBasic (by decide), List.mem_singleton] at hb
      exact hb

/-- The root of the scan is absolute exactly if the directory is, and is not made of separators only. -/
theorem isAbsolute_scanRoot_join_iff (d : String) :
    (scanRoot ((⟨d⟩ : Path).join "...").text).isAbsolute = true ↔
      (⟨d⟩ : Path).isAbsolute = true ∧ ∃ c ∈ d.toList, isSeparator c = false := by
  rw [scanRoot_join]
  by_cases hnil : d.toList.rdropWhile isSeparator = []
  · rw [if_pos hnil]
    refine iff_of_false (by decide) ?_
    rintro ⟨-, c, hc, hname⟩
    rw [List.rdropWhile_eq_nil_iff.mp hnil c hc] at hname
    cases hname
  · rw [if_neg hnil]
    have hname : ∃ c ∈ d.toList, isSeparator c = false := by
      simpa [List.rdropWhile_eq_nil_iff] using hnil
    -- what is left has the same first character
    have hhead : (d.toList.rdropWhile isSeparator).head? = d.toList.head? := by
      obtain ⟨back, hback⟩ := List.rdropWhile_prefix (p := isSeparator) (l := d.toList)
      conv_rhs => rw [← hback, List.head?_append_of_ne_nil _ hnil]
    rw [isAbsolute_ofString_iff, isAbsolute_ofString_iff, String.toList_ofList, hhead]
    exact (and_iff_left hname).symm

/-- **Dots at the end of a scan root.** A path without them is the root of the scan as it stands. With them, the
root is the directory before them, component by component, exactly if that one ends in a name without a backslash
at its end; it is absolute if the directory is, unless there are only separators in it, and then the current
directory is scanned. -/
theorem scanRoot_of_directory (d : String) :
    (scanRoot d = ⟨d⟩ ↔ ¬ dots <:+ d.toList) ∧
    ((scanRoot ((⟨d⟩ : Path).join "...").text).components = (⟨d⟩ : Path).components ↔ EndsInName d.toList) ∧
    ((scanRoot ((⟨d⟩ : Path).join "...").text).isAbsolute = true ↔
      (⟨d⟩ : Path).isAbsolute = true ∧ ∃ c ∈ d.toList, isSeparator c = false) ∧
    ((∀ c ∈ d.toList, isSeparator c = true) → scanRoot ((⟨d⟩ : Path).join "...").text = ⟨"."⟩) := by
  refine ⟨?_, components_scanRoot_join_iff d, isAbsolute_scanRoot_join_iff d, ?_⟩
  · refine ⟨?_, scanRoot_of_not_dots⟩
    -- a root without the dots is a shorter text
    rintro hsame ⟨front, hdots⟩
    have hlength := congrArg (fun p : Path => p.text.toList.length) hsame
    rw [scanRoot_of_dots hdots.symm] at hlength
    have hshort := (List.rdropWhile_prefix (p := isSeparator) (l := front)).length_le
    split at hlength
    · simp [Path.text, ← hdots, dots] at hlength
    · simp [Path.text, ← hdots, dots] at hlength
      omega
  · intro h
    rw [scanRoot_join, if_pos (List.rdropWhile_eq_nil_iff.mpr h)]

/-- Of two slashes nothing is left, so the current directory is scanned instead of the root. -/
theorem scanRoot_of_directory_slashes :
    (∀ c ∈ "//".toList, isSeparator c = true) ∧ scanRoot "//..." = ⟨"."⟩ := by
  have hslashes : ∀ c ∈ "//".toList, isSeparator c = true := List.all_eq_true.mp (by decide)
  have htext : ((⟨"//"⟩ : Path).join "...").text = "//..." := by decide
  exact ⟨hslashes, htext ▸ (scanRoot_of_directory "//").2.2.2 hslashes⟩

/-- The dots do not always leave the directory as it is: after the root of the file system they ask for the
current directory. -/
theorem not_forall_components_scanRoot :
    ¬ ∀ d : String, d ≠ "" → ¬ dots <:+ d.toList →
      (scanRoot ((⟨d⟩ : Path).join "...").text).components = (⟨d⟩ : Path).components := by
  intro h
  have hroot := h "/" (by decide) (by decide)
  have hcurrent : (scanRoot ((⟨"/"⟩ : Path).join "...").text).components = [.current] := by decide
  rw [hcurrent] at hroot
  exact absurd hroot (by decide)

end Overdue
