/-
Paths of entries, and the order of paths.

The path of an entry of a directory is the path of the directory with the name of the entry after a slash. Names
hold no slash, so that name is the last piece of the path and its last component (`steps_join`,
`components_join`), and whether the entry is a source file is a matter of its own name (`isSupported_join_iff`).
Without the current directory at its start a path has the same other components (`Path.dropCurrent_cases`).
Paths are ordered by their components: this order is total, and two paths that come no later than each other
have the same components (`Path.components_eq_of_le`).
-/
import Mathlib.Data.List.TakeDrop
import Overdue.Discovery
import Overdue.Proofs.Text.Encoding
import Overdue.Proofs.Text.Runs

set_option autoImplicit false

namespace Overdue

open Overdue.Text

/-! ## Pieces of a text -/

namespace Text

section Split

variable {α : Type}

section Pieces

variable [DecidableEq α]

theorem splitOn_ne_nil (separator : α) (cs : List α) : splitOn separator cs ≠ [] := by
  cases cs with
  | nil => exact List.cons_ne_nil _ _
  | cons c cs =>
    rw [splitOn]
    split
    · exact List.cons_ne_nil _ _
    · split <;> exact List.cons_ne_nil _ _

/-- A text is cut where the character stands. -/
theorem splitOn_append_cons (separator : α) (cs ds : List α) :
    splitOn separator (cs ++ separator :: ds) = splitOn separator cs ++ splitOn separator ds := by
  induction cs with
  | nil => exact if_pos rfl
  | cons c cs ih =>
    rw [List.cons_append, splitOn, splitOn]
    split
    · rw [ih, List.cons_append]
    · rw [ih]
      cases hpieces : splitOn separator cs with
      | nil => exact absurd hpieces (splitOn_ne_nil separator cs)
      | cons piece pieces => rfl

/-- Without a separator there is one piece. -/
theorem splitOn_of_not_mem {separator : α} {cs : List α} (h : separator ∉ cs) :
    splitOn separator cs = [cs] := by
  induction cs with
  | nil => rfl
  | cons c cs ih =>
    obtain ⟨hc, hcs⟩ := not_or.mp (mt List.mem_cons.mpr h)
    rw [splitOn, if_neg (Ne.symm hc), ih hcs]

/-- What is in front of the first separator belongs to the first piece. -/
theorem splitOn_append_of_not_mem {separator : α} {cs ds piece : List α} {pieces : List (List α)}
    (h : separator ∉ cs) (hds : splitOn separator ds = piece :: pieces) :
    splitOn separator (cs ++ ds) = (cs ++ piece) :: pieces := by
  induction cs with
  | nil => exact hds
  | cons c cs ih =>
    obtain ⟨hc, hcs⟩ := not_or.mp (mt List.mem_cons.mpr h)
    rw [List.cons_append, splitOn, if_neg (Ne.symm hc), ih hcs]
    rfl

/-- Splitting is that of the library. -/
theorem splitOn_eq (separator : α) (cs : List α) :
    splitOn separator cs = cs.splitOn separator := by
  induction cs with
  | nil => rfl
  | cons c cs ih =>
    rw [splitOn, List.splitOn_cons_eq_if_modifyHead, ih]
    simp only [beq_iff_eq]
    congr 1
    cases hpieces : cs.splitOn separator with
    | nil => exact absurd hpieces (List.splitOn_ne_nil _ _)
    | cons piece pieces => rfl

/-- There is no separator in a piece. -/
theorem not_mem_of_mem_splitOn {separator : α} {cs piece : List α}
    (h : piece ∈ splitOn separator cs) : separator ∉ piece := by
  induction cs generalizing piece with
  | nil =>
    rw [splitOn, List.mem_singleton] at h
    rw [h]
    exact List.not_mem_nil
  | cons c cs ih =>
    rw [splitOn] at h
    split at h
    · rcases List.mem_cons.mp h with rfl | h
      · exact List.not_mem_nil
      · exact ih h
    · rename_i hc
      cases hpieces : splitOn separator cs with
      | nil => exact absurd hpieces (splitOn_ne_nil _ _)
      | cons first rest =>
        rw [hpieces] at h ih
        rcases List.mem_cons.mp h with rfl | h
        · exact List.not_mem_cons_of_ne_of_not_mem (Ne.symm hc) (ih List.mem_cons_self)
        · exact ih (List.mem_cons_of_mem _ h)

end Pieces

/-- The last pieces make up the end of the whole. -/
theorem isSuffix_intercalate {separator : List α} {back pieces : List (List α)} (h : back <:+ pieces) :
    separator.intercalate back <:+ separator.intercalate pieces := by
  obtain ⟨front, rfl⟩ := h
  induction front with
  | nil => exact List.suffix_rfl
  | cons piece front ih =>
    cases hmore : front ++ back with
    | nil =>
      rw [(List.append_eq_nil_iff.mp hmore).2]
      exact List.nil_suffix
    | cons next more =>
      rw [List.cons_append, List.intercalate_cons_of_ne_nil (by rw [hmore]; exact List.cons_ne_nil _ _)]
      exact List.suffix_append_of_suffix ih

/-- The first pieces make up the beginning of the whole. -/
theorem isPrefix_intercalate {separator : List α} {front pieces : List (List α)} (h : front <+: pieces) :
    separator.intercalate front <+: separator.intercalate pieces := by
  obtain ⟨back, rfl⟩ := h
  induction front with
  | nil => exact List.nil_prefix
  | cons piece front ih =>
    cases front with
    | nil =>
      cases back with
      | nil => exact List.prefix_rfl
      | cons next back =>
        rw [List.intercalate_singleton, List.singleton_append, List.intercalate_cons_cons, List.append_assoc]
        exact List.prefix_append _ _
    | cons next front =>
      simp only [List.cons_append, List.intercalate_cons_cons] at ih ⊢
      exact (List.prefix_append_right_inj _).mpr ih

/-- Some of the pieces of a text, put together again, are a part of the text. -/
theorem isInfix_intercalate {separator : List α} {part pieces : List (List α)} (h : part <:+: pieces) :
    separator.intercalate part <:+: separator.intercalate pieces := by
  obtain ⟨front, back, rfl⟩ := h
  exact (isSuffix_intercalate (List.suffix_append front part)).isInfix.trans
    (isPrefix_intercalate (List.prefix_append _ back)).isInfix

end Split

/-- Pieces are the same, whether characters are cut or their bytes. -/
theorem splitOn_encode {separator : Char} (hseparator : IsBasic separator) (cs : List Char) :
    splitOn (byteOf separator) (encode cs) = (splitOn separator cs).map encode := by
  induction cs with
  | nil => rfl
  | cons c cs ih =>
    rw [encode_cons, splitOn]
    split
    · rename_i hc
      rw [hc, utf8EncodeChar_of_isBasic hseparator, List.singleton_append, splitOn, if_pos rfl, ih]
      rfl
    · rename_i hc
      -- none of the bytes of another character is the separator, so they all go to the first piece
      have hnot := mt (byteOf_mem_utf8EncodeChar_iff hseparator (d := c)).mp (Ne.symm hc)
      obtain ⟨piece, pieces, hpieces⟩ := List.exists_cons_of_ne_nil (splitOn_ne_nil separator cs)
      rw [hpieces, List.map_cons] at ih
      rw [splitOn_append_of_not_mem hnot ih, hpieces, List.map_cons, encode_cons]

/-- A text occurs inside another one if it stands somewhere in it. -/
theorem occursIn_iff {part cs : List Char} : occursIn part cs = true ↔ part <:+: cs := by
  induction cs with
  | nil => rw [occursIn, List.isEmpty_iff, List.infix_nil]
  | cons c cs ih =>
    rw [occursIn, Bool.or_eq_true, List.isPrefixOf_iff_prefix, ih, List.infix_cons_iff]

end Text

/-! ## Names -/

/-- A text that can be the name of an entry. -/
structure IsName (name : RawText) : Prop where
  ne_empty : name ≠ ""
  ne_current : name ≠ "."
  ne_parent : name ≠ ".."
  no_slash : Path.slash ∉ name.bytes
  no_null : 0 ∉ name.bytes
  le_limit : name.bytes.length ≤ FileSystem.nameLimit

instance (name : RawText) : Decidable (IsName name) :=
  decidable_of_iff (name ≠ "" ∧ name ≠ "." ∧ name ≠ ".." ∧ Path.slash ∉ name.bytes ∧ 0 ∉ name.bytes ∧
      name.bytes.length ≤ FileSystem.nameLimit)
    ⟨fun ⟨hempty, hcurrent, hparent, hslash, hnull, hlimit⟩ => ⟨hempty, hcurrent, hparent, hslash, hnull, hlimit⟩,
      fun h => ⟨h.ne_empty, h.ne_current, h.ne_parent, h.no_slash, h.no_null, h.le_limit⟩⟩

namespace Path

@[simp] theorem bytes_mk (raw : RawText) : (mk raw).bytes = raw.bytes := rfl

theorem eq_of_bytes {p q : Path} (h : p.bytes = q.bytes) : p = q := by
  obtain ⟨⟨_⟩⟩ := p
  obtain ⟨⟨_⟩⟩ := q
  exact congrArg (fun bs => (⟨⟨bs⟩⟩ : Path)) h

/-- A path that is a text is told by how it is shown. -/
theorem mk_text {p : Path} (h : p.text?.isSome = true) : (⟨p.text⟩ : Path) = p := by
  obtain ⟨t, ht⟩ := Option.isSome_iff_exists.mp h
  have hshown : p.text = t := RawText.shown_of_text? ht
  have hraw : p.raw = RawText.ofString t := RawText.text?_eq_some_iff.mp ht
  rw [hshown, ← hraw]

section Join

variable {p : Path} {name : RawText}

/-- The path of an entry is that of the directory, a slash unless there is one at the end, and the name. -/
theorem exists_base (hp : p.bytes ≠ []) (name : RawText) :
    ∃ base, (p.join name).bytes = base ++ slash :: name.bytes ∧ (p.bytes = base ∨ p.bytes = base ++ [slash]) := by
  obtain ⟨base, last, hlast⟩ : ∃ base last, p.bytes = base ++ [last] :=
    ⟨_, _, (List.dropLast_concat_getLast hp).symm⟩
  unfold join
  rw [hlast, List.getLast?_concat]
  split
  · rename_i h
    have hslash : last = slash := by simpa using h
    subst hslash
    exact ⟨base, by simp, .inr rfl⟩
  · exact ⟨base ++ [last], rfl, .inl rfl⟩

/-- The bytes of a joined path are those of the path, those of the name, and perhaps a slash. -/
theorem mem_join {b : UInt8} (hp : p.bytes ≠ []) (h : b ∈ (p.join name).bytes) :
    b = slash ∨ b ∈ p.bytes ∨ b ∈ name.bytes := by
  obtain ⟨base, hjoin, hbase⟩ := exists_base hp name
  rw [hjoin, List.mem_append, List.mem_cons] at h
  rcases h with h | h | h
  · refine .inr (.inl ?_)
    rcases hbase with hbase | hbase
    · rwa [hbase]
    · rw [hbase]
      exact List.mem_append_left _ h
  · exact .inl h
  · exact .inr (.inr h)

/-- A joined path is absolute if the path is. -/
theorem isAbsolute_join (hp : p.bytes ≠ []) (name : RawText) : (p.join name).isAbsolute = p.isAbsolute := by
  obtain ⟨base, hjoin, hbase⟩ := exists_base hp name
  rw [isAbsolute, isAbsolute, hjoin]
  cases base with
  | nil =>
    rcases hbase with h | h
    · exact absurd h hp
    · rw [h]
      rfl
  | cons b base => rcases hbase with h | h <;> rw [h] <;> rfl

/-- The name is the last piece of the path of an entry. An empty piece before it, where the path ended with
a slash, is gone. -/
theorem steps_join (hp : p.bytes ≠ []) (hname : IsName name) :
    ∃ pieces, FileSystem.steps (p.join name).raw = pieces ++ [name] ∧
      (FileSystem.steps p.raw = pieces ∨ FileSystem.steps p.raw = pieces ++ [("" : RawText)]) := by
  obtain ⟨base, hjoin, hbase⟩ := exists_base hp name
  change (p.join name).raw.bytes = _ at hjoin
  change p.raw.bytes = _ ∨ p.raw.bytes = _ at hbase
  refine ⟨(splitOn slash base).map RawText.mk, ?_, ?_⟩
  · rw [FileSystem.steps, hjoin, splitOn_append_cons, splitOn_of_not_mem hname.no_slash, List.map_append,
      List.map_singleton]
  · refine hbase.imp (fun h => by rw [FileSystem.steps, h]) fun h => ?_
    rw [FileSystem.steps, h, splitOn_append_cons, List.map_append]
    rfl

/-- The segments of an absolute path come after its first slash. -/
theorem segments_of_absolute {bs : List UInt8} (h : p.bytes = slash :: bs) : p.segments = splitOn slash bs := by
  have habsolute : p.isAbsolute = true := by
    rw [isAbsolute, h]
    rfl
  rw [segments, if_pos habsolute, h]
  rfl

/-- The segments of a relative path are all its pieces. -/
theorem segments_of_relative (h : p.isAbsolute = false) : p.segments = splitOn slash p.bytes := by
  rw [segments, if_neg (h ▸ Bool.false_ne_true)]

theorem isAbsolute_cons {b : UInt8} {bs : List UInt8} (h : p.bytes = b :: bs) :
    p.isAbsolute = (b == slash) := by
  rw [isAbsolute, h, List.head?_cons]
  rfl

/-- Joining a name to a path adds it behind the segments, in place of an empty one at the end if there is one. -/
theorem segments_join (hp : p.bytes ≠ []) (hname : IsName name) :
    ∃ pieces, (p.join name).segments = pieces ++ [name.bytes] ∧
      (p.segments = pieces ∨ p.segments = pieces ++ [[]]) ∧ (p.isAbsolute = false → pieces ≠ []) := by
  obtain ⟨base, hjoin, hbase⟩ := exists_base hp name
  have habsolute := isAbsolute_join hp name
  cases hroot : p.isAbsolute with
  | false =>
    refine ⟨splitOn slash base, ?_, ?_, fun _ => splitOn_ne_nil _ _⟩
    · rw [segments_of_relative (habsolute.trans hroot), hjoin, splitOn_append_cons,
        splitOn_of_not_mem hname.no_slash]
    · rw [segments_of_relative hroot]
      refine hbase.imp (fun h => by rw [h]) fun h => ?_
      rw [h, splitOn_append_cons]
      rfl
  | true =>
    cases base with
    | nil =>
      -- the path is a slash alone
      refine ⟨[], ?_, .inr (segments_of_absolute (hbase.resolve_left hp)), nofun⟩
      rw [segments_of_absolute hjoin, splitOn_of_not_mem hname.no_slash]
      rfl
    | cons b base =>
      obtain rfl : b = slash := by
        rw [List.cons_append] at hjoin
        simpa [isAbsolute_cons hjoin] using habsolute.trans hroot
      refine ⟨splitOn slash base, ?_, ?_, nofun⟩
      · rw [List.cons_append] at hjoin
        rw [segments_of_absolute hjoin, splitOn_append_cons, splitOn_of_not_mem hname.no_slash]
      · refine hbase.imp segments_of_absolute fun h => ?_
        rw [List.cons_append] at h
        rw [segments_of_absolute h, splitOn_append_cons]
        rfl

/-- A name is a component of its own. -/
theorem componentOf_name (hname : IsName name) :
    isSolid name.bytes = true ∧ componentOf name.bytes = .name name := by
  have hempty : name.bytes ≠ [] := fun h => hname.ne_empty (congrArg RawText.mk h)
  have hcurrent : name.bytes ≠ [dot] := fun h => hname.ne_current (congrArg RawText.mk h)
  have hparent : name.bytes ≠ [dot, dot] := fun h => hname.ne_parent (congrArg RawText.mk h)
  refine ⟨?_, ?_⟩
  · simp [isSolid, hempty, hcurrent]
  · rw [componentOf, if_neg hcurrent, if_neg hparent]

/-- The components that pieces are, apart from the first piece of a path. -/
def solidComponents (pieces : List (List UInt8)) : List Component :=
  (pieces.filter isSolid).map componentOf

theorem solidComponents_append (pieces more : List (List UInt8)) :
    solidComponents (pieces ++ more) = solidComponents pieces ++ solidComponents more := by
  rw [solidComponents, List.filter_append, List.map_append]
  rfl

/-- A name behind pieces is one component more. -/
theorem solidComponents_concat (pieces : List (List UInt8)) (hname : IsName name) :
    solidComponents (pieces ++ [name.bytes]) = solidComponents pieces ++ [.name name] := by
  obtain ⟨hsolid, hcomponent⟩ := componentOf_name hname
  rw [solidComponents_append, solidComponents, solidComponents, List.filter_cons_of_pos hsolid,
    List.filter_nil, List.map_singleton, hcomponent]

/-- An empty piece is no component. -/
theorem solidComponents_concat_nil (pieces : List (List UInt8)) :
    solidComponents (pieces ++ [[]]) = solidComponents pieces := by
  rw [solidComponents_append]
  exact List.append_nil _

/-- An absolute path begins with the root. -/
theorem components_of_absolute (h : p.isAbsolute = true) :
    p.components = .root :: solidComponents p.segments := by
  rw [components, if_pos h]
  rfl

/-- A relative path keeps a dot in front, and only there. -/
theorem components_of_relative (h : p.isAbsolute = false) {first : List UInt8} {rest : List (List UInt8)}
    (hsegments : p.segments = first :: rest) :
    p.components =
      (if first = [dot] then [.current] else solidComponents [first]) ++ solidComponents rest := by
  rw [components, if_neg (by rw [h]; exact Bool.false_ne_true), hsegments]
  dsimp only
  split
  · rfl
  · exact solidComponents_append [first] rest

/-- The components of the path of an entry are those of the directory and the name. -/
theorem components_join (hp : p.bytes ≠ []) (hname : IsName name) :
    (p.join name).components = p.components ++ [.name name] := by
  obtain ⟨pieces, hjoin, hpieces, hne⟩ := segments_join hp hname
  have habsolute := isAbsolute_join hp name
  cases hroot : p.isAbsolute with
  | true =>
    rw [components_of_absolute hroot, components_of_absolute (habsolute.trans hroot), hjoin,
      solidComponents_concat pieces hname, List.cons_append]
    rcases hpieces with h | h
    · rw [h]
    · rw [h, solidComponents_concat_nil]
  | false =>
    -- the first piece, where a dot counts, is the same in both paths
    obtain ⟨first, rest, rfl⟩ := List.exists_cons_of_ne_nil (hne hroot)
    rw [List.cons_append] at hjoin hpieces
    rw [components_of_relative (habsolute.trans hroot) hjoin, solidComponents_concat rest hname,
      ← List.append_assoc]
    rcases hpieces with h | h
    · rw [components_of_relative hroot h]
    · rw [components_of_relative hroot h, solidComponents_concat_nil]

/-- The name of a joined path is the name that was joined. -/
theorem fileName?_join (hp : p.bytes ≠ []) (hname : IsName name) :
    (p.join name).fileName? = some name := by
  rw [fileName?, components_join hp hname, List.getLast?_concat]

theorem bytes_join_ne_nil (hp : p.bytes ≠ []) : (p.join name).bytes ≠ [] := by
  obtain ⟨base, hjoin, -⟩ := exists_base hp name
  rw [hjoin]
  exact List.append_ne_nil_of_right_ne_nil _ (List.cons_ne_nil _ _)

end Join

/-! ## The current directory at the start -/

/-- Only pieces that are no components are dropped. -/
theorem filter_dropWhile_not {pieces : List (List UInt8)} :
    (pieces.dropWhile fun s => !isSolid s).filter isSolid = pieces.filter isSolid := by
  induction pieces with
  | nil => rfl
  | cons piece pieces ih =>
    cases hsolid : isSolid piece with
    | true => rw [List.dropWhile_cons_of_neg (by simp [hsolid])]
    | false =>
      rw [List.dropWhile_cons_of_pos (by simp [hsolid]), ih, List.filter_cons_of_neg (by simp [hsolid])]

/-- The components stay when pieces at the front are dropped that are none. -/
theorem solidComponents_dropWhile (pieces : List (List UInt8)) :
    solidComponents (pieces.dropWhile fun s => !isSolid s) = solidComponents pieces := by
  rw [solidComponents, filter_dropWhile_not, solidComponents]

/-- Trimming takes only pieces that are no components. -/
theorem solidComponents_trimSegments (pieces : List (List UInt8)) :
    solidComponents (trimSegments pieces) = solidComponents pieces := by
  rw [solidComponents, trimSegments, List.filter_reverse, filter_dropWhile_not, List.filter_reverse,
    List.reverse_reverse, solidComponents]

/-- Trimming takes pieces from the end. -/
theorem isPrefix_trimSegments (pieces : List (List UInt8)) : trimSegments pieces <+: pieces := by
  rw [trimSegments, ← List.reverse_suffix, List.reverse_reverse]
  exact List.dropWhile_suffix _

/-- Dots are components only in front of a path. -/
theorem current_not_mem_solidComponents (pieces : List (List UInt8)) :
    .current ∉ solidComponents pieces := by
  intro h
  obtain ⟨piece, hpiece, hcurrent⟩ := List.mem_map.mp h
  obtain ⟨-, hdot⟩ : piece ≠ [] ∧ piece ≠ [dot] := by
    simpa [isSolid] using (List.mem_filter.mp hpiece).2
  rw [componentOf, if_neg hdot] at hcurrent
  split at hcurrent <;> cases hcurrent

/-- A relative path is its segments with slashes between them. -/
theorem bytes_ofSegments (pieces : List (List UInt8)) :
    (ofSegments false pieces).bytes = [slash].intercalate pieces := by
  simp [ofSegments]

/-- A path of pieces that are parts of a text has the components that these are. -/
theorem components_ofSegments {pieces : List (List UInt8)} (hslash : ∀ piece ∈ pieces, slash ∉ piece)
    (hsolid : ∀ piece ∈ pieces.head?, isSolid piece = true) :
    (ofSegments false pieces).components = solidComponents pieces := by
  have hbytes := bytes_ofSegments pieces
  cases pieces with
  | nil => rfl
  | cons first rest =>
    have hfirst : isSolid first = true := hsolid first rfl
    obtain ⟨hne, hdot⟩ : first ≠ [] ∧ first ≠ [dot] := by simpa [isSolid] using hfirst
    obtain ⟨b, more, rfl⟩ := List.exists_cons_of_ne_nil hne
    have hb : b ≠ slash := fun h => hslash _ List.mem_cons_self (h ▸ List.mem_cons_self)
    obtain ⟨after, hafter⟩ : ∃ after, (ofSegments false ((b :: more) :: rest)).bytes = b :: after := by
      rw [hbytes]
      cases rest with
      | nil => exact ⟨more, List.intercalate_singleton⟩
      | cons next rest => exact ⟨_, by rw [List.intercalate_cons_cons]; rfl⟩
    have habsolute : (ofSegments false ((b :: more) :: rest)).isAbsolute = false := by
      simp [isAbsolute_cons hafter, hb]
    have hsegments : (ofSegments false ((b :: more) :: rest)).segments = (b :: more) :: rest := by
      rw [segments_of_relative habsolute, hbytes, splitOn_eq,
        List.splitOn_intercalate slash hslash (List.cons_ne_nil _ _)]
    rw [components_of_relative habsolute hsegments, if_neg hdot, ← solidComponents_append,
      List.singleton_append]

/-- A path loses a dot at its start and no other component. What is left is a part of its bytes, and a text if
these are one. -/
theorem dropCurrent_cases (p : Path) :
    (p.components.head? ≠ some .current ∧ p.dropCurrent = p) ∨
    (p.components = .current :: p.dropCurrent.components ∧ p.dropCurrent.bytes <:+: p.bytes ∧
      ∀ cs, p.bytes = encode cs → ∃ ds, p.dropCurrent.bytes = encode ds ∧ ds <:+: cs) := by
  cases habsolute : p.isAbsolute with
  | true =>
    refine .inl ⟨?_, ?_⟩
    · rw [components_of_absolute habsolute]
      exact fun h => nomatch h
    · rw [dropCurrent, if_pos habsolute]
  | false =>
    have hpieces := segments_of_relative habsolute
    obtain ⟨first, rest, hsegments⟩ := List.exists_cons_of_ne_nil (hpieces ▸ splitOn_ne_nil slash p.bytes)
    have hslash : ∀ piece ∈ first :: rest, slash ∉ piece := by
      intro piece hpiece
      rw [← hsegments, hpieces] at hpiece
      exact not_mem_of_mem_splitOn hpiece
    by_cases hdot : first = [dot]
    · subst hdot
      have hdrop : p.dropCurrent =
          ofSegments false (trimSegments (rest.dropWhile fun s => !isSolid s)) := by
        rw [dropCurrent, if_neg (habsolute ▸ Bool.false_ne_true), hsegments]
        exact if_pos rfl
      have hpart : trimSegments (rest.dropWhile fun s => !isSolid s) <:+: [dot] :: rest :=
        (isPrefix_trimSegments _).isInfix.trans
          ((List.dropWhile_suffix _).isInfix.trans (List.suffix_cons _ _).isInfix)
      -- what is left begins with a component, so that a dot or a slash at its start cannot count
      refine .inr ⟨?_, ?_, ?_⟩
      · rw [components_of_relative habsolute hsegments, if_pos rfl, hdrop, components_ofSegments,
          solidComponents_trimSegments, solidComponents_dropWhile, List.singleton_append]
        · exact fun piece hpiece => hslash piece (hpart.subset hpiece)
        · intro piece hpiece
          obtain ⟨more, hmore⟩ := List.head?_eq_some_iff.mp hpiece
          obtain ⟨back, hback⟩ := hmore ▸ isPrefix_trimSegments (rest.dropWhile fun s => !isSolid s)
          have hhead := List.head?_dropWhile_not (fun s => !isSolid s) rest
          rw [← hback] at hhead
          simpa using hhead
      · have hbytes : [slash].intercalate ([dot] :: rest) = p.bytes := by
          rw [← hsegments, hpieces, splitOn_eq, List.intercalate_splitOn]
        rw [hdrop, ← hbytes, bytes_ofSegments]
        exact isInfix_intercalate hpart
      · -- of characters the same pieces are left
        intro cs hcs
        rw [← hsegments, hpieces, hcs, show slash = byteOf '/' from rfl, splitOn_encode (by decide)] at hpart
        obtain ⟨texts, htexts, hmap⟩ := List.infix_map_iff.mp hpart
        refine ⟨['/'].intercalate texts, ?_, ?_⟩
        · rw [hdrop, bytes_ofSegments, hmap, encode_intercalate]
          rfl
        · conv_rhs => rw [← @List.intercalate_splitOn _ cs _ _ '/', ← splitOn_eq]
          exact isInfix_intercalate htexts
    · refine .inl ⟨?_, ?_⟩
      · rw [components_of_relative habsolute hsegments, if_neg hdot, ← solidComponents_append]
        exact fun h => current_not_mem_solidComponents _ (List.mem_of_head? h)
      · rw [dropCurrent, if_neg (habsolute ▸ Bool.false_ne_true), hsegments]
        exact if_neg hdot

/-! ## Extensions -/

/-- A name with a stem and, after its last dot, an extension of a known language in upper or lower case. The stem
need not be a text. -/
def IsSourceName (name : RawText) : Prop :=
  ∃ (stem : List UInt8) (extension : String), stem ≠ [] ∧
    name.bytes = stem ++ dot :: (RawText.ofString extension).bytes ∧
    '.' ∉ extension.toList ∧ extension.toLower ∈ ["go", "rs"]

/-- An extension is what comes after the last dot of a name that does not begin with it. -/
theorem extensionOf?_eq_some_iff {name extension : List UInt8} :
    extensionOf? name = some extension ↔
      ∃ stem, stem ≠ [] ∧ name = stem ++ dot :: extension ∧ dot ∉ extension := by
  -- the name is read from its end, up to the first dot there
  have hspan : ∀ after rest, name.reverse.span (· != dot) = (after, rest) ↔
      name.reverse = after ++ rest ∧ (∀ b ∈ after, (b != dot) = true) ∧
        ∀ b ∈ rest.head?, (b != dot) = false := by
    intro after rest
    rw [List.span_eq_takeWhile_dropWhile]
    exact splitWhile_eq_iff
  unfold extensionOf?
  constructor
  · intro h
    split at h
    · cases h
    · cases h
    · rename_i after mark last before heq
      obtain ⟨hname, hafter, hmark⟩ := (hspan _ _).mp heq
      cases h
      have hmark : mark = dot := by simpa using hmark
      -- the part behind the dot was read in reverse, and has no dot in it
      refine ⟨(last :: before).reverse, by simp, ?_, ?_⟩
      · rw [← List.reverse_reverse name, hname, hmark]
        simp
      · intro hmem
        exact absurd (hafter _ (List.mem_reverse.mp hmem)) (by decide)
  · rintro ⟨stem, hstem, rfl, hextension⟩
    obtain ⟨last, before, hrev⟩ := List.exists_cons_of_ne_nil (mt List.reverse_eq_nil_iff.mp hstem)
    have heq : (stem ++ dot :: extension).reverse.span (· != dot) =
        (extension.reverse, dot :: last :: before) := by
      rw [List.span_eq_takeWhile_dropWhile]
      refine splitWhile_eq_iff.mpr ⟨?_, ?_, ?_⟩
      · rw [← hrev]
        simp
      · intro c hc
        have : c ≠ dot := fun h => hextension (h ▸ List.mem_reverse.mp hc)
        simp [this]
      · rintro _ ⟨⟩
        decide
    rw [heq]
    simp

end Path

/-- There are two extensions of languages, in upper or lower case. -/
theorem Language.isSome_ofExtension? (extension : String) :
    (ofExtension? extension).isSome ↔ extension.toLower ∈ ["go", "rs"] := by
  simp [ofExtension?, known, extensions]

namespace Path

/-- A file is a source file by the name at the end of its path. -/
theorem isSupported_iff {p : Path} :
    p.isSupported = true ↔ ∃ name, p.fileName? = some name ∧ IsSourceName name := by
  rw [isSupported, language?]
  constructor
  · intro h
    obtain ⟨language, hlanguage⟩ := Option.isSome_iff_exists.mp h
    obtain ⟨extension, hextension, hknown⟩ := Option.bind_eq_some_iff.mp hlanguage
    obtain ⟨raw, hraw, htext⟩ := Option.bind_eq_some_iff.mp hextension
    obtain ⟨bytes, hbytes, rfl⟩ := Option.map_eq_some_iff.mp hraw
    obtain ⟨name, hname, hsplit⟩ := Option.bind_eq_some_iff.mp hbytes
    obtain ⟨stem, hstem, hjoined, hdot⟩ := extensionOf?_eq_some_iff.mp hsplit
    have hencoded : bytes = encode extension.toList := congrArg RawText.bytes (RawText.text?_eq_some_iff.mp htext)
    subst hencoded
    refine ⟨name, hname, stem, extension, hstem, hjoined, ?_, ?_⟩
    · exact mt (byteOf_mem_encode_iff (c := '.') (by decide)).mpr hdot
    · exact (Language.isSome_ofExtension? _).mp (by rw [hknown]; rfl)
  · rintro ⟨name, hname, stem, extension, hstem, hjoined, hdot, hknown⟩
    have hsplit : extensionOf? name.bytes = some (RawText.ofString extension).bytes :=
      extensionOf?_eq_some_iff.mpr ⟨stem, hstem, hjoined,
        mt (byteOf_mem_encode_iff (c := '.') (by decide)).mp hdot⟩
    rw [extension?, hname, Option.bind_some, hsplit, Option.map_some, Option.bind_some]
    change ((RawText.ofString extension).text?.bind _).isSome
    rw [RawText.text?_ofString]
    exact (Language.isSome_ofExtension? _).mpr hknown

/-- A joined path is that of a source file if the name is that of one. -/
theorem isSupported_join_iff {p : Path} {name : RawText} (hp : p.bytes ≠ []) (hname : IsName name) :
    (p.join name).isSupported = true ↔ IsSourceName name := by
  rw [isSupported_iff, fileName?_join hp hname]
  exact ⟨fun ⟨_, h, hsource⟩ => Option.some.inj h ▸ hsource, fun h => ⟨name, rfl, h⟩⟩

/-! ## Order -/

section Lex

variable {α : Type} [DecidableEq α] {le : α → α → Bool}

/-- Lists are compared by their first elements, and by the others if these are the same. -/
theorem lexLe_cons {a b : α} {as bs : List α} :
    lexLe le (a :: as) (b :: bs) = true ↔ a = b ∧ lexLe le as bs = true ∨ a ≠ b ∧ le a b = true := by
  rw [lexLe]
  split
  · rename_i h
    simp [h]
  · rename_i h
    simp [h]

/-- Of two lists one comes first, if that holds of their elements. -/
theorem lexLe_total (htotal : ∀ a b, le a b = true ∨ le b a = true) (as bs : List α) :
    lexLe le as bs = true ∨ lexLe le bs as = true := by
  induction as generalizing bs with
  | nil => exact .inl rfl
  | cons a as ih =>
    cases bs with
    | nil => exact .inr rfl
    | cons b bs =>
      rw [lexLe_cons, lexLe_cons]
      by_cases h : a = b
      · exact (ih bs).imp (fun h' => .inl ⟨h, h'⟩) fun h' => .inl ⟨h.symm, h'⟩
      · exact (htotal a b).imp (fun h' => .inr ⟨h, h'⟩) fun h' => .inr ⟨Ne.symm h, h'⟩

/-- A list before another one comes before all that come after that one. -/
theorem lexLe_trans (htrans : ∀ {a b c}, le a b = true → le b c = true → le a c = true)
    (hantisymm : ∀ {a b}, le a b = true → le b a = true → a = b) {as bs cs : List α}
    (hab : lexLe le as bs = true) (hbc : lexLe le bs cs = true) : lexLe le as cs = true := by
  induction as generalizing bs cs with
  | nil => rfl
  | cons a as ih =>
    cases bs with
    | nil => cases hab
    | cons b bs =>
      cases cs with
      | nil => cases hbc
      | cons c cs =>
        rw [lexLe_cons] at *
        rcases hab with ⟨rfl, hab⟩ | ⟨hne, hab⟩
        · exact hbc.imp_left fun ⟨h, hbc⟩ => ⟨h, ih hab hbc⟩
        · rcases hbc with ⟨rfl, -⟩ | ⟨hne', hbc⟩
          · exact .inr ⟨hne, hab⟩
          · refine .inr ⟨?_, htrans hab hbc⟩
            rintro rfl
            exact hne (hantisymm hab hbc)

theorem lexLe_antisymm (hantisymm : ∀ {a b}, le a b = true → le b a = true → a = b) {as bs : List α}
    (hab : lexLe le as bs = true) (hba : lexLe le bs as = true) : as = bs := by
  induction as generalizing bs with
  | nil =>
    cases bs with
    | nil => rfl
    | cons => cases hba
  | cons a as ih =>
    cases bs with
    | nil => cases hab
    | cons b bs =>
      rw [lexLe_cons] at *
      rcases hab with ⟨rfl, hab⟩ | ⟨hne, hab⟩
      · rcases hba with ⟨-, hba⟩ | ⟨hne, -⟩
        · rw [ih hab hba]
        · exact absurd rfl hne
      · rcases hba with ⟨rfl, -⟩ | ⟨-, hba⟩
        · exact absurd rfl hne
        · exact absurd (hantisymm hab hba) hne

end Lex

namespace Component

/-- Names are compared byte by byte. -/
def bytesLe (bs cs : List UInt8) : Bool := lexLe (fun b c => decide (b ≤ c)) bs cs

theorem bytesLe_total (bs cs : List UInt8) : bytesLe bs cs = true ∨ bytesLe cs bs = true :=
  lexLe_total (fun b c => by simpa using UInt8.le_total b c) bs cs

theorem bytesLe_antisymm {bs cs : List UInt8} : bytesLe bs cs = true → bytesLe cs bs = true → bs = cs :=
  lexLe_antisymm fun hab hba => UInt8.le_antisymm (of_decide_eq_true hab) (of_decide_eq_true hba)

theorem bytesLe_trans {bs cs ds : List UInt8} (hbc : bytesLe bs cs = true) (hcd : bytesLe cs ds = true) :
    bytesLe bs ds = true := by
  refine lexLe_trans ?_ ?_ hbc hcd
  · intro a b c hab hbc
    exact decide_eq_true (UInt8.le_trans (of_decide_eq_true hab) (of_decide_eq_true hbc))
  · intro a b hab hba
    exact UInt8.le_antisymm (of_decide_eq_true hab) (of_decide_eq_true hba)

/-- Components are compared by their kinds, and names by their bytes. -/
theorem le_iff {a b : Component} :
    a.le b = true ↔ a.key.1 < b.key.1 ∨ a.key.1 = b.key.1 ∧ bytesLe a.key.2 b.key.2 = true := by
  simp [Component.le, bytesLe]

/-- Of two components one comes first. -/
theorem le_total (a b : Component) : a.le b = true ∨ b.le a = true := by
  rw [le_iff, le_iff]
  rcases Nat.lt_trichotomy a.key.1 b.key.1 with h | h | h
  · exact .inl (.inl h)
  · rcases bytesLe_total a.key.2 b.key.2 with h' | h'
    · exact .inl (.inr ⟨h, h'⟩)
    · exact .inr (.inr ⟨h.symm, h'⟩)
  · exact .inr (.inl h)

/-- The order of components is transitive. -/
theorem le_trans {a b c : Component} (hab : a.le b = true) (hbc : b.le c = true) : a.le c = true := by
  rw [le_iff] at *
  rcases hab with hab | ⟨hab, hab'⟩
  · exact .inl (by omega)
  · rcases hbc with hbc | ⟨hbc, hbc'⟩
    · exact .inl (by omega)
    · exact .inr ⟨hab.trans hbc, bytesLe_trans hab' hbc'⟩

theorem key_injective {a b : Component} (h : a.key = b.key) : a = b := by
  rcases a with _ | _ | _ | ⟨⟨_⟩⟩ <;> rcases b with _ | _ | _ | ⟨⟨_⟩⟩ <;> simp_all [key]

theorem le_antisymm {a b : Component} (hab : a.le b = true) (hba : b.le a = true) : a = b := by
  rw [le_iff] at *
  rcases hab with hab | ⟨hkind, hab⟩
  · omega
  · have htext : a.key.2 = b.key.2 := by
      rcases hba with hba | ⟨-, hba⟩
      · omega
      · exact bytesLe_antisymm hab hba
    exact key_injective (Prod.ext hkind htext)

end Component

/-- Of two paths one comes first. -/
theorem le_total (p q : Path) : (p.le q || q.le p) = true :=
  Bool.or_eq_true_iff.mpr (lexLe_total Component.le_total p.components q.components)

/-- The order of paths is transitive. -/
theorem le_trans (p q r : Path) (hpq : p.le q = true) (hqr : q.le r = true) : p.le r = true := by
  refine lexLe_trans ?_ ?_ hpq hqr
  · exact fun hab hbc => Component.le_trans hab hbc
  · exact fun hab hba => Component.le_antisymm hab hba

/-- Paths that come no later than each other have the same components, but need not be the same text. -/
theorem components_eq_of_le {p q : Path} (hpq : p.le q = true) (hqp : q.le p = true) :
    p.components = q.components :=
  lexLe_antisymm (fun hab hba => Component.le_antisymm hab hba) hpq hqp

end Path

end Overdue
