/-
Lists of excludes in one text.

A text lists excludes if it can be cut at commas into pieces of which each is blank or holds one exclude with white
space around it (`Lists`). An exclude is neither empty nor has white space at its ends, and no comma stands in it, so
there is only one way to cut a text and only one list that it can be. The main statement says that this list is what
is read from the text, for every text: nothing is lost, nothing is added, and the order stays. In particular no text
gives an empty exclude, by which every directory would be left out.
-/
import Overdue.Proofs.FileSystem.Paths
import Overdue.Run

set_option autoImplicit false

namespace Overdue

open Overdue.CommandLine Overdue.Text

/-! ## Excludes and the texts that list them -/

/-- A text that can stand in a list of excludes. -/
structure IsExclude (e : String) : Prop where
  ne_empty : e ≠ ""
  trimmed : trim e.toList = e.toList
  no_comma : ',' ∉ e.toList

/-- Pieces of a text list excludes: some pieces are blank, and each other one holds an exclude with white space
around it. -/
inductive Lists : List (List Char) → List String → Prop where
  | nil : Lists [] []
  | blank {blanks : List Char} {pieces : List (List Char)} {excludes : List String} (hblanks : IsBlank blanks)
      (h : Lists pieces excludes) : Lists (blanks :: pieces) excludes
  | exclude {before after : List Char} {e : String} {pieces : List (List Char)} {excludes : List String}
      (he : IsExclude e) (hbefore : IsBlank before) (hafter : IsBlank after) (h : Lists pieces excludes) :
      Lists ((before ++ e.toList ++ after) :: pieces) (e :: excludes)

/-- The excludes that are read from pieces. -/
def excludesIn (pieces : List (List Char)) : List String :=
  ((pieces.map trim).filter (· != [])).map String.ofList

theorem parseExcludes_eq (raw : String) : parseExcludes raw = excludesIn (splitOn ',' raw.toList) := rfl

/-! ## One piece -/

theorem comma_not_mem_of_isBlank {cs : List Char} (h : IsBlank cs) : ',' ∉ cs := by
  intro hmem
  exact absurd (h ',' hmem) (by decide)

/-- A blank piece gives no exclude. -/
theorem excludesIn_cons_of_isBlank {piece : List Char} (h : IsBlank piece) (pieces : List (List Char)) :
    excludesIn (piece :: pieces) = excludesIn pieces := by
  simp [excludesIn, trim_eq_nil_iff.mpr h]

/-- A piece with something in it gives what is left without the white space around it. -/
theorem excludesIn_cons_of_ne_nil {piece : List Char} (h : trim piece ≠ []) (pieces : List (List Char)) :
    excludesIn (piece :: pieces) = String.ofList (trim piece) :: excludesIn pieces := by
  simp [excludesIn, h]

/-- An exclude is found again between white space. -/
theorem trim_exclude {before after : List Char} {e : String} (he : IsExclude e) (hbefore : IsBlank before)
    (hafter : IsBlank after) : trim (before ++ e.toList ++ after) = e.toList := by
  have hne : e.toList ≠ [] := mt String.toList_eq_nil_iff.mp he.ne_empty
  rw [trim, List.append_assoc, trimStart_blanks_append hbefore]
  exact trim_append_blanks he.trimmed hne hafter

/-- What is left of a piece that is not blank is an exclude. -/
theorem isExclude_trim {piece : List Char} (hne : trim piece ≠ []) (hcomma : ',' ∉ piece) :
    IsExclude (String.ofList (trim piece)) := by
  obtain ⟨before, after, hpiece, -, -, htrim⟩ := exists_trim piece
  refine ⟨?_, ?_, ?_⟩
  · intro hempty
    exact hne (by simpa using congrArg String.toList hempty)
  · rw [String.toList_ofList, htrim]
  · rw [String.toList_ofList]
    intro hmem
    apply hcomma
    rw [hpiece]
    exact List.mem_append_left _ (List.mem_append_right _ hmem)

/-! ## All pieces -/

/-- What pieces list are excludes. -/
theorem Lists.isExclude {pieces : List (List Char)} {excludes : List String} (h : Lists pieces excludes) :
    ∀ e ∈ excludes, IsExclude e := by
  induction h with
  | nil => exact nofun
  | blank _ _ ih => exact ih
  | exclude he _ _ _ ih => exact List.forall_mem_cons.mpr ⟨he, ih⟩

/-- Pieces list what is read from them, and nothing else. -/
theorem lists_iff {pieces : List (List Char)} {excludes : List String} :
    Lists pieces excludes ↔ (∀ piece ∈ pieces, ',' ∉ piece) ∧ excludesIn pieces = excludes := by
  constructor
  · intro h
    -- by induction on how the pieces are listed
    induction h with
    | nil => exact ⟨nofun, rfl⟩
    | blank hblanks _ ih =>
      obtain ⟨hcomma, hread⟩ := ih
      exact ⟨List.forall_mem_cons.mpr ⟨comma_not_mem_of_isBlank hblanks, hcomma⟩,
        (excludesIn_cons_of_isBlank hblanks _).trans hread⟩
    | @exclude before after e pieces excludes he hbefore hafter _ ih =>
      obtain ⟨hcomma, hread⟩ := ih
      have htrim := trim_exclude he hbefore hafter
      have hne : trim (before ++ e.toList ++ after) ≠ [] := by
        rw [htrim]
        exact mt String.toList_eq_nil_iff.mp he.ne_empty
      refine ⟨List.forall_mem_cons.mpr ⟨?_, hcomma⟩, ?_⟩
      · simp [comma_not_mem_of_isBlank hbefore, he.no_comma, comma_not_mem_of_isBlank hafter]
      · rw [excludesIn_cons_of_ne_nil hne, htrim, String.ofList_toList, hread]
  · rintro ⟨hcomma, rfl⟩
    -- by induction on the pieces
    induction pieces with
    | nil => exact .nil
    | cons piece pieces ih =>
      obtain ⟨hpiece, hpieces⟩ := List.forall_mem_cons.mp hcomma
      by_cases hnil : trim piece = []
      · have hblank := trim_eq_nil_iff.mp hnil
        rw [excludesIn_cons_of_isBlank hblank]
        exact .blank hblank (ih hpieces)
      · -- the white space that is trimmed stands around the exclude again
        obtain ⟨before, after, hcut, hbefore, hafter, -⟩ := exists_trim piece
        rw [excludesIn_cons_of_ne_nil hnil]
        have hlists := Lists.exclude (isExclude_trim hnil hpiece) hbefore hafter (ih hpieces)
        rwa [String.toList_ofList, ← hcut] at hlists

/-- What is read from a text is the list that its pieces are, in whatever way it is cut at commas. -/
theorem parseExcludes_eq_iff {raw : String} {excludes : List String} :
    parseExcludes raw = excludes ↔
      ∃ pieces, raw.toList = [','].intercalate pieces ∧ Lists pieces excludes := by
  constructor
  · intro h
    refine ⟨splitOn ',' raw.toList, ?_, lists_iff.mpr ⟨fun _ => not_mem_of_mem_splitOn, h⟩⟩
    rw [splitOn_eq, List.intercalate_splitOn]
  · rintro ⟨pieces, hraw, hlists⟩
    obtain ⟨hcomma, hread⟩ := lists_iff.mp hlists
    rw [parseExcludes_eq, hraw]
    cases pieces with
    | nil => exact hread
    | cons piece pieces =>
      rw [splitOn_eq, List.splitOn_intercalate ',' hcomma (List.cons_ne_nil _ _), hread]

/-- Every exclude that is parsed is one: it is not empty, and has no comma and no white space around it. -/
theorem isExclude_of_mem_parseExcludes {raw e : String} (h : e ∈ parseExcludes raw) : IsExclude e := by
  obtain ⟨_, _, hlists⟩ := parseExcludes_eq_iff.mp (rfl : parseExcludes raw = parseExcludes raw)
  exact hlists.isExclude e h

/-- A comma between two texts separates what is read from them. -/
theorem parseExcludes_append (a b : String) :
    parseExcludes (a ++ "," ++ b) = parseExcludes a ++ parseExcludes b := by
  have hraw : (a ++ "," ++ b).toList = a.toList ++ ',' :: b.toList := by simp
  simp only [parseExcludes_eq, hraw, splitOn_append_cons, excludesIn, List.map_append, List.filter_append]

/-! ## Empty excludes -/

/-- An empty exclude occurs in every path, so that all directories are left out whose names are texts. -/
theorem isExcluded_of_empty {excludes : List String} (h : "" ∈ excludes) (name : String) (path : Path) :
    isExcluded excludes name path = true := by
  have hany : (excludes.any fun e => occursIn e.toList path.text.toList) = true :=
    List.any_eq_true.mpr ⟨"", h, occursIn_iff.mpr List.nil_infix⟩
  rw [isExcluded, RawText.text?_ofString, hany]
  exact Bool.or_true _

/-- **Lists of excludes are read without loss.** A text is read as a list exactly if it can be cut at commas into
pieces that are blank or hold the excludes of the list in order, each with white space around it. All that is read
can stand in such a list, and what is read from two texts with a comma between them is what is read from the one and
then from the other. So no arguments give an empty exclude, which would leave out every directory whose name is a
text. -/
theorem parseExcludes_lossless :
    (∀ raw, ∀ e ∈ parseExcludes raw, IsExclude e) ∧
    (∀ raw excludes, parseExcludes raw = excludes ↔
      ∃ pieces, raw.toList = [','].intercalate pieces ∧ Lists pieces excludes) ∧
    (∀ a b, parseExcludes (a ++ "," ++ b) = parseExcludes a ++ parseExcludes b) ∧
    (∀ s : Settings, "" ∉ s.layer.exclude.getD []) ∧
    ∀ excludes (name : String) path, "" ∈ excludes → isExcluded excludes name path = true := by
  refine ⟨fun _ _ => isExclude_of_mem_parseExcludes, fun _ _ => parseExcludes_eq_iff, parseExcludes_append, ?_,
    fun _ name path h => isExcluded_of_empty h name path⟩
  intro s hempty
  have hlayer : s.layer.exclude.getD [] = (s.exclude.map parseExcludes).getD [] := rfl
  rw [hlayer] at hempty
  cases hflag : s.exclude with
  | none =>
    rw [hflag] at hempty
    cases hempty
  | some raw =>
    rw [hflag] at hempty
    exact (isExclude_of_mem_parseExcludes hempty).ne_empty rfl

/-- An exclude with white space inside and around it, an empty piece, a blank one, and a second exclude. -/
theorem parseExcludes_lossless_padded :
    IsExclude "third party" ∧
    Lists ["\u2003third party".toList, [], [' ', '\t'], "b ".toList] ["third party", "b"] ∧
    parseExcludes "\u2003third party,, \t,b " = ["third party", "b"] ∧
    isExcluded ["b", ""] "src" ⟨"src"⟩ = true := by
  have hlists : Lists ["\u2003third party".toList, [], [' ', '\t'], "b ".toList] ["third party", "b"] :=
    lists_iff.mpr (by decide)
  obtain ⟨hexcludes, hread, -, -, hempty⟩ := parseExcludes_lossless
  have hparse := (hread "\u2003third party,, \t,b " _).mpr ⟨_, by decide, hlists⟩
  exact ⟨hexcludes _ _ (by rw [hparse]; exact List.mem_cons_self), hlists, hparse, hempty _ _ _ (by decide)⟩

end Overdue
