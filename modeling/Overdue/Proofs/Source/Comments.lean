/-
Where comments stand.

The comments of a text come from the nodes that a walk over its syntax tree finds. So they stand one behind
the other, and each of them is the part of the encoded text that its offset says. Its line is counted by the
line feeds before it: a line feed is the one character whose encoding has the byte ten in it, and the rows of
nodes are those of their places in the text (`exists_shown_of_parse`).

That a comment begins with its mark is a matter of the grammar, so it is known where it can be checked in the
tables (`Marking`). Then no comment is empty either, and no two of them start at the same offset. In the text of
a comment, blanks may still come before the mark if the grammar has tokens that a blank can be part of.
-/
import Overdue.Proofs.Declaration.Nearest
import Overdue.Proofs.Syntax.Marking

set_option autoImplicit false

namespace Overdue.Syntax

/-! ## Line feeds -/

/-- The byte of a line feed. -/
def lineFeed : UInt8 := 10

/-- Of all characters, only the line feed has its byte in its encoding. -/
theorem count_lineFeed_utf8EncodeChar (c : Char) :
    (String.utf8EncodeChar c).count lineFeed = (Extent.ofChar c).rows := by
  have hbyte (v : Nat) (hv : v % 256 ≠ 10) : UInt8.ofNat v ≠ lineFeed := fun h => hv (congrArg UInt8.toNat h)
  have hrows : (Extent.ofChar c).rows = if c.val.toNat = 10 then 1 else 0 := by
    have hnewline : c = '\n' ↔ c.val.toNat = 10 := by
      rw [Char.ext_iff, ← UInt32.toNat_inj]
      rfl
    rw [← ite_congr (propext hnewline) (fun _ => rfl) (fun _ => rfl)]
    rfl
  rw [hrows, String.utf8EncodeChar]
  generalize c.val.toNat = v
  -- Only characters below 128 are encoded by themselves; all bytes of the others are 128 at least.
  split
  · by_cases hten : v = 10
    · subst hten
      rfl
    · rw [if_neg hten, List.count_singleton, beq_false_of_ne (hbyte v (by omega))]
      rfl
  · rw [if_neg (by omega : v ≠ 10)]
    refine List.count_eq_zero.mpr fun h => ?_
    split at h
    · simp only [List.mem_cons, List.not_mem_nil, or_false] at h
      rcases h with h | h <;> exact hbyte _ (by omega) h.symm
    · split at h
      · simp only [List.mem_cons, List.not_mem_nil, or_false] at h
        rcases h with h | h | h <;> exact hbyte _ (by omega) h.symm
      · simp only [List.mem_cons, List.not_mem_nil, or_false] at h
        rcases h with h | h | h | h <;> exact hbyte _ (by omega) h.symm

/-- The rows of a text are the line feeds in its encoding. -/
theorem count_lineFeed_utf8Encode (cs : List Char) :
    cs.utf8Encode.data.count lineFeed = (Extent.ofChars cs).rows := by
  induction cs with
  | nil => rfl
  | cons c cs ih =>
    have hone : [c].utf8Encode.data.count lineFeed = (Extent.ofChar c).rows := by
      rw [List.utf8Encode_singleton, ← count_lineFeed_utf8EncodeChar]
      simp
    rw [List.utf8Encode_cons, ByteArray.data_append, Array.count_append, ih, hone, Extent.ofChars_cons]
    rfl

/-- What comes between two places in a text is that part of its encoding. -/
theorem Cursor.IsIn.extract {text : String} {a b : Cursor} (ha : a.IsIn text.toList) (hb : b.IsIn text.toList)
    {cs : List Char} (h : a.rest = cs ++ b.rest) : text.toUTF8.extract a.bytes b.bytes = cs.utf8Encode := by
  obtain ⟨before, htext, hstart, -⟩ := ha
  obtain ⟨before', htext', hstop, -⟩ := hb
  have hbefore : before ++ cs = before' := by
    rw [htext, h, ← List.append_assoc] at htext'
    exact List.append_cancel_right htext'
  have hencoded : text.toUTF8 = (before.utf8Encode ++ cs.utf8Encode) ++ b.rest.utf8Encode := by
    rw [String.toUTF8_eq_toByteArray, ← String.utf8Encode_toList, htext', ← hbefore, List.utf8Encode_append,
      List.utf8Encode_append]
  rw [Extent.ofChars_bytes_eq] at hstart hstop
  rw [← hbefore, List.utf8Encode_append] at hstop
  rw [hencoded, hstop, ByteArray.extract_append_size_left]
  exact ByteArray.extract_append_eq_right hstart ByteArray.size_append

/-- The row of a place in a text is the number of line feeds before it. -/
theorem Cursor.IsIn.count_lineFeed {text : String} {c : Cursor} (h : c.IsIn text.toList) :
    (text.toUTF8.extract 0 c.bytes).data.count lineFeed = c.row := by
  obtain ⟨before, htext, -, hrow⟩ := id h
  have hbefore : text.toUTF8.extract 0 c.bytes = before.utf8Encode :=
    (Cursor.isIn_atStart text.toList).extract h htext
  rw [hbefore, count_lineFeed_utf8Encode, hrow]

/-- The text of a node that lies in a text is that part of its encoding. -/
theorem Node.toUTF8_of_text? {source : ByteArray} {n : Node} {text : String}
    (h : n.text? source = some text) : text.toUTF8 = source.extract n.start n.stop := by
  rw [Node.text?, String.fromUTF8?] at h
  split at h
  · cases h
    rfl
  · cases h

end Overdue.Syntax

namespace Overdue

open Overdue.Syntax

section

variable {tables : Tables} {language : Language} {text : String} {source : Source}

/-! ## Comments and their nodes -/

/-- A comment has the text of a node, and starts on its row at its offset. -/
structure Comment.IsOf (c : Comment) (text : String) (n : Node) : Prop where
  text : n.text? text.toUTF8 = some c.text
  start : c.start = n.start
  line : c.line = n.row + 1

/-- A comment that is made of a node is its own. -/
theorem Comment.isOf_of_map {n : Node} {c : Comment}
    (h : (n.text? text.toUTF8).map (fun t => (⟨n.start, n.row + 1, t⟩ : Comment)) = some c) : c.IsOf text n := by
  obtain ⟨t, ht, rfl⟩ := Option.map_eq_some_iff.mp h
  exact ⟨ht, rfl, rfl⟩

namespace Comment.IsOf

variable {c : Comment} {n : Node}

/-- A comment ends where its node stops. -/
theorem stop (h : c.IsOf text n) (hlaid : n.IsLaid) (hstop : n.stop ≤ text.toUTF8.size) :
    c.start + c.text.utf8ByteSize = n.stop := by
  have hspan := Node.IsLaid.start_le_stop n hlaid
  have hsize := congrArg ByteArray.size (Node.toUTF8_of_text? h.text)
  rw [String.toUTF8_eq_toByteArray, String.size_toByteArray, ByteArray.size_extract] at hsize
  have hstart := h.start
  omega

/-- The text of a comment is the part of the text where its node stands. -/
theorem extract (h : c.IsOf text n) (hlaid : n.IsLaid) (hstop : n.stop ≤ text.toUTF8.size) :
    text.toUTF8.extract c.start (c.start + c.text.utf8ByteSize) = c.text.toUTF8 := by
  rw [h.stop hlaid hstop, h.start, Node.toUTF8_of_text? h.text]

end Comment.IsOf

/-- Where a text is read, each comment is that of a node in a tree that is laid over the text, and these stand
one behind the other. -/
theorem Source.comments_of_readWith (h : readWith tables language text = .ok source) :
    ∃ root, parse tables text = some root ∧
      (∀ c ∈ source.comments, ∃ n, root.Has n ∧ n.kind ∈ language.commentKinds ∧ n.IsLaid ∧
        n.stop ≤ text.toUTF8.size ∧ c.IsOf text n) ∧
      source.comments.Pairwise fun a b => a.start + a.text.utf8ByteSize ≤ b.start := by
  obtain ⟨root, hparse, -, hlaid, hstop, rfl⟩ := exists_tree_of_readWith h
  obtain ⟨hpicked, hpairs⟩ := hlaid.picked (language.commentKinds.contains ·.kind) root
  have hends (n : Node) (hn : n ∈ root.picked (language.commentKinds.contains ·.kind)) :
      n.IsLaid ∧ n.stop ≤ text.toUTF8.size :=
    ⟨(hpicked n hn).1, Nat.le_trans (hpicked n hn).2.2 hstop⟩
  rw [ofTree, commentsOf, Walk.find_eq_picked]
  refine ⟨root, hparse, fun c hc => ?_, ?_⟩
  · obtain ⟨n, hn, hc⟩ := List.mem_filterMap.mp hc
    obtain ⟨hhas, hkind⟩ := Node.has_of_mem_picked root hn
    obtain ⟨hnode, hend⟩ := hends n hn
    exact ⟨n, hhas, List.contains_iff_mem.mp hkind, hnode, hend, Comment.isOf_of_map hc⟩
  · refine List.pairwise_filterMap.mpr (hpairs.imp_of_mem fun hm hn hmn a ha b hb => ?_)
    obtain ⟨hnode, hend⟩ := hends _ hm
    have ha := Comment.isOf_of_map ha
    have hb := Comment.isOf_of_map hb
    rw [ha.stop hnode hend, hb.start]
    exact hmn

/-! ## Comments in place -/

/-- A comment on a node that begins with a mark begins with that mark. -/
theorem Comment.IsOf.isMarkedText {m : Marking} {c : Comment} {n : Node} {u : Tree} {place : Cursor}
    (h : c.IsOf text n) (hcovers : m.Covers tables language.commentKinds) (hkind : n.kind ∈ language.commentKinds)
    (hplace : place.IsIn text.toList) (hfits : u.FitsAt (m.lore tables) place) (hshows : n.Shows tables u place) :
    IsMarkedText m.loose c.text.toList := by
  obtain ⟨cs, hcs, hmarked⟩ := Marking.exists_markedText hfits (hcovers.label_of_shows hshows hkind)
  have hencoded : text.toUTF8.extract n.start n.stop = cs.utf8Encode := by
    rw [hshows.start, hshows.stop]
    exact (hfits.startAt_isIn u hplace).extract (hfits.isIn u hplace) hcs
  have htext : c.text = String.ofList cs := by
    rw [← String.toByteArray_inj, ← String.toUTF8_eq_toByteArray, Node.toUTF8_of_text? h.text, hencoded,
      String.toByteArray_ofList]
  rw [htext, String.toList_ofList]
  exact hmarked

/-- Where a text is read, its comments stand one behind the other; each is the part of the encoded text that
starts at its offset, and its line is told by the line feeds before that. Where the marks of comments can be told
from the tables, comments start one behind the other, and each of them begins with a mark, behind blanks if these
are loose. -/
theorem Source.comments_located (h : readWith tables language text = .ok source) :
    source.comments.Pairwise (fun a b => a.start + a.text.utf8ByteSize ≤ b.start) ∧
    (∀ c ∈ source.comments,
      text.toUTF8.extract c.start (c.start + c.text.utf8ByteSize) = c.text.toUTF8 ∧
      c.line = 1 + (text.toUTF8.extract 0 c.start).data.count lineFeed) ∧
    ∀ m : Marking, m.Fits tables → m.Covers tables language.commentKinds →
      source.comments.Pairwise (fun a b => a.start < b.start) ∧
      ∀ c ∈ source.comments, IsMarkedText m.loose c.text.toList ∧
        (m.loose = false → ['/', '/'] <+: c.text.toList ∨ ['/', '*'] <+: c.text.toList) := by
  obtain ⟨root, hparse, hcomments, hpairs⟩ := comments_of_readWith h
  refine ⟨hpairs, fun c hc => ?_, fun m hm hcovers => ?_⟩
  -- the slice and the line come from where the node is shown in the text
  · obtain ⟨tree, -, hover⟩ := exists_shown_of_parse tables.unknown_holds hparse
    obtain ⟨n, hhas, -, hlaid, hstop, hof⟩ := hcomments c hc
    obtain ⟨u, place, -, hplace, hfits, hshows⟩ := hover n hhas
    refine ⟨hof.extract hlaid hstop, ?_⟩
    rw [hof.line, hof.start, hshows.start, (hfits.startAt_isIn u hplace).count_lineFeed, hshows.row, Nat.add_comm]
  · obtain ⟨tree, -, hover⟩ := exists_shown_of_parse hm.holds hparse
    -- the check of the tables says of each comment that its node begins with a mark
    have hmarked (c : Comment) (hc : c ∈ source.comments) : IsMarkedText m.loose c.text.toList := by
      obtain ⟨n, hhas, hkind, -, -, hof⟩ := hcomments c hc
      obtain ⟨u, place, -, hplace, hfits, hshows⟩ := hover n hhas
      exact hof.isMarkedText hcovers hkind hplace hfits hshows
    refine ⟨hpairs.imp_of_mem fun {a b} ha _ hab => ?_, fun c hc => ⟨hmarked c hc, fun hbare => ?_⟩⟩
    · -- a text with a mark is not empty
      have hsize : a.text.utf8ByteSize ≠ 0 := by
        intro hzero
        refine (hmarked a ha).ne_nil ?_
        rw [String.utf8ByteSize_eq_zero_iff.mp hzero]
        rfl
      omega
    · have hfirst := hmarked c hc
      rw [hbare] at hfirst
      exact isMarkedText_false_iff.mp hfirst

end

/-! ## A file with comments

Tables for a file that holds a semicolon. A comment is two slashes with other characters behind them, up to a
blank, and may stand anywhere.
-/

namespace Commented

/-- The classes of the characters up to the semicolon: blanks, semicolons, slashes, stars, and anything else. -/
def classes : Array Nat := (Array.range 60).map fun code =>
  let c := Char.ofNat code
  if isBlank c then 1 else if c = ';' then 2 else if c = '/' then 3 else if c = '*' then 4 else 0

/-- A row with actions for some tokens and a state in which the next token is looked for. -/
def row (actions : List (Nat × Action)) (gotos : Array Nat) (lex : Nat) : Row :=
  { actions := actions.foldl (fun acc x => acc.set! x.1 [x.2]) (Array.replicate 4 [])
    gotos, lex, ends := false, scanned := .empty, stable := .empty }

def tables : Tables :=
  { tokens := #[⟨"end", false, false, none, 0⟩, ⟨";", true, false, none, 0⟩, ⟨"//", true, false, none, 0⟩,
      ⟨"remark", true, true, none, 0⟩]
    rules := #[⟨"source_file", true, true, true, false, false, false⟩,
      ⟨"comment", true, true, true, false, false, false⟩]
    productions := #[default, ⟨0, [⟨.token 1, none, none, none, none⟩], 0⟩,
      ⟨1, [⟨.token 2, none, none, none, none⟩, ⟨.token 3, none, none, none, none⟩], 0⟩]
    word := 4, scannerStart := 4, scanner := fun _ _ _ => none
    rows := #[row [(2, .shift 4 false)] #[0, 0] 0, row [(1, .shift 2 false), (2, .shift 4 false)] #[3, 1] 0,
      row [(0, .reduce 1), (2, .shift 4 false)] #[0, 2] 0, row [(0, .accept), (2, .shift 4 false)] #[0, 3] 0,
      row [(3, .shift 5 false)] #[] 4, { row [(0, .reduce 2)] #[] 0 with ends := true }]
    alphabet := { starts := #[0], classes := #[0], basic := classes, count := 5, members := {} }
    lex := #[⟨none, true, #[none, some ⟨0, true⟩, some ⟨1, false⟩, some ⟨2, false⟩]⟩, ⟨some 1, false, #[]⟩,
      ⟨none, false, #[none, none, none, some ⟨3, false⟩]⟩, ⟨some 2, false, #[]⟩,
      ⟨none, false, #[some ⟨5, false⟩]⟩, ⟨some 3, false, #[some ⟨5, false⟩]⟩]
    keywordLex := 1 }

/-- A comment of four characters in six bytes, and one on the next line. -/
def text : String := "//äö\n; //b"

def source : Source := ⟨[], [⟨0, 1, "//äö"⟩, ⟨9, 2, "//b"⟩]⟩

/-- The slashes are the only mark, and a comment is complete two trees up from where it begins. -/
def marking : Marking :=
  { loose := false, marks := [2], rules := [1], depths := #[none, none, none, none, some 1, some 2]
    stages := #[[.blank], [.other], [.slash], [.marked], [.blank], [.other]] }

theorem marking_fits : marking.Fits tables := by decide +kernel

theorem marking_covers : marking.Covers tables Language.go.commentKinds := by decide

theorem readWith_text : Source.readWith tables .go text = .ok source :=
  eq_ok_of_toOption (by decide +kernel)

end Commented

/-- The second comment stands behind the first one, its line is told by the line feed in between, and it begins
with the mark that is told from the tables. -/
theorem Source.comments_located_commented :
    readWith Commented.tables .go Commented.text = .ok Commented.source ∧
    Commented.source.comments.Pairwise (fun a b => a.start + a.text.utf8ByteSize ≤ b.start) ∧
    1 + (Commented.text.toUTF8.extract 0 9).data.count lineFeed = 2 ∧
    Commented.source.comments.Pairwise (fun a b => a.start < b.start) ∧
    (['/', '/'] <+: "//b".toList ∨ ['/', '*'] <+: "//b".toList) := by
  obtain ⟨hpairs, hcomments, hmarks⟩ := comments_located Commented.readWith_text
  obtain ⟨hstarts, hmarked⟩ := hmarks Commented.marking Commented.marking_fits Commented.marking_covers
  have hlast : (⟨9, 2, "//b"⟩ : Comment) ∈ Commented.source.comments := by decide
  exact ⟨Commented.readWith_text, hpairs, (hcomments _ hlast).2.symm, hstarts, (hmarked _ hlast).2 rfl⟩

/-! ### Separators

As between the repetitions in a macro, where a separator may have any characters: here it is one semicolon, with blanks
before it. While it is looked for a blank may be part of it, so no blank is passed over, and a mark that comes instead
begins with the blanks.
-/

namespace Separated

def tables : Tables :=
  { Commented.tables with
    rules := #[⟨"source_file", true, true, true, false, false, false⟩,
      ⟨"line_comment", true, true, true, false, false, false⟩]
    lex := #[⟨none, true, #[none, some ⟨0, false⟩, some ⟨1, false⟩, some ⟨2, false⟩]⟩, ⟨some 1, false, #[]⟩,
      ⟨none, false, #[none, none, none, some ⟨3, false⟩]⟩, ⟨some 2, false, #[]⟩,
      ⟨none, false, #[some ⟨5, false⟩]⟩, ⟨some 3, false, #[some ⟨5, false⟩]⟩] }

def text : String := " ; //b"

def source : Source := ⟨[], [⟨2, 1, " //b"⟩]⟩

/-- The slashes are a mark still, but blanks may come before them. -/
def marking : Marking := { Commented.marking with loose := true }

theorem marking_fits : marking.Fits tables := by decide +kernel

theorem marking_covers : marking.Covers tables Language.rust.commentKinds := by decide

theorem readWith_text : Source.readWith tables .rust text = .ok source :=
  eq_ok_of_toOption (by decide +kernel)

end Separated

/-- A comment need not begin with a mark: there is one that begins with a blank, though its tables have marks. -/
theorem Source.not_forall_comments_marked :
    ¬ ∀ (tables : Tables) (language : Language) (text : String) (source : Source) (m : Marking),
      readWith tables language text = .ok source → m.Fits tables → m.Covers tables language.commentKinds →
      ∀ c ∈ source.comments, ['/', '/'] <+: c.text.toList ∨ ['/', '*'] <+: c.text.toList := by
  intro h
  have hmarked := h Separated.tables .rust Separated.text Separated.source Separated.marking Separated.readWith_text
    Separated.marking_fits Separated.marking_covers _ List.mem_cons_self
  revert hmarked
  decide

end Overdue
