/-
The lines of findings.

A finding is written as one line, and nothing that it tells may break that line. Most of its parts cannot: dates and
numbers are written with digits and signs, a message ends before the first line feed, and styles add control
sequences only. A tag is different. It goes up to the closing bracket, in a comment over several lines also beyond
the end of a line, and it is written as it stands. The main statement counts: apart from the line feed at its end, a
finding is written with the line feeds that stand inside the tag of its comment, and with no other ones.
-/
import Overdue.Proofs.Calendar.Standard
import Overdue.Proofs.Source.Isolation
import Overdue.Proofs.Verdict.Digest

set_option autoImplicit false

namespace Overdue

open Overdue.Calendar Overdue.Text

/-! ## Line feeds -/

/-- The number of line feeds in a text. -/
def lineFeeds (text : String) : Nat := text.toList.count '\n'

@[simp] theorem lineFeeds_append (a b : String) : lineFeeds (a ++ b) = lineFeeds a + lineFeeds b := by
  rw [lineFeeds, String.toList_append, List.count_append]
  rfl

@[simp] theorem lineFeeds_ofList (cs : List Char) : lineFeeds (String.ofList cs) = cs.count '\n' := by
  rw [lineFeeds, String.toList_ofList]

/-- A text has no line feeds if there is none in it. -/
theorem lineFeeds_eq_zero_iff {text : String} : lineFeeds text = 0 ↔ '\n' ∉ text.toList := List.count_eq_zero

/-! ## Styles -/

/-- Additions have no line feeds. -/
theorem Adorned.count_lineFeed {cs ds : List Char} (h : Adorned cs ds) : cs.count '\n' = ds.count '\n' := by
  induction h with
  | nil => rfl
  | keep c _ ih => rw [List.count_cons, List.count_cons, ih]
  | @add cs ds codes hcodes _ ih =>
    have hnone : (controlSequence (String.ofList codes)).toList.count '\n' = 0 := by
      have hcode : '\n' ∉ codes := fun hmem => absurd (hcodes '\n' hmem) (by decide)
      simp [controlSequence, List.count_eq_zero, hcode]
    rw [List.count_append, hnone, ih, Nat.zero_add]

/-- Styles add no line feeds. -/
theorem Coloring.lineFeeds_render (c : Coloring) (t : Styled) :
    lineFeeds (c.render t) = lineFeeds (Coloring.off.render t) :=
  (c.adorned_render t).count_lineFeed

/-! ## The parts of a finding -/

theorem lineFeeds_label (s : Status) : lineFeeds s.label = 0 := by
  cases s <;> decide

theorem lineFeeds_kind (k : MarkerKind) : lineFeeds k.label = 0 := by
  cases k <;> decide

theorem lineFeeds_repr (n : Nat) : lineFeeds n.repr = 0 := by
  rw [lineFeeds_eq_zero_iff]
  intro hmem
  exact absurd (Coloring.isDigit_of_mem_repr hmem) (by decide)

/-- No date is written with a line feed. -/
theorem lineFeeds_canonical (d : Date) : lineFeeds d.canonical = 0 := by
  rw [lineFeeds_eq_zero_iff]
  intro hmem
  exact absurd (isSolid_format_standard d '\n' hmem) (by decide)

/-- A path shows a line feed where it has the byte of one. -/
theorem lineFeed_mem_text_iff {p : Path} : '\n' ∈ p.text.toList ↔ byteOf '\n' ∈ p.bytes := by
  rw [Path.text, RawText.shown, String.toList_ofList, mem_decode_iff (by decide) (by decide)]
  rfl

/-- What is shown of a path is a part of it. -/
theorem lineFeeds_display {p : Path} (h : '\n' ∉ p.text.toList) : lineFeeds p.display = 0 := by
  rw [lineFeeds_eq_zero_iff, Path.display, lineFeed_mem_text_iff]
  rw [lineFeed_mem_text_iff] at h
  rcases p.dropCurrent_cases with ⟨-, hsame⟩ | ⟨-, hpart, -⟩
  · rwa [hsame]
  · exact fun hmem => h (hpart.subset hmem)

/-- A message is a part of one line. -/
theorem Marker.HasMessage.not_mem {cs message : List Char} (h : HasMessage cs message) : '\n' ∉ message := by
  obtain ⟨_, line, _, -, -, -, hline, -, rfl⟩ := h
  obtain ⟨before, after, hcut, -, -, -⟩ := exists_trim line
  intro hmem
  apply hline
  rw [hcut]
  exact List.mem_append_left _ (List.mem_append_right _ hmem)

/-- The message of a marker is on one line. -/
theorem Marker.IsFirst.not_mem_message {raw : String} {s : Shape} (h : IsFirst raw s) : '\n' ∉ s.message := by
  obtain ⟨_, _, -, -, _, _, _, -, -, -, hmessage⟩ := h
  exact hmessage.not_mem

/-- The number of line feeds inside the tag of a marker. -/
def Marker.Shape.tagFeeds (s : Shape) : Nat := s.tag.elim 0 fun tag => (trim tag).count '\n'

/-- The tag that a marker is told with has the line feeds inside the tag of its comment. -/
theorem Marker.IsMadeOf.tagFeeds {p : DatePattern} {s : Shape} {m : Marker} (h : IsMadeOf p s m) :
    m.tag.elim 0 lineFeeds = s.tagFeeds := by
  obtain ⟨-, htag, -⟩ := h
  rw [htag, Shape.tagFeeds]
  cases s.tag with
  | none => rfl
  | some tag =>
    by_cases hblank : trim tag = []
    · simp [hblank, Option.filter]
    · simp [hblank, Option.filter]

/-- The text of a comment starts like the comment itself. -/
theorem Marker.IsBody.isPrefix {raw text : List Char} (h : IsBody raw text) : text <+: trimEnd raw := by
  rw [isBody_iff.mp h, body]
  split
  · rename_i rest hclose
    rw [List.reverse_eq_iff.mp hclose, List.reverse_cons, List.reverse_cons, List.append_assoc]
    exact List.prefix_append _ _
  · exact List.prefix_rfl

/-- In a comment on one line there is no line feed inside a tag. -/
theorem Marker.IsFirst.tagFeeds_eq_zero {raw : String} {s : Shape} (h : IsFirst raw s)
    (hline : '\n' ∉ trimEnd raw.toList) : s.tagFeeds = 0 := by
  obtain ⟨text, i, hbody, -, _, _, _, ⟨keyword, blanks, _, _, _, hcut, -⟩, -⟩ := h
  unfold Shape.tagFeeds
  cases htag : s.tag with
  | none => rfl
  | some tag =>
    rw [htag] at hcut
    obtain ⟨before, after, htrim, -⟩ := exists_trim tag
    refine List.count_eq_zero.mpr fun hmem => hline ?_
    -- from the tag outwards: what stands in brackets, the marker, the text of the comment, the comment
    have hinside : '\n' ∈ tag := by
      rw [htrim]
      exact List.mem_append_left _ (List.mem_append_right _ hmem)
    have hmarker : '\n' ∈ text.drop i := by
      rw [hcut]
      simp [tagText, hinside]
    exact hbody.isPrefix.subset (List.mem_of_mem_drop hmarker)

/-! ## Findings -/

namespace Finding

/-- The line feeds of a keyword are those of its tag. -/
theorem lineFeeds_keyword (f : Finding) : lineFeeds f.keyword = f.tag.elim 0 lineFeeds := by
  unfold keyword
  cases f.tag with
  | none => exact lineFeeds_kind f.kind
  | some tag =>
    have hopen : lineFeeds "(" = 0 := by decide
    have hclose : lineFeeds ")" = 0 := by decide
    simp [toString, lineFeeds_kind, hopen, hclose]

/-- A finding is written with the line feeds of its parts and one more. -/
theorem lineFeeds_render (c : Coloring) (f : Finding) :
    lineFeeds (c.render f.styled) =
      lineFeeds f.file.display + lineFeeds f.declaration + f.tag.elim 0 lineFeeds + lineFeeds f.staleDate +
        lineFeeds f.expires + lineFeeds f.message + 1 := by
  -- what stands between the parts
  have hbetween : ∀ text ∈ [": ", ":", " [", "] ", " ", "stale:", "expires:"], lineFeeds text = 0 := by decide
  have hend : lineFeeds "\n" = 1 := by decide
  rw [c.lineFeeds_render, ← lineFeeds_keyword]
  simp [styled, toString, lineFeeds_label, lineFeeds_repr, hbetween, hend]
  omega

/-- What is written of a finding ends with a line feed. -/
theorem exists_line (c : Coloring) (f : Finding) : ∃ line, c.render f.styled = line ++ "\n" := by
  -- the last piece has no style, so nothing is written behind its text
  have hlast : c.render [plain (" " ++ f.message ++ "\n")] = " " ++ f.message ++ "\n" := by
    simp [Coloring.render, Coloring.renderPiece, plain]
  have hpieces : f.styled = f.styled.dropLast ++ [plain (" " ++ f.message ++ "\n")] := rfl
  refine ⟨c.render f.styled.dropLast ++ (" " ++ f.message), ?_⟩
  rw [hpieces, c.render_append, hlast, List.dropLast_concat, ← String.append_assoc]

end Finding

/-- A remark is made of the parts of the first marker in its comment. -/
theorem Remark.exists_parts {rules : MarkerRules} {file : Path} {declarations : List Declaration} {c : Comment}
    {a : Remark} (h : Remark.ofComment? rules file declarations c = some a) :
    ∃ s m, Marker.IsFirst c.text s ∧ Marker.IsMadeOf rules.pattern s m ∧ a = ofMarker rules file declarations c m := by
  unfold ofComment? at h
  split at h
  · rename_i m hm
    obtain ⟨s, hfirst, hmade⟩ := Comment.parse_eq_some_iff.mp hm
    exact ⟨s, m, hfirst, hmade, (Option.some.inj h).symm⟩
  · cases h
  · cases h

/-- What is written of a remark is a line with the line feeds inside the tag of its comment, and a line feed. -/
theorem Remark.exists_line {rules : MarkerRules} {file : Path} {declarations : List Declaration} {c : Comment}
    {a : Remark} (h : Remark.ofComment? rules file declarations c = some a) (hfile : '\n' ∉ file.text.toList)
    (hdeclaration : '\n' ∉ a.declaration.toList) (status : Status) :
    ∃ s, Marker.IsFirst c.text s ∧ ∀ coloring : Coloring, ∃ line,
      coloring.render (Finding.of status a).styled = line ++ "\n" ∧ lineFeeds line = s.tagFeeds := by
  obtain ⟨s, m, hfirst, hmade, rfl⟩ := exists_parts h
  refine ⟨s, hfirst, fun coloring => ?_⟩
  obtain ⟨line, hline⟩ := (Finding.of status (ofMarker rules file declarations c m)).exists_line coloring
  refine ⟨line, hline, ?_⟩
  have hmessage : lineFeeds m.message = 0 := by
    obtain ⟨-, -, -, -, hm⟩ := hmade
    rw [hm, lineFeeds_ofList, List.count_eq_zero]
    exact hfirst.not_mem_message
  have howner : lineFeeds (Declaration.ownerOf c.start declarations) = 0 := lineFeeds_eq_zero_iff.mpr hdeclaration
  have hend : lineFeeds "\n" = 1 := by decide
  have hcount := Finding.lineFeeds_render coloring (Finding.of status (ofMarker rules file declarations c m))
  rw [hline, lineFeeds_append, hend] at hcount
  -- of the parts only the tag is left
  calc lineFeeds line = lineFeeds file.display + lineFeeds (Declaration.ownerOf c.start declarations) +
        m.tag.elim 0 lineFeeds + lineFeeds m.warnDate.canonical +
        lineFeeds (m.expiry rules.expiryDays).canonical + lineFeeds m.message := Nat.succ_inj.mp hcount
    _ = s.tagFeeds := by
      rw [lineFeeds_display hfile, howner, hmade.tagFeeds, lineFeeds_canonical, lineFeeds_canonical, hmessage]
      omega

namespace Source

variable {rules : MarkerRules} {file : Path} {source : Source}

/-- **A finding is one line, if its tag is.** Every finding of a source is that of the remark which one of its
comments gives. What is written of it, in whatever style, ends with a line feed. Before that there are as many line
feeds as inside the tag of the comment, if none stand in the path and in the name of the declaration. In particular
there are none if the comment stands on one line, apart from white space at its end. -/
theorem lines_of_findings {reference : Date} {f : Finding}
    (hf : f ∈ (Classification.of (source.remarks rules file) reference).findings (source.remarks rules file))
    (hfile : '\n' ∉ file.text.toList) (hdeclaration : '\n' ∉ f.declaration.toList) :
    ∃ c ∈ source.comments, ∃ a, Remark.ofComment? rules file source.declarations c = some a ∧
      f = Finding.of (Status.of a reference) a ∧
      ∃ s, Marker.IsFirst c.text s ∧ ('\n' ∉ trimEnd c.text.toList → s.tagFeeds = 0) ∧
        ∀ coloring : Coloring, ∃ line,
          coloring.render f.styled = line ++ "\n" ∧ lineFeeds line = s.tagFeeds := by
  rw [Classification.findings_of] at hf
  obtain ⟨a, hreported, rfl⟩ := List.mem_map.mp hf
  obtain ⟨c, hc, hremark⟩ := List.mem_filterMap.mp (List.mem_filter.mp hreported).1
  obtain ⟨s, hfirst, hlines⟩ := Remark.exists_line hremark hfile hdeclaration (Status.of a reference)
  exact ⟨c, hc, a, hremark, rfl, s, hfirst, hfirst.tagFeeds_eq_zero, hlines⟩

/-- Line feeds everywhere in a comment except inside its tag: the finding is written with none but the last. -/
theorem lines_of_findings_spread :
    let rules : MarkerRules := ⟨.standard, 90⟩
    let c : Comment := ⟨0, 1, "/* note\nTODO( ann\n) :\nstale:\n01-01-2020\nexpires:\n01-02-2020\nx\ny */"⟩
    let source : Source := ⟨[⟨"run", 70, 90⟩], [c]⟩
    let f : Finding := ⟨.expired, ⟨"./a.rs"⟩, 1, "run", .todo, some "ann", "01-01-2020", "01-02-2020", "x"⟩
    f ∈ (Classification.of (source.remarks rules ⟨"./a.rs"⟩) ⟨2021, 6, 1, by decide⟩).findings
      (source.remarks rules ⟨"./a.rs"⟩) ∧
    '\n' ∉ (⟨"./a.rs"⟩ : Path).text.toList ∧ '\n' ∉ f.declaration.toList ∧
    ∃ line, Coloring.joined.render f.styled = line ++ "\n" ∧ lineFeeds line = 0 := by
  intro rules c source f
  have hf : f ∈ (Classification.of (source.remarks rules ⟨"./a.rs"⟩) ⟨2021, 6, 1, by decide⟩).findings
      (source.remarks rules ⟨"./a.rs"⟩) := by decide
  have hfile : '\n' ∉ (⟨"./a.rs"⟩ : Path).text.toList := by decide
  have hdeclaration : '\n' ∉ f.declaration.toList := by decide
  obtain ⟨c', hc', -, -, -, s, hfirst, -, hlines⟩ := lines_of_findings hf hfile hdeclaration
  obtain rfl : c' = c := List.mem_singleton.mp hc'
  have hshape : Marker.shape? c.text.toList =
      some ⟨.todo, some " ann\n".toList, "01-01-2020".toList, some "01-02-2020".toList, ['x']⟩ := by decide
  obtain rfl := Option.some.inj (hshape.symm.trans (Marker.shape?_eq_some_iff.mpr hfirst))
  exact ⟨hf, hfile, hdeclaration, hlines .joined⟩

/-- A finding is not always one line: a tag may go on in the next line. -/
theorem not_forall_lines_of_findings :
    ¬ ∀ (rules : MarkerRules) (file : Path) (source : Source) (reference : Date) (f : Finding),
      f ∈ (Classification.of (source.remarks rules file) reference).findings (source.remarks rules file) →
      '\n' ∉ file.text.toList → '\n' ∉ f.declaration.toList → lineFeeds (Coloring.off.render f.styled) = 1 := by
  intro h
  have hone := h ⟨.standard, 90⟩ ⟨"a.rs"⟩ ⟨[⟨"f", 37, 46⟩], [⟨0, 1, "/* TODO(a\nb): stale:01-01-2020 x */"⟩]⟩
    ⟨2021, 6, 1, by decide⟩
    ⟨.expired, ⟨"a.rs"⟩, 1, "f", .todo, some "a\nb", "01-01-2020", "31-03-2020", "x"⟩ (by decide)
    (by decide) (by decide)
  exact absurd hone (by decide)

end Source

end Overdue
