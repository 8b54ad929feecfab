/-
The two forms of a verdict agree.

A verdict is written for programs as a document and for people as text. The document can be written if all paths in it
are texts (`isWritable_document_iff`). A digest is what a program reads from the document, with no look at the verdict:
the fields of each finding, the files that could not be scanned, and two facts about the whole. The text for people is
determined by the digest, apart from the number of directories that could not be read, which no document has
(`render_text`). In particular the numbers of stale and expired remarks,
which the summary counts among all remarks, are the numbers of such findings in the document. Styles only add
control sequences to that text (`adorned_render`).
-/
import Overdue.Proofs.Classification.Views
import Overdue.Proofs.FileSystem.Paths
import Overdue.Proofs.Json.Readability
import Overdue.Verdict.Document
import Overdue.Verdict.Text

set_option autoImplicit false

namespace Overdue

/-! ## Reading documents -/

namespace Json

/-- What the member of an object under a name says. -/
def field? {α : Type} (read : Json → Option α) (name : String) : Json → Option α
  | object members => (members.lookup name).bind read
  | _ => none

/-- The text that a document is. -/
def text? : Json → Option String
  | text s => some s
  | _ => none

/-- The text that a document is, if there is to be one. -/
def optionalText? : Json → Option (Option String)
  | text s => some (some s)
  | null => some none
  | _ => none

/-- The number that a document is. -/
def number? : Json → Option Nat
  | number n => some n
  | _ => none

/-- The truth value that a document is. -/
def truth? : Json → Option Bool
  | truth b => some b
  | _ => none

/-- What the items of a list say. -/
def listOf? {α : Type} (read : Json → Option α) : Json → Option (List α)
  | list items => items.mapM read
  | _ => none

end Json

open Json

/-- What a document says of a finding. -/
structure FindingEntry where
  status : String
  file : String
  line : Nat
  declaration : String
  kind : String
  tag : Option String
  staleDate : String
  expires : String
  message : String
deriving DecidableEq, Repr

/-- What a document says of a file that could not be scanned. -/
structure ErrorEntry where
  path : String
  kind : String
  message : String
deriving DecidableEq, Repr

/-- What a document says of a verdict. -/
structure Digest where
  reference : String
  findings : List FindingEntry
  anyExpired : Bool
  filesScanned : Nat
  errors : List ErrorEntry
deriving DecidableEq, Repr

def FindingEntry.ofJson? (j : Json) : Option FindingEntry := do
  return {
    status := ← field? text? "status" j
    file := ← field? text? "file" j
    line := ← field? number? "line" j
    declaration := ← field? text? "declaration" j
    kind := ← field? text? "kind" j
    tag := ← field? optionalText? "tag" j
    staleDate := ← field? text? "stale_date" j
    expires := ← field? text? "expires" j
    message := ← field? text? "message" j }

def ErrorEntry.ofJson? (j : Json) : Option ErrorEntry := do
  return {
    path := ← field? text? "path" j
    kind := ← field? text? "kind" j
    message := ← field? text? "message" j }

def Digest.ofJson? (j : Json) : Option Digest := do
  return {
    reference := ← field? text? "reference_date" j
    findings := ← field? (listOf? FindingEntry.ofJson?) "findings" j
    anyExpired := ← field? truth? "any_expired" j
    filesScanned := ← field? number? "files_scanned" j
    errors := ← field? (listOf? ErrorEntry.ofJson?) "errors" j }

/-! ## Paths that are texts -/

/-- A verdict in which the paths of all findings and of all files that could not be scanned are texts. -/
structure Verdict.IsTellable (v : Verdict) : Prop where
  findings : ∀ f ∈ v.findings, f.file.text?.isSome = true
  errors : ∀ e ∈ v.report.errors, e.path.text?.isSome = true

/-- A text that may be missing can be written if it is there. -/
theorem isComplete_write_ofText? (level : Nat) (text : Option String) :
    (write level (ofText? text)).isComplete = text.isSome := by
  cases text <;> rfl

theorem isComplete_write_ofOption (level : Nat) (text : Option String) :
    (write level (ofOption text)).isComplete = true := by
  cases text <;> rfl

/-- A finding can be written if its path is a text. -/
theorem Finding.isComplete_write_document (level : Nat) (f : Finding) :
    (write level f.document).isComplete = f.file.text?.isSome := by
  have htext (s : String) : (write (level + 1) (.text s)).isComplete = true := rfl
  have hnumber (n : Nat) : (write (level + 1) (.number n)).isComplete = true := rfl
  simp [document, isComplete_write_object, isComplete_write_ofText?, isComplete_write_ofOption, htext, hnumber]

/-- An error can be written if its path is a text. -/
theorem ScanError.isComplete_write_document (level : Nat) (e : ScanError) :
    (write level e.document).isComplete = e.path.text?.isSome := by
  have htext (s : String) : (write (level + 1) (.text s)).isComplete = true := rfl
  simp [document, isComplete_write_object, isComplete_write_ofText?, htext]

/-- A verdict can be written as a document if and only if all paths in it are texts. -/
theorem Verdict.isWritable_document_iff {v : Verdict} : v.document.isWritable = true ↔ v.IsTellable := by
  have hmembers : v.document.isWritable =
      (v.findings.all (fun f => f.file.text?.isSome) && v.report.errors.all fun e => e.path.text?.isSome) := by
    have htext (s : String) : (write 1 (.text s)).isComplete = true := rfl
    have hnumber (n : Nat) : (write 1 (.number n)).isComplete = true := rfl
    have htruth (b : Bool) : (write 1 (.truth b)).isComplete = true := rfl
    simp [isWritable, document, isComplete_write_object, isComplete_write_list, List.all_map, Function.comp_def,
      Finding.isComplete_write_document, ScanError.isComplete_write_document, htext, hnumber, htruth]
  rw [hmembers, Bool.and_eq_true, List.all_eq_true, List.all_eq_true]
  exact ⟨fun h => ⟨h.1, h.2⟩, fun h => ⟨h.findings, h.errors⟩⟩

/-! ## What is read from a verdict -/

def FindingEntry.of (f : Finding) : FindingEntry where
  status := f.status.label
  file := f.file.text
  line := f.line
  declaration := f.declaration
  kind := f.kind.label
  tag := f.tag
  staleDate := f.staleDate
  expires := f.expires
  message := f.message

def ErrorEntry.of (e : ScanError) : ErrorEntry := ⟨e.path.text, e.kind.key, e.message⟩

def Digest.of (v : Verdict) : Digest where
  reference := v.reference.canonical
  findings := v.findings.map FindingEntry.of
  anyExpired := v.classification.anyExpired
  filesScanned := v.report.filesScanned
  errors := v.report.errors.map ErrorEntry.of

/-- A path that is a text is written as that text. -/
theorem ofText?_text? {p : Path} (h : p.text?.isSome = true) : ofText? p.text? = .text p.text := by
  obtain ⟨t, ht⟩ := Option.isSome_iff_exists.mp h
  rw [ht, ofText?, show p.text = t from RawText.shown_of_text? ht]

/-- A finding is read from its document as it is. -/
theorem FindingEntry.ofJson?_document {f : Finding} (h : f.file.text?.isSome = true) :
    ofJson? f.document = some (of f) := by
  rw [Finding.document, ofText?_text? h]
  obtain ⟨status, file, line, declaration, kind, tag, staleDate, expires, message⟩ := f
  cases tag <;> rfl

/-- The error of a file is read from its document as it is. -/
theorem ErrorEntry.ofJson?_document {e : ScanError} (h : e.path.text?.isSome = true) :
    ofJson? e.document = some (of e) := by
  rw [ScanError.document, ofText?_text? h]
  rfl

/-- A list is read back if each of its items is. -/
theorem listOf?_map {α β : Type} {write : β → Json} {read : Json → Option α} {entry : β → α} {items : List β}
    (h : ∀ b ∈ items, read (write b) = some (entry b)) :
    listOf? read (list (items.map write)) = some (items.map entry) := by
  rw [listOf?, List.mapM_map]
  induction items with
  | nil => rfl
  | cons b items ih =>
    rw [List.mapM_cons, Function.comp_apply, h b List.mem_cons_self, ih fun b hb => h b (List.mem_cons_of_mem _ hb)]
    rfl

/-- A verdict whose paths are texts is read from its document. -/
theorem Digest.ofJson?_document {v : Verdict} (h : v.IsTellable) : ofJson? v.document = some (of v) := by
  have hfindings := listOf?_map fun f hf => FindingEntry.ofJson?_document (h.findings f hf)
  have herrors := listOf?_map fun e he => ErrorEntry.ofJson?_document (h.errors e he)
  -- the members are found by their names; only the two lists remain to be read
  change (do
    let findings ← listOf? FindingEntry.ofJson? (list (v.findings.map Finding.document))
    let errors ← listOf? ErrorEntry.ofJson? (list (v.report.errors.map ScanError.document))
    return { of v with findings := findings, errors := errors } : Option Digest) = _
  rw [hfindings, herrors]
  rfl

/-! ## The text for people -/

namespace FindingEntry

/-- The marker's keyword with its tag. -/
def keyword (e : FindingEntry) : String :=
  match e.tag with
  | some tag => e.kind ++ "(" ++ tag ++ ")"
  | none => e.kind

/-- The file as it is shown. -/
def shown (e : FindingEntry) : String := (Path.mk e.file).display

/-- The line for a finding. -/
def text (e : FindingEntry) : String :=
  s!"{e.status}: {e.shown}:{e.line} [{e.declaration}] {e.keyword} stale:{e.staleDate} expires:{e.expires} " ++
    s!"{e.message}\n"

end FindingEntry

namespace ErrorEntry

/-- The line for a file that could not be scanned. -/
def text (e : ErrorEntry) : String := s!"  • {(Path.mk e.path).display}: {e.message}\n"

/-- The lines for the files that could not be scanned. -/
def listText (errors : List ErrorEntry) : String :=
  if errors = [] then ""
  else
    s!"\nSkipped files ({errors.length}):\n" ++ String.join ((errors.take listedErrors).map text) ++
      if listedErrors < errors.length then s!"  ... and {errors.length - listedErrors} more\n" else ""

end ErrorEntry

namespace Digest

/-- The number of findings that are stale. -/
def stale (d : Digest) : Nat := d.findings.countP (·.status = "STALE")

/-- The number of findings that are expired. -/
def expired (d : Digest) : Nat := d.findings.countP (·.status = "EXPIRED")

/-- The summary, given the number of directories that could not be read. -/
def summary (d : Digest) (directories : Nat) : String :=
  (if d.findings = [] then "Clean" else "\nFound") ++
    s!": {d.stale} stale, {d.expired} expired ({d.filesScanned} files scanned)\n" ++
    (if directories = 0 then "" else s!"Skipped: {directories} directories (unreadable)\n") ++
    ErrorEntry.listText d.errors

/-- A verdict for people, given the number of directories that could not be read. -/
def text (d : Digest) (directories : Nat) : String :=
  String.join (d.findings.map FindingEntry.text) ++ d.summary directories

end Digest

/-! ## The files of findings -/

/-- A file is shown as it is written, or without the current directory at its start. -/
def IsShownAs (file shown : String) : Prop :=
  ((Path.mk file).components.head? ≠ some .current ∧ shown = file) ∨
  ((Path.mk file).components = .current :: (Path.mk shown).components ∧ shown.toList <:+: file.toList)

/-- A path is shown as the entry shows it. -/
theorem FindingEntry.isShownAs_shown (e : FindingEntry) : IsShownAs e.file e.shown := by
  rcases (Path.mk e.file).dropCurrent_cases with ⟨hcurrent, hsame⟩ | ⟨hcomponents, -, hpart⟩
  · refine .inl ⟨hcurrent, ?_⟩
    rw [shown, Path.display, hsame]
    exact RawText.shown_ofString e.file
  · -- what is left of a text is a text, so it is shown as it is
    obtain ⟨ds, hbytes, hinfix⟩ := hpart e.file.toList rfl
    have hshown : e.shown = String.ofList ds := by
      rw [shown, Path.display, Path.text, RawText.shown, ← Path.bytes, hbytes, Text.decode_encode]
    have hpath : (Path.mk e.file).dropCurrent = ⟨e.shown⟩ := by
      refine Path.eq_of_bytes ?_
      rw [hbytes, hshown, Path.bytes_mk, RawText.bytes_ofString, String.toList_ofList]
    refine .inr ⟨?_, ?_⟩
    · rw [← hpath]
      exact hcomponents
    · rwa [hshown, String.toList_ofList]

/-! ## Counting findings -/

/-- Different statuses have different labels. -/
theorem Status.label_injective : Function.Injective Status.label := by
  intro s t
  cases s <;> cases t <;> decide

namespace Verdict

variable (v : Verdict)

/-- The findings are the remarks that are reported, each with its status at the reference date. -/
theorem findings_eq :
    v.findings = (v.report.remarks.filter fun r => (Status.of r v.reference).isReported).map fun r =>
      Finding.of (Status.of r v.reference) r :=
  Classification.findings_of v.report.remarks v.reference

/-- Among the findings there are as many with a status as there are remarks with it. -/
theorem countP_findings {s : Status} (h : s.isReported = true) :
    (v.findings.map FindingEntry.of).countP (·.status = s.label) = v.classification.count s := by
  have hstatus (r : Remark) :
      ((FindingEntry.of (Finding.of (Status.of r v.reference) r)).status = s.label ∧
        (Status.of r v.reference).isReported = true) ↔ Status.of r v.reference = s := by
    constructor
    · exact fun hr => Status.label_injective hr.1
    · rintro rfl
      exact ⟨rfl, h⟩
  rw [findings_eq, List.countP_map, List.countP_map, List.countP_filter, classification,
    Classification.count_of]
  refine List.countP_congr fun r _ => ?_
  simp [hstatus]

theorem stale_digest : (Digest.of v).stale = v.classification.count .stale :=
  v.countP_findings (s := .stale) rfl

theorem expired_digest : (Digest.of v).expired = v.classification.count .expired :=
  v.countP_findings (s := .expired) rfl

/-- Every finding is stale or expired. -/
theorem length_findings :
    v.findings.length = v.classification.count .stale + v.classification.count .expired := by
  rw [findings, classification, Classification.findings_of, List.length_map,
    Classification.length_reportedAt]

/-- Something has expired if and only if the count of it is positive. -/
theorem anyExpired_iff : v.classification.anyExpired = true ↔ 0 < v.classification.count .expired := by
  rw [classification, Classification.anyExpired_of_iff, Classification.count_expired_pos_iff]

end Verdict

/-! ## Styles -/

/-- A text to which control sequences of numbers and semicolons are added. -/
inductive Adorned : List Char → List Char → Prop where
  | nil : Adorned [] []
  | keep {cs ds : List Char} (c : Char) (h : Adorned cs ds) : Adorned (c :: cs) (c :: ds)
  | add {cs ds codes : List Char} (hcodes : ∀ c ∈ codes, c.isDigit = true ∨ c = ';') (h : Adorned cs ds) :
    Adorned ((controlSequence (String.ofList codes)).toList ++ cs) ds

namespace Adorned

theorem refl (cs : List Char) : Adorned cs cs := by
  induction cs with
  | nil => exact .nil
  | cons c cs ih => exact .keep c ih

/-- What is added to two texts is added to both of them together. -/
theorem append {cs cs' ds ds' : List Char} (h : Adorned cs ds) (h' : Adorned cs' ds') :
    Adorned (cs ++ cs') (ds ++ ds') := by
  induction h with
  | nil => exact h'
  | keep c _ ih => exact .keep c ih
  | add hcodes _ ih =>
    rw [List.append_assoc]
    exact .add hcodes ih

/-- What is added to the texts of items is added to all of them together. -/
theorem flatMap {α : Type} {write write' : α → List Char} (h : ∀ a, Adorned (write a) (write' a))
    (as : List α) : Adorned (as.flatMap write) (as.flatMap write') := by
  induction as with
  | nil => exact .nil
  | cons a as ih => exact (h a).append ih

end Adorned

namespace Coloring

/-- A control sequence of numbers is all addition. -/
theorem adorned_controlSequence {code : String} (h : ∀ c ∈ code.toList, c.isDigit = true ∨ c = ';') :
    Adorned (controlSequence code).toList [] := by
  have hadd := Adorned.add h .nil
  rwa [String.ofList_toList, List.append_nil] at hadd

/-- A number is written with digits. -/
theorem isDigit_of_mem_repr {n : Nat} {c : Char} (h : c ∈ n.repr.toList) : c.isDigit = true := by
  rw [Nat.toList_repr] at h
  exact Nat.isDigit_of_mem_toDigits (by decide) (by decide) h

theorem mem_intercalate_repr {codes : List Nat} {c : Char}
    (h : c ∈ (";".intercalate (codes.map Nat.repr)).toList) : c.isDigit = true ∨ c = ';' := by
  induction codes with
  | nil => simp at h
  | cons code codes ih =>
    cases codes with
    | nil => exact .inl (isDigit_of_mem_repr (by simpa using h))
    | cons next codes =>
      rw [List.map_cons, List.map_cons, String.intercalate_cons_cons] at h
      simp only [String.toList_append, List.mem_append] at h
      rcases h with (h | h) | h
      · exact .inl (isDigit_of_mem_repr h)
      · exact .inr (by simpa using h)
      · exact ih h

/-- What begins a style is all addition. -/
theorem adorned_opening (c : Coloring) (s : Style) : Adorned (c.opening s).toList [] := by
  cases c with
  | off => exact .nil
  | joined => exact adorned_controlSequence fun _ => mem_intercalate_repr
  | stacked =>
    have hcodes := Adorned.flatMap
      (fun code => adorned_controlSequence fun _ h => .inl (isDigit_of_mem_repr (n := code) h)) s.codes
    have hnone : s.codes.flatMap (fun _ => ([] : List Char)) = [] :=
      List.flatMap_eq_nil_iff.mpr fun _ _ => rfl
    rw [hnone] at hcodes
    rwa [opening, String.toList_join, List.flatMap_map]

/-- Taking a style up again behind each end of one is all addition. -/
theorem adorned_resume {addition : List Char} (h : Adorned addition []) (cs : List Char) :
    Adorned (resume addition cs) cs := by
  fun_induction resume addition cs with
  | case1 cs ih => exact .keep _ (.keep _ (.keep _ (.keep _ (h.append ih))))
  | case2 c cs _ ih => exact .keep c ih
  | case3 => exact .nil

/-- A piece is written with nothing but additions. -/
theorem adorned_renderPiece (c : Coloring) (p : Piece) :
    Adorned (c.renderPiece p).toList p.text.toList := by
  unfold renderPiece
  split
  · exact .refl _
  · have hbody : Adorned (c.body p).toList p.text.toList := by
      cases c with
      | off => exact .refl _
      | joined =>
        rw [body, String.toList_ofList]
        exact adorned_resume (adorned_opening _ _) _
      | stacked => exact .refl _
    have hclosing : Adorned closing.toList [] := adorned_controlSequence (by simp)
    rw [String.toList_append, String.toList_append]
    simpa using ((adorned_opening c p.style).append hbody).append hclosing

/-- Styles only add control sequences. -/
theorem adorned_render (c : Coloring) (t : Styled) :
    Adorned (c.render t).toList (off.render t).toList := by
  rw [render, render, String.toList_join, String.toList_join, List.flatMap_map, List.flatMap_map]
  refine Adorned.flatMap (fun p => ?_) t
  rw [show off.renderPiece p = p.text from if_pos (.inl rfl)]
  exact c.adorned_renderPiece p

end Coloring

/-! ## The text without styles -/

@[simp] theorem Coloring.render_nil (c : Coloring) : c.render [] = "" := rfl

@[simp] theorem Coloring.render_off_cons (p : Piece) (t : Styled) :
    off.render (p :: t) = p.text ++ off.render t := by
  rw [render, List.map_cons, String.join_cons, ← render, renderPiece, if_pos (.inl rfl)]

/-- Texts one behind the other are written so. -/
theorem Coloring.render_append (c : Coloring) (t u : Styled) : c.render (t ++ u) = c.render t ++ c.render u := by
  rw [render, render, render, List.map_append, String.join_append]

/-- The texts of items are written one behind the other. -/
theorem Coloring.render_flatMap {α : Type} (c : Coloring) (write : α → Styled) (as : List α) :
    c.render (as.flatMap write) = String.join (as.map fun a => c.render (write a)) := by
  induction as with
  | nil => rfl
  | cons a as ih => rw [List.flatMap_cons, render_append, ih, List.map_cons, String.join_cons]

@[simp] theorem text_plain (text : String) : (plain text).text = text := rfl

@[simp] theorem text_paint (style : Style) (text : String) : (style.paint text).text = text := rfl

/-- The line for a finding is made of what its document says. -/
theorem Finding.render_styled {f : Finding} (h : f.file.text?.isSome = true) :
    Coloring.off.render f.styled = (FindingEntry.of f).text := by
  have hkeyword : (FindingEntry.of f).keyword = f.keyword := by
    obtain ⟨_, _, _, _, _, tag, _, _, _⟩ := f
    cases tag <;> rfl
  have hshown : (FindingEntry.of f).shown = f.file.display := congrArg Path.display (Path.mk_text h)
  unfold FindingEntry.text
  rw [hkeyword, hshown, ← String.toList_inj]
  simp [styled, FindingEntry.of, toString]

namespace ScanError

/-- The line for an error is made of what its document says. -/
theorem render_styled {e : ScanError} (h : e.path.text?.isSome = true) :
    Coloring.off.render e.styled = (ErrorEntry.of e).text := by
  have hshown : (Path.mk (ErrorEntry.of e).path).display = e.path.display := congrArg Path.display (Path.mk_text h)
  rw [ErrorEntry.text, hshown, ← String.toList_inj]
  simp [styled, ErrorEntry.of, toString]

/-- The lines for the files that could not be scanned are made of what the document says of them. -/
theorem render_styledList {errors : List ScanError} (h : ∀ e ∈ errors, e.path.text?.isSome = true) :
    Coloring.off.render (styledList errors) = ErrorEntry.listText (errors.map ErrorEntry.of) := by
  unfold styledList ErrorEntry.listText
  by_cases hnone : errors = []
  · rw [if_pos hnone, if_pos (by rw [hnone]; rfl), Coloring.render_nil]
  have hlines : Coloring.off.render ((errors.take listedErrors).flatMap styled) =
      String.join (((errors.map ErrorEntry.of).take listedErrors).map ErrorEntry.text) := by
    rw [Coloring.render_flatMap, ← List.map_take, List.map_map]
    exact congrArg String.join (List.map_congr_left fun e he => render_styled (h e (List.mem_of_mem_take he)))
  rw [if_neg hnone, if_neg (mt List.map_eq_nil_iff.mp hnone), List.length_map, Coloring.render_append,
    Coloring.render_append, hlines, apply_ite Coloring.off.render, ← String.toList_inj]
  simp [toString, apply_ite String.toList]

end ScanError

namespace Verdict

variable (v : Verdict)

/-- There is something to report if and only if there is a finding. -/
theorem findings_eq_nil_iff :
    (Digest.of v).findings = [] ↔
      ¬ 0 < v.classification.count .stale + v.classification.count .expired := by
  rw [← v.length_findings, Digest.of, List.map_eq_nil_iff, List.length_pos_iff, not_not]

/-- The headline tells whether there is something to report. -/
theorem text_headline :
    v.headline.text = if (Digest.of v).findings = [] then "Clean" else "Found" := by
  simp only [findings_eq_nil_iff, headline]
  split_ifs <;> first | rfl | omega

/-- The summary for people says what the document says. -/
theorem render_summary (h : v.IsTellable) :
    Coloring.off.render v.summary = (Digest.of v).summary v.report.directoriesSkipped.length := by
  have hfiles : (Digest.of v).filesScanned = v.report.filesScanned := rfl
  have herrors : (Digest.of v).errors = v.report.errors.map ErrorEntry.of := rfl
  simp only [summary, Digest.summary, Coloring.render_append, apply_ite Coloring.off.render,
    ScanError.render_styledList h.errors, stale_digest, expired_digest, text_headline, findings_eq_nil_iff,
    Coloring.render_off_cons, Coloring.render_nil]
  -- the same texts in other pieces: as lists of characters they are the same
  rw [hfiles, herrors, ← String.toList_inj]
  by_cases hfound : 0 < v.classification.count .stale + v.classification.count .expired
  · simp [toString, hfound, apply_ite String.toList]
  · simp [toString, hfound, apply_ite String.toList]

end Verdict

/-- The text for people says what the document says. -/
theorem Verdict.render_text {v : Verdict} (h : v.IsTellable) :
    Coloring.off.render v.text = (Digest.of v).text v.report.directoriesSkipped.length := by
  rw [Verdict.text, Coloring.render_append, Coloring.render_flatMap, v.render_summary h, Digest.text, Digest.of,
    List.map_map]
  have hlines := List.map_congr_left fun f hf => Finding.render_styled (h.findings f hf)
  rw [hlines]
  rfl

end Overdue
