/-
The exit status of a run.

A scan that the arguments ask for can be kept from its end in four ways: the configuration file holds no layer,
the date format in effect is not accepted, the reference text is no date in that format, or the root is not
there (`IsObstructed`). Then the run exits with two and writes nothing. Otherwise there is a verdict to be written. A
document cannot be written to its end if it has to tell a path that is no text (`TellsRaw`); then the run exits with
two as well, when part of the document is written already. A run that comes to its end exits with one if it is to fail
on expired remarks and there is one, and with zero if not.

What obstructs a scan is stated by what it looks at, and not by the order in which the run does so. None of it looks
at a source file, so whatever is wrong with one of those ends a run only by its path. All this is about output that is
taken; where it is not, the run exits with two if it writes a document, and breaks down if it writes text.
-/
import Overdue.Proofs.Classification.DefaultExpiry
import Overdue.Proofs.Discovery.Files
import Overdue.Proofs.Run.Configuration
import Overdue.Proofs.Scan.Schedule
import Overdue.Proofs.Verdict.Digest

set_option autoImplicit false

namespace Overdue

open Overdue.Calendar Overdue.CommandLine Overdue.Text

/-! ## What a run finds -/

/-- The date that a reference text asks for under a pattern: the current day, if the text is blank or
missing. -/
inductive RefersTo (pattern : DatePattern) (today : Date) (text : Option String) : Date → Prop where
  | blank : (∀ t ∈ text, trim t.toList = []) → RefersTo pattern today text today
  | given {t : String} {d : Date} : text = some t → trim t.toList ≠ [] →
      pattern.parse (String.ofList (trim t.toList)) = .ok d → RefersTo pattern today text d

/-- A remark of a run: one of a source that is found under the root and can be read. -/
def IsRemark (fs : FileSystem) (c : Config) (root : Path) (r : Remark) : Prop :=
  ∃ found, discover fs c.excludes root = .ok found ∧
    ∃ f ∈ found.files, ∃ source, inspect fs f = .ok source ∧ r ∈ source.remarks c.markerRules f

/-- What keeps a scan from its end. -/
inductive IsObstructed (fs : FileSystem) (s : Settings) : Prop where
  /-- The configuration file cannot be read or holds no layer. -/
  | config {path : Path} : ConfigFile fs s path → (∀ layer, ¬ HoldsLayer fs path layer) →
      IsObstructed fs s
  /-- The date format is not accepted. -/
  | format {layer : Option ConfigLayer} {format : String} {e : PatternError} : FileLayer fs s layer →
      formatInEffect s layer = some format → DatePattern.ofText format = .error e → IsObstructed fs s
  /-- The reference text is not blank, and no date. -/
  | reference {layer : Option ConfigLayer} {p : DatePattern} {text : String} {e : FormatError} :
      FileLayer fs s layer → PatternInEffect s layer p → s.today = some text → trim text.toList ≠ [] →
      p.parse (String.ofList (trim text.toList)) = .error e → IsObstructed fs s
  /-- The root is not there. -/
  | root {fault : IoFault} : fs.resolve (scanRoot s.path) = .error fault → IsObstructed fs s

/-- A run that is to fail on expired remarks, and has one. -/
def FindsExpired (w : World) (s : Settings) : Prop :=
  ∃ layer c reference r, FileLayer w.files s layer ∧ InEffect s layer c ∧
    RefersTo c.datePattern w.today s.today reference ∧ c.failOnExpired = true ∧
    IsRemark w.files c (scanRoot s.path) r ∧ r.warnDate ≤ reference ∧ r.expireDate < reference

/-- A file that a run has to tell of at a date: it cannot be scanned, or it has a remark that is reported. -/
def IsTold (fs : FileSystem) (c : Config) (reference : Date) (f : Path) : Prop :=
  (∃ e, inspect fs f = .error e) ∨
  ∃ source, inspect fs f = .ok source ∧ ∃ r ∈ source.remarks c.markerRules f, r.warnDate ≤ reference

/-- A run that has to tell of a file whose path is no text. -/
def TellsRaw (w : World) (s : Settings) : Prop :=
  ∃ layer c reference found f, FileLayer w.files s layer ∧ InEffect s layer c ∧
    RefersTo c.datePattern w.today s.today reference ∧
    discover w.files c.excludes (scanRoot s.path) = .ok found ∧ f ∈ found.files ∧
    IsTold w.files c reference f ∧ f.text? = none

/-! ## How a scan ends -/

section Reference

variable {pattern : DatePattern} {today : Date} {text : Option String}

/-- A reference text that is not blank is read without the white space around it. -/
theorem ofText_of_trim_ne_nil {t : String} (h : trim t.toList ≠ []) :
    Reference.ofText pattern (some t) =
      match pattern.parse (String.ofList (trim t.toList)) with
      | .ok d => .ok (.given d)
      | .error e => .error (.ofReference e) := by
  rw [Reference.ofText, Option.map_some]
  cases htrim : trim t.toList with
  | nil => exact absurd htrim h
  | cons c cs => rfl

/-- What a text refers to is the date that is taken. -/
theorem reference_of_refersTo {d : Date} (h : RefersTo pattern today text d) :
    ∃ reference, Reference.ofText pattern text = .ok reference ∧ reference.date today = d := by
  cases h with
  | blank hblank =>
    refine ⟨.today, ?_, rfl⟩
    cases text with
    | none => rfl
    | some t => rw [Reference.ofText, Option.map_some, hblank t rfl]
  | given htext hne hparse =>
    refine ⟨.given d, ?_, rfl⟩
    rw [htext, ofText_of_trim_ne_nil hne, hparse]

/-- A reference text asks for a date, or it is not blank and no date. -/
theorem refersTo_cases (pattern : DatePattern) (today : Date) (text : Option String) :
    (∃ d, RefersTo pattern today text d) ∨
    ∃ t e, text = some t ∧ trim t.toList ≠ [] ∧ pattern.parse (String.ofList (trim t.toList)) = .error e := by
  cases text with
  | none => exact .inl ⟨today, .blank (by simp)⟩
  | some t =>
    by_cases hblank : trim t.toList = []
    · exact .inl ⟨today, .blank (by simpa using hblank)⟩
    · cases hparse : pattern.parse (String.ofList (trim t.toList)) with
      | ok d => exact .inl ⟨d, .given rfl hblank hparse⟩
      | error e => exact .inr ⟨t, e, rfl, hblank, hparse⟩

end Reference

section Scan

variable {fs : FileSystem} {c : Config} {root : Path}

/-- A root that is there can be scanned. -/
theorem scan_of_resolve {e : Entry} (h : fs.resolve root = .ok e) : ∃ report, scan fs c root = .ok report :=
  ⟨_, scan_of_discover (discover_of_resolve h)⟩

/-- A root that is not there cannot be scanned. -/
theorem scan_eq_error {fault : IoFault} (h : fs.resolve root = .error fault) :
    ∃ e, scan fs c root = .error e := by
  rw [scan, Survey.of, visitsFrom, h]
  exact ⟨_, rfl⟩

/-- A report lists the remarks of the run. -/
theorem mem_remarks_iff {report : Report} (h : scan fs c root = .ok report) {r : Remark} :
    r ∈ report.remarks ↔ IsRemark fs c root r := by
  cases hroot : fs.resolve root with
  | error fault =>
    obtain ⟨e, he⟩ := scan_eq_error hroot
    cases h.symm.trans he
  | ok e =>
    have hdiscover : discover fs c.excludes root = .ok _ := discover_of_resolve hroot
    cases h.symm.trans (scan_of_discover hdiscover)
    rw [IsRemark, hdiscover]
    simp only [scanFiles, Report.ofInspections, List.mem_flatMap, List.mem_map]
    constructor
    · rintro ⟨_, ⟨f, hf, rfl⟩, hr⟩
      rw [Inspection.remarks, Inspection.of] at hr
      cases hinspect : inspect fs f with
      | error e => simp [hinspect] at hr
      | ok source => exact ⟨_, rfl, f, hf, source, hinspect, by simpa [hinspect] using hr⟩
    · rintro ⟨_, hfound, f, hf, source, hinspect, hr⟩
      cases hfound
      exact ⟨_, ⟨f, hf, rfl⟩, by simpa [Inspection.remarks, Inspection.of, hinspect] using hr⟩

/-- A report lists the errors of the files that are found. -/
theorem mem_errors_iff {report : Report} {found : Discovery} (h : scan fs c root = .ok report)
    (hfound : discover fs c.excludes root = .ok found) {e : ScanError} :
    e ∈ report.errors ↔ ∃ f ∈ found.files, inspect fs f = .error e := by
  cases h.symm.trans (scan_of_discover hfound)
  simp only [scanFiles, Report.ofInspections, List.mem_filterMap, List.mem_map]
  constructor
  · rintro ⟨_, ⟨f, hf, rfl⟩, he⟩
    rw [Inspection.error?, Inspection.of] at he
    cases hinspect : inspect fs f with
    | error e' => exact ⟨f, hf, by simpa [hinspect] using he⟩
    | ok source => simp [hinspect] at he
  · rintro ⟨f, hf, hinspect⟩
    exact ⟨_, ⟨f, hf, rfl⟩, by simp [Inspection.error?, Inspection.of, hinspect]⟩

/-- The paths in a verdict are those of the files that have to be told of. -/
theorem isTellable_iff {report : Report} {found : Discovery} (h : scan fs c root = .ok report)
    (hfound : discover fs c.excludes root = .ok found) (reference : Date) (fails : Bool) :
    Verdict.IsTellable ⟨reference, report, fails⟩ ↔
      ∀ f ∈ found.files, IsTold fs c reference f → f.text?.isSome = true := by
  -- what is reported of a remark depends on its first date alone
  have hreported (r : Remark) :
      (Status.of r reference).isReported = true ↔ r.warnDate ≤ reference := by
    rw [Status.isReported_iff, Ne, Status.of_eq_pending_iff]
    exact Int.not_lt
  constructor
  · rintro ⟨hfindings, herrors⟩ f hf (⟨e, he⟩ | ⟨source, hsource, r, hr, hwarn⟩)
    · rw [← (inspect_eq_error he).1]
      exact herrors e ((mem_errors_iff h hfound).mpr ⟨f, hf, he⟩)
    · have hremark : r ∈ report.remarks :=
        (mem_remarks_iff h).mpr ⟨found, hfound, f, hf, source, hsource, hr⟩
      rw [← source.file_of_mem_remarks hr]
      refine hfindings (Finding.of (Status.of r reference) r) ?_
      rw [Verdict.findings_eq]
      exact List.mem_map.mpr ⟨r, List.mem_filter.mpr ⟨hremark, (hreported r).mpr hwarn⟩, rfl⟩
  · intro htexts
    -- a finding is about a file with a reported remark, and an error about a file that could not be inspected
    constructor
    · intro finding hfinding
      rw [Verdict.findings_eq] at hfinding
      obtain ⟨r, hr, rfl⟩ := List.mem_map.mp hfinding
      obtain ⟨hremark, hstatus⟩ := List.mem_filter.mp hr
      obtain ⟨found', hfound', f, hf, source, hsource, hmem⟩ := (mem_remarks_iff h).mp hremark
      cases hfound.symm.trans hfound'
      change r.file.text?.isSome = true
      rw [source.file_of_mem_remarks hmem]
      exact htexts f hf (.inr ⟨source, hsource, r, hmem, (hreported r).mp hstatus⟩)
    · intro e he
      obtain ⟨f, hf, hinspect⟩ := (mem_errors_iff h hfound).mp he
      rw [(inspect_eq_error hinspect).1]
      exact htexts f hf (.inl ⟨e, hinspect⟩)

end Scan

section Attempt

variable {w : World} {s : Settings}

/-- A scan settles the configuration, then the reference date, and then what is under the root. -/
theorem result_attempt (w : World) (s : Settings) :
    (attempt w s).result = do
      let c ← configFor w.files s
      let reference ← Reference.ofText c.datePattern s.today
      let report ← scan w.files c (scanRoot s.path)
      return ⟨reference.date w.today, report, c.failOnExpired⟩ := by
  unfold attempt
  cases configFor w.files s with
  | error e => rfl
  | ok c =>
    dsimp only [bind, Except.bind]
    cases Reference.ofText c.datePattern s.today with
    | error e => rfl
    | ok reference =>
      dsimp only [scan]
      cases Survey.of w.files c (scanRoot s.path) with
      | error e => rfl
      | ok survey => rfl

/-- Where the configuration, the reference date and the root are all there, a scan comes to its end. -/
theorem attempt_eq_ok {layer : Option ConfigLayer} {c : Config} {d : Date} {e : Entry}
    (hlayer : FileLayer w.files s layer) (hconfig : InEffect s layer c)
    (hreference : RefersTo c.datePattern w.today s.today d)
    (hroot : w.files.resolve (scanRoot s.path) = .ok e) :
    ∃ report, scan w.files c (scanRoot s.path) = .ok report ∧
      (attempt w s).result = .ok ⟨d, report, c.failOnExpired⟩ := by
  obtain ⟨reference, hofText, rfl⟩ := reference_of_refersTo hreference
  obtain ⟨report, hscan⟩ := scan_of_resolve (c := c) hroot
  refine ⟨report, hscan, ?_⟩
  rw [result_attempt, configFor_of_inEffect hlayer hconfig]
  dsimp only [bind, Except.bind]
  rw [hofText]
  dsimp only
  rw [hscan]
  rfl

/-- Whatever obstructs a scan ends it, also if something else obstructs it, too. -/
theorem attempt_eq_error (h : IsObstructed w.files s) : ∃ e, (attempt w s).result = .error e := by
  rw [result_attempt]
  cases h with
  | config hpath hlayer =>
    obtain ⟨e, he⟩ := layers_eq_error hpath hlayer
    exact ⟨e, by rw [configFor, he]; rfl⟩
  | format hlayer hformat hrejected =>
    exact ⟨_, by rw [configFor_eq_error hlayer hformat hrejected]; rfl⟩
  | reference hlayer hpattern htoday hne hparse =>
    obtain ⟨c, hconfig, rfl⟩ := exists_inEffect hpattern
    rw [configFor_of_inEffect hlayer hconfig, htoday]
    dsimp only [bind, Except.bind]
    rw [ofText_of_trim_ne_nil hne, hparse]
    exact ⟨_, rfl⟩
  | root hroot =>
    -- the root is looked at last, so an earlier step may have ended the scan before
    cases configFor w.files s with
    | error e => exact ⟨e, rfl⟩
    | ok c =>
      dsimp only [bind, Except.bind]
      cases Reference.ofText c.datePattern s.today with
      | error e => exact ⟨e, rfl⟩
      | ok reference =>
        obtain ⟨e, he⟩ := scan_eq_error (c := c) hroot
        exact ⟨e, by dsimp only; rw [he]⟩

/-- Where all that a scan needs is there, nothing obstructs it. -/
theorem not_isObstructed {layer : Option ConfigLayer} {c : Config} {d : Date} {e : Entry}
    (hlayer : FileLayer w.files s layer) (hconfig : InEffect s layer c)
    (hreference : RefersTo c.datePattern w.today s.today d)
    (hroot : w.files.resolve (scanRoot s.path) = .ok e) : ¬ IsObstructed w.files s := by
  intro h
  obtain ⟨_, -, hok⟩ := attempt_eq_ok hlayer hconfig hreference hroot
  obtain ⟨_, herror⟩ := attempt_eq_error h
  cases hok.symm.trans herror

/-- Where nothing obstructs a scan, all that it needs is there. -/
theorem exists_inEffect_of_not_isObstructed {fs : FileSystem} (h : ¬ IsObstructed fs s) (today : Date) :
    ∃ layer c d e, FileLayer fs s layer ∧ InEffect s layer c ∧
      RefersTo c.datePattern today s.today d ∧ fs.resolve (scanRoot s.path) = .ok e := by
  rcases fileLayer_cases fs s with ⟨layer, hlayer⟩ | ⟨path, hpath, hnone⟩
  case inr => exact absurd (.config hpath hnone) h
  rcases patternInEffect_cases s layer with ⟨p, hpattern⟩ | ⟨format, e, hformat, hrejected⟩
  case inr => exact absurd (.format hlayer hformat hrejected) h
  rcases refersTo_cases p today s.today with ⟨d, hreference⟩ | ⟨t, e, htoday, hne, hparse⟩
  case inr => exact absurd (.reference hlayer hpattern htoday hne hparse) h
  cases hroot : fs.resolve (scanRoot s.path) with
  | error fault => exact absurd (.root hroot) h
  | ok e =>
    obtain ⟨c, hconfig, rfl⟩ := exists_inEffect hpattern
    exact ⟨layer, c, d, e, hlayer, hconfig, hreference, rfl⟩

end Attempt

/-! ## The exit status -/

/-- A verdict fails if it is to and a remark has expired. -/
theorem Verdict.fails_iff {v : Verdict} :
    v.fails = true ↔ v.failOnExpired = true ∧
      ∃ r ∈ v.report.remarks, r.warnDate ≤ v.reference ∧ r.expireDate < v.reference := by
  have hexpired (r : Remark) : Status.of r v.reference = .expired ↔
      r.warnDate ≤ v.reference ∧ r.expireDate < v.reference :=
    Status.of_eq_expired_iff.trans (and_congr_left' Int.not_lt)
  simp only [Verdict.fails, Verdict.classification, Classification.of, Bool.and_eq_true,
    List.contains_iff_mem, List.mem_map, hexpired]

/-- Two file systems have the same configuration file with the same text, and both have the root or neither
has. All else in them may differ. -/
structure SameSetup (s : Settings) (fs fs' : FileSystem) : Prop where
  config (path : Path) : ConfigFile fs s path ↔ ConfigFile fs' s path
  text {path : Path} : ConfigFile fs s path → fs.readText path = fs'.readText path
  root : (∃ e, fs.resolve (scanRoot s.path) = .ok e) ↔ ∃ e, fs'.resolve (scanRoot s.path) = .ok e

section Exit

variable {w : World} {s : Settings} {fs fs' : FileSystem}

theorem SameSetup.symm (h : SameSetup s fs fs') : SameSetup s fs' fs where
  config path := (h.config path).symm
  text hpath := (h.text ((h.config _).mpr hpath)).symm
  root := h.root.symm

/-- A configuration file holds the same layer in the same setup. -/
theorem SameSetup.holdsLayer_iff (h : SameSetup s fs fs') {path : Path} (hpath : ConfigFile fs s path)
    {layer : ConfigLayer} : HoldsLayer fs path layer ↔ HoldsLayer fs' path layer := by
  rw [HoldsLayer, HoldsLayer, h.text hpath]

/-- The layer of the file is the same in the same setup. -/
theorem SameSetup.fileLayer (h : SameSetup s fs fs') {layer : Option ConfigLayer}
    (hlayer : FileLayer fs s layer) : FileLayer fs' s layer := by
  cases hlayer with
  | read hpath hholds => exact .read ((h.config _).mp hpath) ((h.holdsLayer_iff hpath).mp hholds)
  | none hnone => exact .none fun path hpath => hnone path ((h.config path).mpr hpath)

/-- What obstructs a scan obstructs it in the same setup. -/
theorem SameSetup.isObstructed (h : SameSetup s fs fs') (hfs : IsObstructed fs s) : IsObstructed fs' s := by
  cases hfs with
  | config hpath hnone =>
    exact .config ((h.config _).mp hpath) fun layer hlayer =>
      hnone layer ((h.holdsLayer_iff hpath).mpr hlayer)
  | format hlayer hformat hrejected => exact .format (h.fileLayer hlayer) hformat hrejected
  | reference hlayer hpattern htoday hne hparse =>
    exact .reference (h.fileLayer hlayer) hpattern htoday hne hparse
  | root hroot =>
    cases hroot' : fs'.resolve (scanRoot s.path) with
    | error fault => exact .root hroot'
    | ok e =>
      obtain ⟨e, he⟩ := h.root.mpr ⟨e, hroot'⟩
      cases hroot.symm.trans he

/-- A scan that something obstructs comes to no verdict. Any other comes to one, which fails if something expired is
found, and in which all paths are texts unless one has to be told that is not. -/
theorem attempt_cases (w : World) (s : Settings) :
    (IsObstructed w.files s ∧ ∃ e, (attempt w s).result = .error e) ∨
    (¬ IsObstructed w.files s ∧ ∃ v, (attempt w s).result = .ok v ∧ (v.fails = true ↔ FindsExpired w s) ∧
      (v.IsTellable ↔ ¬ TellsRaw w s)) := by
  by_cases h : IsObstructed w.files s
  · exact .inl ⟨h, attempt_eq_error h⟩
  obtain ⟨layer, c, d, e, hlayer, hconfig, hreference, hroot⟩ :=
    exists_inEffect_of_not_isObstructed h w.today
  obtain ⟨report, hscan, hattempt⟩ := attempt_eq_ok hlayer hconfig hreference hroot
  have hfound : discover w.files c.excludes (scanRoot s.path) = .ok _ := discover_of_resolve hroot
  -- a scan has one result, so what is in effect is so only once
  have honce {layer' : Option ConfigLayer} {c' : Config} {d' : Date} (hlayer' : FileLayer w.files s layer')
      (hconfig' : InEffect s layer' c') (hreference' : RefersTo c'.datePattern w.today s.today d') :
      c' = c ∧ d' = d := by
    refine ⟨?_, ?_⟩
    · exact Except.ok.inj ((configFor_of_inEffect hlayer' hconfig').symm.trans (configFor_of_inEffect hlayer hconfig))
    · obtain ⟨_, _, hattempt'⟩ := attempt_eq_ok hlayer' hconfig' hreference' hroot
      exact (Verdict.mk.inj (Except.ok.inj (hattempt'.symm.trans hattempt))).1
  refine .inr ⟨h, _, hattempt, ?_, ?_⟩
  · rw [Verdict.fails_iff]
    constructor
    · rintro ⟨hfail, r, hr, hdates⟩
      exact ⟨layer, c, d, r, hlayer, hconfig, hreference, hfail, (mem_remarks_iff hscan).mp hr, hdates⟩
    · rintro ⟨layer', c', d', r, hlayer', hconfig', hreference', hfail, hr, hdates⟩
      obtain ⟨rfl, rfl⟩ := honce hlayer' hconfig' hreference'
      exact ⟨hfail, r, (mem_remarks_iff hscan).mpr hr, hdates⟩
  · rw [isTellable_iff hscan hfound]
    constructor
    · rintro htexts ⟨layer', c', d', found', f, hlayer', hconfig', hreference', hfound', hf, htold, hraw⟩
      obtain ⟨rfl, rfl⟩ := honce hlayer' hconfig' hreference'
      cases hfound.symm.trans hfound'
      have hsome := htexts f hf htold
      rw [hraw] at hsome
      cases hsome
    · intro htexts f hf htold
      by_contra hraw
      rw [Option.not_isSome_iff_eq_none] at hraw
      exact htexts ⟨layer, c, d, _, f, hlayer, hconfig, hreference, hfound, hf, htold, hraw⟩

/-- A run that is to scan ends by what its scan comes to. -/
theorem run_of_arguments {arguments : List String}
    (h : Settings.ofArguments w.environment.date arguments = .ok s) :
    (run w arguments).exit = exitStatus (ending w s (attempt w s).result) ∧
    (run w arguments).stdout = standardOutput w s (attempt w s).result := by
  rw [run, h]
  exact ⟨rfl, rfl⟩

/-- The exit status of a run whose output is taken, if it comes to a verdict. -/
theorem exitStatus_ending {v : Verdict} (houtlet : w.outlet.limit = none) :
    (s.json = true ∧ ¬ v.IsTellable → exitStatus (v.ending w s) = 2) ∧
    (¬ (s.json = true ∧ ¬ v.IsTellable) → exitStatus (v.ending w s) = if v.fails then 1 else 0) := by
  have hfault : w.outlet.fault? (v.written w.environment s) = none := by rw [Outlet.fault?, houtlet]
  rw [Verdict.ending, hfault, ← Verdict.isWritable_document_iff]
  cases s.json <;> cases v.document.isWritable <;> simp [exitStatus]

/-- How a run ends whose arguments ask for a scan and whose output is taken. -/
theorem exit_cases {arguments : List String} (h : Settings.ofArguments w.environment.date arguments = .ok s)
    (houtlet : w.outlet.limit = none) :
    ((IsObstructed w.files s ∨ s.json = true ∧ TellsRaw w s) ∧ (run w arguments).exit = 2) ∨
    (¬ (IsObstructed w.files s ∨ s.json = true ∧ TellsRaw w s) ∧ FindsExpired w s ∧ (run w arguments).exit = 1) ∨
    (¬ (IsObstructed w.files s ∨ s.json = true ∧ TellsRaw w s) ∧ ¬ FindsExpired w s ∧ (run w arguments).exit = 0) := by
  rw [(run_of_arguments h).1]
  rcases attempt_cases w s with ⟨hobstructed, e, he⟩ | ⟨hfree, v, hv, hfails, htold⟩
  · exact .inl ⟨.inl hobstructed, by rw [he]; rfl⟩
  · obtain ⟨hbroken, hwhole⟩ := exitStatus_ending (s := s) (v := v) houtlet
    rw [htold, not_not] at hbroken hwhole
    rw [hv, ending, or_iff_right hfree, ← hfails]
    by_cases hraw : s.json = true ∧ TellsRaw w s
    · exact .inl ⟨hraw, hbroken hraw⟩
    · rw [hwhole hraw]
      by_cases hexpired : v.fails = true
      · exact .inr (.inl ⟨hraw, hexpired, if_pos hexpired⟩)
      · exact .inr (.inr ⟨hraw, hexpired, if_neg hexpired⟩)

/-- What makes a run exit with two, where its output is taken. -/
theorem exit_eq_two_iff {arguments : List String} (h : Settings.ofArguments w.environment.date arguments = .ok s)
    (houtlet : w.outlet.limit = none) :
    (run w arguments).exit = 2 ↔ IsObstructed w.files s ∨ s.json = true ∧ TellsRaw w s := by
  rcases exit_cases h houtlet with ⟨hstopped, hexit⟩ | ⟨hfree, -, hexit⟩ | ⟨hfree, -, hexit⟩
  · simp only [hexit, hstopped]
  · simp only [hexit, hfree]
    decide
  · simp only [hexit, hfree]
    decide

/-- What becomes of a run when not all of its output is taken. -/
theorem run_of_limit {arguments : List String} (h : Settings.ofArguments w.environment.date arguments = .ok s)
    {room : Nat} {fault : IoFault} (houtlet : w.outlet.limit = some (room, fault)) :
    (run w arguments).stdout = String.ofList ((run { w with outlet := {} } arguments).stdout.toList.take room) ∧
    (¬ IsObstructed w.files s →
      room < (Outlet.fullLines (run { w with outlet := {} } arguments).stdout.toList).length →
      (run w arguments).exit = if s.json then 2 else 101) ∧
    (¬ room < (Outlet.fullLines (run { w with outlet := {} } arguments).stdout.toList).length →
      (run w arguments).exit = (run { w with outlet := {} } arguments).exit) := by
  obtain ⟨hexit, hout⟩ := run_of_arguments h
  obtain ⟨hexit', hout'⟩ := run_of_arguments (w := { w with outlet := {} }) h
  -- the verdict does not depend on where the output goes
  have hsame : (attempt { w with outlet := {} } s).result = (attempt w s).result := rfl
  rw [hexit, hout, hexit', hout', hsame]
  rcases attempt_cases w s with ⟨hobstructed, e, he⟩ | ⟨-, v, hv, -⟩
  · rw [he]
    refine ⟨?_, fun hfree => absurd hobstructed hfree, fun _ => rfl⟩
    rw [standardOutput, standardOutput, String.toList_empty, List.take_nil, String.ofList_nil]
  · have htaken : standardOutput { w with outlet := {} } s (.ok v) = v.written w.environment s := rfl
    rw [hv, htaken]
    refine ⟨?_, fun _ hroom => ?_, fun hroom => ?_⟩
    · rw [standardOutput, Outlet.taken, houtlet]
    · have hfault : w.outlet.fault? (v.written w.environment s) = some fault := by
        rw [Outlet.fault?, houtlet]
        exact if_pos hroom
      rw [ending, Verdict.ending, hfault]
      cases s.json <;> rfl
    · have hfault : w.outlet.fault? (v.written w.environment s) = none := by
        rw [Outlet.fault?, houtlet]
        exact if_neg hroom
      rw [ending, Verdict.ending, hfault]
      rfl

end Exit

/-- A run that is to scan and that something obstructs exits with two and writes nothing, wherever its output goes.
Where all its output is taken, it exits with two also if it is to write a document and has to tell of a file whose path
is no text, and for no other reason. Otherwise it exits with one if it is to fail on expired remarks and finds one, and
with zero if not. So no source file makes it exit with two by what is in it or whether it can be read, but by its path
it may. Where not all of its output is taken, there is no more of it, and a run that would have come to a verdict exits
with two if it is to write a document and breaks down if not. -/
theorem exit_of_scan {w : World} {arguments : List String} {s : Settings}
    (h : Settings.ofArguments w.environment.date arguments = .ok s) :
    (IsObstructed w.files s → (run w arguments).exit = 2 ∧ (run w arguments).stdout = "") ∧
    (w.outlet.limit = none →
      ((run w arguments).exit = 2 ↔ IsObstructed w.files s ∨ s.json = true ∧ TellsRaw w s) ∧
      ((run w arguments).exit = 1 ↔
        ¬ (IsObstructed w.files s ∨ s.json = true ∧ TellsRaw w s) ∧ FindsExpired w s) ∧
      ((run w arguments).exit = 0 ↔
        ¬ (IsObstructed w.files s ∨ s.json = true ∧ TellsRaw w s) ∧ ¬ FindsExpired w s) ∧
      ∀ w' : World, w'.environment.date = w.environment.date → w'.outlet.limit = none →
        SameSetup s w.files w'.files → (s.json = true → ¬ TellsRaw w s ∧ ¬ TellsRaw w' s) →
        ((run w' arguments).exit = 2 ↔ (run w arguments).exit = 2)) ∧
    ∀ room fault, w.outlet.limit = some (room, fault) →
      (run w arguments).stdout = String.ofList ((run { w with outlet := {} } arguments).stdout.toList.take room) ∧
      (¬ IsObstructed w.files s →
        room < (Outlet.fullLines (run { w with outlet := {} } arguments).stdout.toList).length →
        (run w arguments).exit = if s.json then 2 else 101) ∧
      (¬ room < (Outlet.fullLines (run { w with outlet := {} } arguments).stdout.toList).length →
        (run w arguments).exit = (run { w with outlet := {} } arguments).exit) := by
  refine ⟨fun hobstructed => ?_, fun houtlet => ?_, fun room fault houtlet => run_of_limit h houtlet⟩
  -- nothing is written before the scan is over
  · obtain ⟨e, he⟩ := attempt_eq_error hobstructed
    obtain ⟨hexit, hout⟩ := run_of_arguments h
    rw [hexit, hout, he]
    exact ⟨rfl, rfl⟩
  · refine ⟨exit_eq_two_iff h houtlet, ?_, ?_, ?_⟩
    -- the three ways to end exclude each other, so each status tells which one it was
    · rcases exit_cases h houtlet with ⟨hstopped, hexit⟩ | ⟨hfree, hfinds, hexit⟩ | ⟨hfree, hfinds, hexit⟩
      · simp [hexit, hstopped]
      · simp only [hexit, hfree, hfinds, not_false_eq_true, and_self]
      · simp [hexit, hfinds]
    · rcases exit_cases h houtlet with ⟨hstopped, hexit⟩ | ⟨hfree, hfinds, hexit⟩ | ⟨hfree, hfinds, hexit⟩
      · simp [hexit, hstopped]
      · simp [hexit, hfinds]
      · simp only [hexit, hfree, hfinds, not_false_eq_true, and_self]
    -- what obstructs a scan is the same for both file systems, and paths that are no texts were excluded
    · intro w' hdate houtlet' hsetup htexts
      have hnone {x : World} (hx : s.json = true → ¬ TellsRaw x s) : ¬ (s.json = true ∧ TellsRaw x s) :=
        fun ⟨hjson, hraw⟩ => hx hjson hraw
      rw [exit_eq_two_iff h houtlet, exit_eq_two_iff (w := w') (by rw [hdate, h]) houtlet',
        or_iff_left (hnone fun hjson => (htexts hjson).1), or_iff_left (hnone fun hjson => (htexts hjson).2)]
      exact ⟨hsetup.symm.isObstructed, hsetup.isObstructed⟩

/-! ### A directory with configuration files -/

/-- The text of a file that can be read. -/
theorem readText_of_resolve {fs : FileSystem} {path : Path} {name : RawText} {text : String}
    (h : fs.resolve path = .ok (.file name (.ok text.toUTF8))) : fs.readText path = .ok text := by
  simp only [FileSystem.readText, FileSystem.read, h, bind, Except.bind, fromUTF8?_toUTF8]
  rfl

namespace Watched

/-- Configuration files, a source file with a remark, and one that cannot be read. -/
def entries : List Entry := [
  .file ".stalewatch.yaml" (.ok "fail-on-expired: true\n".toUTF8),
  .file "lax.yaml" (.ok "fail-on-expired: false\n".toUTF8),
  .file "bad.yaml" (.ok "fail-on-expired: 3\n".toUTF8),
  .file "a.go" (.ok "// TODO: stale:01-01-2020 x\nfunc f() {}\n".toUTF8),
  .file "b.rs" (.error .denied)]

def tree : FileSystem := ⟨entries, []⟩

/-- What the source file contributes. The tables of its language are too large to be computed with in a proof, so
what is shown of runs on it rests on this. -/
def source : Source := ⟨[⟨"f", 28, 39⟩], [⟨0, 1, "// TODO: stale:01-01-2020 x"⟩]⟩

/-- The names in the directory can be names of files, and they differ. -/
theorem isProper_tree : tree.IsProper := by
  have hname : ∀ name ∈ entries.map Entry.name, IsName name := by decide
  refine .directory _ _ (by decide) (fun e he => hname _ (List.mem_map_of_mem he)) ?_
  simp [tree, entries, Entry.IsProper.file]

theorem resolve_root : tree.resolve ⟨"."⟩ = .ok (.directory "" entries) := FileSystem.resolve_here entries

/-- Each file is found by its name behind that of the directory. -/
theorem resolve_join {e : Entry} (he : e ∈ entries) (hlong : FileSystem.isTooLong (Path.join ⟨"."⟩ e.name) = false)
    (hlink : e.isLink = false) (hfault : e.fault? = none) : tree.resolve (Path.join ⟨"."⟩ e.name) = .ok e := by
  rw [FileSystem.resolve_join isProper_tree resolve_root he hlink, hlong, if_neg Bool.false_ne_true,
    FileSystem.grant, hfault]
  rfl

theorem resolve_config : tree.resolve ((Path.mk ".").join ".stalewatch.yaml") =
    .ok (.file ".stalewatch.yaml" (.ok "fail-on-expired: true\n".toUTF8)) :=
  resolve_join List.mem_cons_self (by decide) rfl rfl

theorem resolve_source : tree.resolve ⟨"./a.go"⟩ =
    .ok (.file "a.go" (.ok "// TODO: stale:01-01-2020 x\nfunc f() {}\n".toUTF8)) := by
  have hmem : .file "a.go" (.ok "// TODO: stale:01-01-2020 x\nfunc f() {}\n".toUTF8) ∈ entries := by simp [entries]
  have hpath : (⟨"./a.go"⟩ : Path) = (Path.mk ".").join "a.go" := by decide
  rw [hpath]
  exact resolve_join hmem (by decide) rfl rfl

theorem resolve_scanRoot : tree.resolve (scanRoot ".") = .ok (.directory "" entries) := by
  rw [show scanRoot "." = ⟨"."⟩ by decide, resolve_root]

/-- The configuration file is searched for in the directory, also for the source file. -/
theorem directory_eq : ConfigSource.directory tree (scanRoot ".") = ⟨"."⟩ ∧
    ConfigSource.directory tree (scanRoot "./a.go") = ⟨"."⟩ := by
  constructor
  · rw [ConfigSource.directory, FileSystem.isFile, resolve_scanRoot]
    decide
  · rw [show scanRoot "./a.go" = ⟨"./a.go"⟩ by decide, ConfigSource.directory, FileSystem.isFile, resolve_source]
    decide

/-- The configuration file of the directory is the one that is searched for. -/
theorem configFile_found {s : Settings} (hdirectory : ConfigSource.directory tree (scanRoot s.path) = ⟨"."⟩)
    (hconfig : s.config = none) : ConfigFile tree s ((Path.mk ".").join ".stalewatch.yaml") := by
  have hfile : tree.isFile ((Path.mk ".").join ".stalewatch.yaml") = true := by
    rw [FileSystem.isFile, resolve_config]
  have hfound : ConfigFile tree s ((ConfigSource.directory tree (scanRoot s.path)).join ".stalewatch.yaml") :=
    .found hconfig (by rw [hdirectory, hfile])
  rwa [hdirectory] at hfound

/-- The configuration file asks for failing. -/
theorem holdsLayer_found :
    HoldsLayer tree ((Path.mk ".").join ".stalewatch.yaml") { failOnExpired := some true } :=
  ⟨_, readText_of_resolve resolve_config, by rfl⟩

/-- The lax file asks for not failing. -/
theorem holdsLayer_lax : HoldsLayer tree ⟨"lax.yaml"⟩ { failOnExpired := some false } := by
  have hname : IsName "lax.yaml" := by decide
  have hresolve : tree.resolve ⟨"lax.yaml"⟩ = .ok (.file "lax.yaml" (.ok "fail-on-expired: false\n".toUTF8)) :=
    FileSystem.resolve_name rfl hname rfl rfl rfl
  exact ⟨_, readText_of_resolve hresolve, by rfl⟩

/-- The bad file holds no layer. -/
theorem not_holdsLayer_bad (layer : ConfigLayer) : ¬ HoldsLayer tree ⟨"bad.yaml"⟩ layer := by
  have hname : IsName "bad.yaml" := by decide
  have hresolve : tree.resolve ⟨"bad.yaml"⟩ = .ok (.file "bad.yaml" (.ok "fail-on-expired: 3\n".toUTF8)) :=
    FileSystem.resolve_name rfl hname rfl rfl rfl
  have hparse : (LayerFile.parse "fail-on-expired: 3\n").toOption = none := by decide
  rintro ⟨text, htext, hlayer⟩
  cases (readText_of_resolve hresolve).symm.trans htext
  rw [hlayer] at hparse
  cases hparse

/-- The layer of the configuration file in the directory. -/
theorem fileLayer_found {s : Settings} (hdirectory : ConfigSource.directory tree (scanRoot s.path) = ⟨"."⟩)
    (hconfig : s.config = none) : FileLayer tree s (some { failOnExpired := some true }) :=
  .read (configFile_found hdirectory hconfig) holdsLayer_found

/-- The source file is found. -/
theorem mem_files : ⟨"./a.go"⟩ ∈ (Discovery.ofVisits (walkRoot tree [] ⟨"."⟩ (.directory "" entries))).files := by
  have hsource : .file "a.go" (.ok "// TODO: stale:01-01-2020 x\nfunc f() {}\n".toUTF8) ∈ entries := by
    simp [entries]
  have hfile : tree.isFile ⟨"./a.go"⟩ = true := by rw [FileSystem.isFile, resolve_source]
  exact mem_files_of_listed isProper_tree resolve_root rfl hsource (by decide) hfile
    ⟨encode ['a'], "go", by decide +kernel⟩

/-- A run in the directory, long after the remark. -/
def world : World := { files := tree, environment := {}, today := .last, time := "" }

/-- The configuration that is in effect in the directory. -/
theorem inEffect_found : InEffect {} (some { failOnExpired := some true }) ⟨.standard, 90, [], true⟩ :=
  ⟨.standard rfl, rfl, rfl, rfl⟩

/-- Without arguments the configuration file in the directory counts. -/
theorem fileLayer_plain : FileLayer world.files {} (some { failOnExpired := some true }) := by
  have hdirectory : ConfigSource.directory tree (scanRoot ({} : Settings).path) = ⟨"."⟩ := directory_eq.1
  exact fileLayer_found hdirectory rfl

/-- If the source file contributes what it should, the run finds an expired remark and is to fail on it. -/
theorem findsExpired (hsource : inspect tree ⟨"./a.go"⟩ = .ok source) : FindsExpired world {} := by
  refine ⟨_, _, .last,
    ⟨⟨"./a.go"⟩, 1, "f", .todo, none, ⟨2020, 1, 1, by decide⟩, ⟨2020, 3, 31, by decide⟩, "x"⟩,
    fileLayer_plain, inEffect_found, .blank (by simp), rfl, ?_, by decide, by decide⟩
  have hfound : discover tree [] (scanRoot ".") = .ok _ := discover_of_resolve resolve_scanRoot
  refine ⟨_, hfound, ⟨"./a.go"⟩, mem_files, source, hsource, ?_⟩
  decide

end Watched

/-- Three runs on one directory: one that fails on a remark, by the configuration that is found there; one with a
configuration that does not ask for failing; and one with a configuration that is none. -/
theorem exit_of_scan_watched :
    (inspect Watched.tree ⟨"./a.go"⟩ = .ok Watched.source → (run Watched.world []).exit = 1) ∧
    (run Watched.world ["--config", "lax.yaml"]).exit = 0 ∧
    (run Watched.world ["--config", "bad.yaml"]).exit = 2 ∧
    (run Watched.world ["--config", "bad.yaml"]).stdout = "" := by
  have hplain : Settings.ofArguments none [] = .ok {} := rfl
  have hlax : Settings.ofArguments none ["--config", "lax.yaml"] = .ok { config := some "lax.yaml" } := by
    decide
  have hbad : Settings.ofArguments none ["--config", "bad.yaml"] = .ok { config := some "bad.yaml" } := by
    decide
  refine ⟨fun hsource => ?_, ?_, ?_⟩
  -- the configuration file that is found asks for failing
  · obtain ⟨-, htaken, -⟩ := exit_of_scan (w := Watched.world) hplain
    refine (htaken rfl).2.1.mpr ⟨?_, Watched.findsExpired hsource⟩
    rintro (hobstructed | ⟨hjson, -⟩)
    · exact not_isObstructed Watched.fileLayer_plain Watched.inEffect_found (.blank (by simp))
        Watched.resolve_scanRoot hobstructed
    · cases hjson
  · obtain ⟨-, htaken, -⟩ := exit_of_scan (w := Watched.world) hlax
    -- the lax file is named, so the one in the directory does not count
    have hlayer : FileLayer Watched.tree { config := some "lax.yaml" } (some { failOnExpired := some false }) :=
      .read (.named rfl) Watched.holdsLayer_lax
    have hconfig : InEffect { config := some "lax.yaml" } (some { failOnExpired := some false })
        ⟨.standard, 90, [], false⟩ := ⟨.standard rfl, rfl, rfl, rfl⟩
    refine (htaken rfl).2.2.1.mpr ⟨?_, ?_⟩
    · rintro (hobstructed | ⟨hjson, -⟩)
      · exact not_isObstructed hlayer hconfig (.blank (by simp)) Watched.resolve_scanRoot hobstructed
      · cases hjson
    · rintro ⟨layer', c', d, r, hlayer', hconfig', -, hfail, -⟩
      cases (configFor_of_inEffect hlayer hconfig).symm.trans (configFor_of_inEffect hlayer' hconfig')
      cases hfail
  · obtain ⟨hstopped, -⟩ := exit_of_scan (w := Watched.world) hbad
    exact hstopped (.config (.named rfl) Watched.not_holdsLayer_bad)

/-! ### A file whose path is no text -/

namespace Raw

/-- The name of a source file that is no text. -/
def name : RawText := ⟨[byteOf 'b', 0xff, byteOf '.', byteOf 'g', byteOf 'o']⟩

/-- A source file that cannot be read, with that name. -/
def entries : List Entry := [.file name (.error .denied)]

def world : World := { files := ⟨entries, []⟩, environment := {}, today := .last, time := "" }

/-- The name can be that of a file, although it is no text. -/
theorem isProper_files : world.files.IsProper := by
  have hname : IsName name := by decide
  refine .directory _ _ (by decide) ?_ ?_
  · simpa [world, entries, Entry.name] using hname
  · simp [world, entries, Entry.IsProper.file]

theorem resolve_root : world.files.resolve ⟨"."⟩ = .ok (.directory "" entries) := FileSystem.resolve_here entries

theorem resolve_scanRoot : world.files.resolve (scanRoot ".") = .ok (.directory "" entries) := by
  rw [show scanRoot "." = ⟨"."⟩ by decide, resolve_root]

theorem resolve_file : world.files.resolve ((Path.mk ".").join name) = .ok (.file name (.error .denied)) :=
  FileSystem.resolve_join isProper_files resolve_root List.mem_cons_self rfl

/-- There is no configuration file. -/
theorem fileLayer {s : Settings} (hpath : s.path = ".") (hconfig : s.config = none) :
    FileLayer world.files s none := by
  have hname : IsName ".stalewatch.yaml" := by decide
  obtain ⟨fault, hfault⟩ := FileSystem.resolve_join_of_lookup?_eq_none resolve_root hname (by decide)
  have hdirectory : ConfigSource.directory world.files (scanRoot s.path) = ⟨"."⟩ := by
    rw [hpath, show scanRoot "." = ⟨"."⟩ by decide, ConfigSource.directory, FileSystem.isFile, resolve_root]
    rfl
  refine .none fun path hpath => ?_
  rcases hpath with hnamed | ⟨-, hfile⟩
  · cases hconfig.symm.trans hnamed
  · rw [hdirectory, FileSystem.isFile, hfault] at hfile
    cases hfile

/-- The file is found. -/
theorem mem_files :
    (Path.mk ".").join name ∈
      (Discovery.ofVisits (walkRoot world.files [] ⟨"."⟩ (.directory "" entries))).files := by
  have hfile : world.files.isFile ((Path.mk ".").join name) = true := by rw [FileSystem.isFile, resolve_file]
  exact mem_files_of_listed isProper_files resolve_root rfl List.mem_cons_self rfl hfile
    ⟨[byteOf 'b', 0xff], "go", by decide +kernel⟩

/-- The file cannot be read, so that it has to be told. -/
theorem tellsRaw {s : Settings} {d : Date} (hpath : s.path = ".") (hconfig : s.config = none)
    {c : Config} (hin : InEffect s none c) (hexcludes : c.excludes = [])
    (hreference : RefersTo c.datePattern world.today s.today d) : TellsRaw world s := by
  have hfound : discover world.files c.excludes (scanRoot s.path) =
      .ok (.ofVisits (walkRoot world.files [] ⟨"."⟩ (.directory "" entries))) := by
    rw [hpath, hexcludes, show scanRoot "." = ⟨"."⟩ by decide]
    exact discover_of_resolve resolve_root
  have herror : textOf world.files ((Path.mk ".").join name) =
      .error (.ioError ((Path.mk ".").join name) IoFault.denied.message) := by
    rw [textOf, show ((Path.mk ".").join name).language? = some .go by decide +kernel]
    simp only [FileSystem.read, resolve_file, bind, Except.bind]
  exact ⟨none, c, d, _, (Path.mk ".").join name, fileLayer hpath hconfig, hin, hreference, hfound,
    mem_files, .inl ⟨_, inspect_of_textOf_error herror⟩, by decide⟩

end Raw

/-- Something else than an obstruction can make a run exit with two, and then it has written something. -/
theorem not_forall_exit_two :
    (¬ ∀ (w : World) (arguments : List String) (s : Settings),
      Settings.ofArguments w.environment.date arguments = .ok s → w.outlet.limit = none →
      (run w arguments).exit = 2 → IsObstructed w.files s) ∧
    ¬ ∀ (w : World) (arguments : List String) (s : Settings),
      Settings.ofArguments w.environment.date arguments = .ok s → w.outlet.limit = none →
      (run w arguments).exit = 2 → (run w arguments).stdout = "" := by
  have hs : Settings.ofArguments none ["--json"] = .ok { json := true } := by decide
  have hlayer : FileLayer Raw.world.files { json := true } none := Raw.fileLayer rfl rfl
  have hconfig : InEffect { json := true } none ⟨.standard, 90, [], false⟩ := ⟨.standard rfl, rfl, rfl, rfl⟩
  have hreference : RefersTo .standard Raw.world.today none .last := .blank (by simp)
  have hexit : (run Raw.world ["--json"]).exit = 2 :=
    (exit_eq_two_iff hs rfl).mpr (.inr ⟨rfl, Raw.tellsRaw rfl rfl hconfig rfl hreference⟩)
  constructor
  · intro h
    exact not_isObstructed hlayer hconfig hreference Raw.resolve_scanRoot (h Raw.world _ _ hs rfl hexit)
  · intro h
    have hnothing := h Raw.world _ _ hs rfl hexit
    obtain ⟨report, -, hattempt⟩ := attempt_eq_ok hlayer hconfig hreference Raw.resolve_scanRoot
    rw [(run_of_arguments hs).2, hattempt] at hnothing
    exact Json.pretty_object_ne_empty _ hnothing

end Overdue
