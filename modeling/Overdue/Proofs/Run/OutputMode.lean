/-
What is reported does not depend on how it is reported.

Two runs scan the same if they agree in all that a scan looks at: the files, the arguments for the scan, and the
reference date. They may differ in the form of the output and in everything about the log. Such runs come to the
same verdict (`SameScan.result_attempt`). So in the same form they exit alike and write the same. In different forms
they exit alike unless a path has to be told that is no text, which cannot be done in a document. Where the document is
written, what is written for people is what can be read from it: no other document is written like it
(`Json.pretty_eq_iff`), and the text is determined by what it says (`Verdict.render_text`).
-/
import Overdue.Proofs.Json.Readability
import Overdue.Proofs.Run.ExitStatus
import Overdue.Proofs.Verdict.Digest

set_option autoImplicit false

namespace Overdue

open Overdue.Calendar Overdue.CommandLine Overdue.Text

/-- Two runs scan the same, and their output goes to the same place: they may differ in the form of the output, in the
filter of the log, in the time that log lines show, and in the current day if a reference date is given. -/
structure SameScan (w w' : World) (s s' : Settings) : Prop where
  files : w'.files = w.files
  outlet : w'.outlet = w.outlet
  environment : { w'.environment with log := w.environment.log } = w.environment
  settings : { s' with json := s.json, logLevel := s.logLevel, verbosity := s.verbosity } = s
  reference : w'.today = w.today ∨ ∃ text, s.today = some text ∧ trim text.toList ≠ []

/-- The configuration depends on the layer of the arguments and on where its file is searched. -/
theorem configFor_congr {fs : FileSystem} {s s' : Settings} (hlayer : s'.layer = s.layer)
    (hconfig : s'.config = s.config) (hpath : s'.path = s.path) : configFor fs s' = configFor fs s := by
  rw [configFor, configFor, ConfigSource.of, ConfigSource.of, hlayer, hconfig, hpath]

/-- A reference text that is not blank gives the date whatever day it is. -/
theorem date_of_trim_ne_nil {pattern : DatePattern} {text : String} {reference : Reference}
    (h : trim text.toList ≠ []) (href : Reference.ofText pattern (some text) = .ok reference)
    (day day' : Date) : reference.date day' = reference.date day := by
  rw [ofText_of_trim_ne_nil h] at href
  split at href
  · cases href
    rfl
  · cases href

namespace SameScan

variable {w w' : World} {s s' : Settings}

/-- Two runs that scan the same come to the same verdict. -/
theorem result_attempt (h : SameScan w w' s s') : (attempt w' s').result = (attempt w s).result := by
  have hlayer : s'.layer = s.layer := by rw [← h.settings]; rfl
  have hconfig : s'.config = s.config := by rw [← h.settings]
  have hpath : s'.path = s.path := by rw [← h.settings]
  have htoday : s'.today = s.today := by rw [← h.settings]
  rw [Overdue.result_attempt, Overdue.result_attempt, h.files, configFor_congr hlayer hconfig hpath, htoday, hpath]
  -- of the two days only the reference date can take notice
  refine bind_congr fun c => ?_
  cases href : Reference.ofText c.datePattern s.today with
  | error e => rfl
  | ok reference =>
    have hdate : reference.date w'.today = reference.date w.today := by
      rcases h.reference with hday | ⟨text, htext, hne⟩
      · rw [hday]
      · rw [htext] at href
        exact date_of_trim_ne_nil hne href _ _
    dsimp only [bind, Except.bind]
    rw [hdate]

/-- What is coloured is the same in runs that scan the same. -/
theorem verdictColoring (h : SameScan w w' s s') :
    w'.environment.verdictColoring = w.environment.verdictColoring := by
  rw [← h.environment]
  rfl

end SameScan

section Outputs

variable {w w' : World} {s s' : Settings} {arguments arguments' : List String}

/-- In the same form one verdict is written and ends alike. -/
theorem SameScan.run_of_json (hs : Settings.ofArguments w.environment.date arguments = .ok s)
    (hs' : Settings.ofArguments w'.environment.date arguments' = .ok s') (h : SameScan w w' s s')
    (hjson : s'.json = s.json) :
    (run w' arguments').exit = (run w arguments).exit ∧ (run w' arguments').stdout = (run w arguments).stdout := by
  obtain ⟨hexit, hout⟩ := run_of_arguments hs
  obtain ⟨hexit', hout'⟩ := run_of_arguments hs'
  rw [hexit, hout, hexit', hout', h.result_attempt]
  cases (attempt w s).result with
  | error e => exact ⟨rfl, rfl⟩
  | ok v =>
    have hwritten : v.written w'.environment s' = v.written w.environment s := by
      rw [Verdict.written, Verdict.written, hjson, h.verdictColoring]
    simp only [ending, standardOutput, Verdict.ending, hwritten, hjson, h.outlet, and_self]

/-- In different forms two runs exit alike, unless the document has to tell a path that is no text. -/
theorem SameScan.exit_eq_iff (hs : Settings.ofArguments w.environment.date arguments = .ok s)
    (hs' : Settings.ofArguments w'.environment.date arguments' = .ok s') (h : SameScan w w' s s')
    (hjson : s.json = true) (hjson' : s'.json = false) (houtlet : w.outlet.limit = none) :
    ((run w' arguments').exit = (run w arguments).exit ↔ ¬ TellsRaw w s) ∧
    (TellsRaw w s → (run w arguments).exit = 2 ∧ (run w' arguments').exit ≠ 2) := by
  have houtlet' : w'.outlet.limit = none := by rw [h.outlet, houtlet]
  rw [(run_of_arguments hs).1, (run_of_arguments hs').1, h.result_attempt]
  rcases attempt_cases w s with ⟨hobstructed, e, he⟩ | ⟨-, v, hv, -, htold⟩
  · -- where something obstructs the scan nothing is told at all
    have hnone : ¬ TellsRaw w s := by
      rintro ⟨layer, c, d, found, f, hlayer, hconfig, hreference, hfound, -⟩
      cases hroot : w.files.resolve (scanRoot s.path) with
      | error fault =>
        rw [discover, visitsFrom, hroot] at hfound
        cases hfound
      | ok e => exact not_isObstructed hlayer hconfig hreference hroot hobstructed
    rw [he]
    exact ⟨iff_of_true rfl hnone, fun hraw => absurd hraw hnone⟩
  · obtain ⟨hbroken, hwhole⟩ := exitStatus_ending (s := s) (v := v) houtlet
    have hplain : ¬ (s'.json = true ∧ ¬ v.IsTellable) := by
      rw [hjson']
      exact fun h => Bool.false_ne_true h.1
    -- the run with text cannot fail on a path, as it shows what can be shown of it
    have htext := (exitStatus_ending (s := s') (v := v) houtlet').2 hplain
    have hne : exitStatus (v.ending w' s') ≠ 2 := by
      rw [htext]
      cases v.fails <;> decide
    rw [hv, ending, ending]
    by_cases hraw : TellsRaw w s
    · have htwo := hbroken ⟨hjson, fun htellable => htold.mp htellable hraw⟩
      rw [htwo]
      exact ⟨iff_of_false hne (not_not.mpr hraw), fun _ => ⟨rfl, hne⟩⟩
    · have hdone := hwhole fun hbad => hbad.2 (htold.mpr hraw)
      rw [hdone, htext]
      exact ⟨iff_of_true rfl hraw, fun h => absurd h hraw⟩

/-- Two runs that scan the same, with the output going to the same place, exit alike and write the same if they write in
the same form. If one writes a document and the other one text, and everything is taken, they exit alike exactly if the
document need not tell a path that is no text; else the one with the document exits with two, and the other one does
not. If the document is written to its end, then the text has one line for each finding of the document and then a
summary with the numbers of the document, as `Digest.text` says, with nothing added but control sequences. -/
theorem output_of_sameScan (hs : Settings.ofArguments w.environment.date arguments = .ok s)
    (hs' : Settings.ofArguments w'.environment.date arguments' = .ok s') (h : SameScan w w' s s') :
    (s'.json = s.json →
      (run w' arguments').exit = (run w arguments).exit ∧ (run w' arguments').stdout = (run w arguments).stdout) ∧
    (s.json = true → s'.json = false → w.outlet.limit = none →
      ((run w' arguments').exit = (run w arguments).exit ↔ ¬ TellsRaw w s) ∧
      (TellsRaw w s → (run w arguments).exit = 2 ∧ (run w' arguments').exit ≠ 2) ∧
      ((run w arguments).exit ≠ 2 →
        ∃ document digest directories,
          (∀ other : Json, (run w arguments).stdout = other.pretty ↔ other = document) ∧
          Digest.ofJson? document = some digest ∧
          Adorned (run w' arguments').stdout.toList (digest.text directories).toList ∧
          (w.environment.verdictColoring = .off → (run w' arguments').stdout = digest.text directories) ∧
          (∀ e ∈ digest.findings, IsShownAs e.file e.shown) ∧
          digest.findings.length = digest.stale + digest.expired ∧
          (digest.anyExpired = true ↔ 0 < digest.expired))) := by
  refine ⟨h.run_of_json hs hs', fun hjson hjson' houtlet => ?_⟩
  obtain ⟨hequal, hraw⟩ := h.exit_eq_iff hs hs' hjson hjson' houtlet
  refine ⟨hequal, hraw, fun hend => ?_⟩
  rcases attempt_cases w s with ⟨hobstructed, -⟩ | ⟨-, v, hv, -, htold⟩
  · exact absurd ((exit_eq_two_iff hs houtlet).mpr (.inl hobstructed)) hend
  have htellable : v.IsTellable := htold.mpr fun h => hend (hraw h).1
  -- both forms are of one verdict, and the digest is what the document says of it
  have hdocument : (run w arguments).stdout = v.document.pretty := by
    rw [(run_of_arguments hs).2, hv, standardOutput, Outlet.taken, houtlet, Verdict.written, if_pos hjson]
  have hwritten : (run w' arguments').stdout = w.environment.verdictColoring.render v.text := by
    rw [(run_of_arguments hs').2, h.result_attempt, hv, standardOutput, Outlet.taken, h.outlet, houtlet,
      Verdict.written, if_neg (by rw [hjson']; exact Bool.false_ne_true), h.verdictColoring]
  have htext := Verdict.render_text htellable
  rw [hdocument, hwritten]
  refine ⟨v.document, Digest.of v, v.report.directoriesSkipped.length, ?_, Digest.ofJson?_document htellable, ?_, ?_,
    fun e _ => e.isShownAs_shown, ?_, ?_⟩
  · exact fun other => Json.pretty_eq_iff (Verdict.isWritable_document_iff.mpr htellable)
  · rw [← htext]
    exact Coloring.adorned_render _ _
  · intro hoff
    rw [hoff, htext]
  · rw [v.stale_digest, v.expired_digest, ← v.length_findings, Digest.of, List.length_map]
  · rw [v.expired_digest]
    exact v.anyExpired_iff

end Outputs

/-! ### A source file with a remark -/

namespace Watched

/-- A run on another day that logs everything. -/
def loudWorld : World := { files := tree, environment := { log := some "trace" }, today := default, time := "noon" }

/-- The settings for a document about the source file at a date, and a log with more in it. -/
def datedDocument : Settings := { path := "./a.go", today := some "01-01-2024", verbosity := 1, json := true }

/-- What the document says of the source file. -/
def entry : FindingEntry := ⟨"EXPIRED", "./a.go", 1, "f", "TODO", none, "01-01-2020", "31-03-2020", "x"⟩

theorem scanRoot_source : scanRoot datedDocument.path = ⟨"./a.go"⟩ := by decide

theorem resolve_datedDocument : loudWorld.files.resolve (scanRoot datedDocument.path) =
    .ok (.file "a.go" (.ok "// TODO: stale:01-01-2020 x\nfunc f() {}\n".toUTF8)) := by
  rw [scanRoot_source]
  exact resolve_source

theorem refersTo_date (day : Date) :
    RefersTo .standard day (some "01-01-2024") ⟨2024, 1, 1, by decide⟩ :=
  .given rfl (by decide) (by decide)

/-- What the settings and the configuration file say is in effect. -/
theorem inEffect_datedDocument :
    InEffect datedDocument (some { failOnExpired := some true }) ⟨.standard, 90, [], true⟩ :=
  ⟨.standard rfl, rfl, rfl, rfl⟩

theorem fileLayer_datedDocument :
    FileLayer loudWorld.files datedDocument (some { failOnExpired := some true }) := by
  have hdirectory : ConfigSource.directory tree (scanRoot datedDocument.path) = ⟨"."⟩ := directory_eq.2
  exact fileLayer_found hdirectory rfl

/-- Nothing obstructs the scan of the source file. -/
theorem not_isObstructed_datedDocument : ¬ IsObstructed loudWorld.files datedDocument :=
  not_isObstructed fileLayer_datedDocument inEffect_datedDocument (refersTo_date _) resolve_datedDocument

/-- The source file is all that is found, whatever is excluded. -/
theorem discover_source (excludes : List String) : discover tree excludes ⟨"./a.go"⟩ = .ok ⟨[⟨"./a.go"⟩], []⟩ := by
  have hfile : tree.isFile ⟨"./a.go"⟩ = true := by rw [FileSystem.isFile, resolve_source]
  rw [discover_of_resolve resolve_source, discover_of_isFile resolve_source hfile, if_pos (by decide +kernel)]

/-- The path of the source file is a text. -/
theorem not_tellsRaw_datedDocument : ¬ TellsRaw loudWorld datedDocument := by
  rintro ⟨layer, c, d, found, f, -, -, -, hfound, hf, -, hraw⟩
  rw [scanRoot_source] at hfound
  cases hfound.symm.trans (discover_source c.excludes)
  cases List.mem_singleton.mp hf
  exact absurd hraw (by decide)

/-- The verdict on the source file, if it contributes what it should. -/
def verdict : Verdict :=
  ⟨⟨2024, 1, 1, by decide⟩, ⟨1, source.remarks ⟨.standard, 90⟩ ⟨"./a.go"⟩, [], []⟩, true⟩

/-- The scan of the source file comes to its verdict. -/
theorem result_attempt_datedDocument (hsource : inspect tree ⟨"./a.go"⟩ = .ok source) :
    (attempt loudWorld datedDocument).result = .ok verdict := by
  have hreport : scanFiles tree ⟨.standard, 90, [], true⟩ [⟨"./a.go"⟩] = verdict.report := by
    rw [scanFiles, List.map_singleton, Inspection.of, hsource]
    rfl
  obtain ⟨report, hscan, hattempt⟩ :=
    attempt_eq_ok fileLayer_datedDocument inEffect_datedDocument (refersTo_date loudWorld.today) resolve_datedDocument
  have hknown : scan tree ⟨.standard, 90, [], true⟩ ⟨"./a.go"⟩ =
      .ok { verdict.report with directoriesSkipped := [] } := by
    have hfound : discover tree (Config.mk .standard 90 [] true).excludes ⟨"./a.go"⟩ = .ok ⟨[⟨"./a.go"⟩], []⟩ :=
      discover_source []
    rw [← hreport, scan_of_discover hfound]
  rw [scanRoot_source] at hscan
  cases hscan.symm.trans hknown
  exact hattempt

end Watched

/-- A remark is told alike in both forms, on whatever day and with whatever log, if the source file contributes what it
should. -/
theorem output_of_sameScan_watched :
    (run Watched.world ["--today", "01-01-2024", "./a.go"]).exit =
      (run Watched.loudWorld ["--json", "-v", "--today=01-01-2024", "./a.go"]).exit ∧
    (inspect Watched.tree ⟨"./a.go"⟩ = .ok Watched.source →
      ∃ document digest directories,
        (∀ other : Json,
          (run Watched.loudWorld ["--json", "-v", "--today=01-01-2024", "./a.go"]).stdout = other.pretty ↔
            other = document) ∧
        Digest.ofJson? document = some digest ∧ digest.findings = [Watched.entry] ∧
        (run Watched.world ["--today", "01-01-2024", "./a.go"]).stdout = digest.text directories ∧
        digest.expired = 1 ∧ digest.anyExpired = true) := by
  have hjson : Settings.ofArguments none ["--json", "-v", "--today=01-01-2024", "./a.go"] =
      .ok Watched.datedDocument := by decide
  have htext : Settings.ofArguments none ["--today", "01-01-2024", "./a.go"] =
      .ok { path := "./a.go", today := some "01-01-2024" } := by decide
  have hsame : SameScan Watched.loudWorld Watched.world Watched.datedDocument
      { path := "./a.go", today := some "01-01-2024" } := ⟨rfl, rfl, rfl, rfl, .inr ⟨_, rfl, by decide⟩⟩
  obtain ⟨-, hmodes⟩ := output_of_sameScan hjson htext hsame
  obtain ⟨hequal, -, hdigest⟩ := hmodes rfl rfl rfl
  have hend : (run Watched.loudWorld ["--json", "-v", "--today=01-01-2024", "./a.go"]).exit ≠ 2 := by
    intro hexit
    rcases (exit_eq_two_iff hjson rfl).mp hexit with hobstructed | ⟨-, hraw⟩
    · exact Watched.not_isObstructed_datedDocument hobstructed
    · exact Watched.not_tellsRaw_datedDocument hraw
  refine ⟨hequal.mpr Watched.not_tellsRaw_datedDocument, fun hsource => ?_⟩
  obtain ⟨document, digest, directories, hdocument, hread, -, hstdout, -, -, hexpired⟩ := hdigest hend
  -- the document is the only one that is written so, so it is that of the verdict
  have hverdict : Watched.verdict.document = document := by
    refine (hdocument _).mp ?_
    rw [(run_of_arguments hjson).2, Watched.result_attempt_datedDocument hsource]
    rfl
  have hfindings : (Digest.ofJson? Watched.verdict.document).map (·.findings) = some [Watched.entry] := by
    decide
  rw [hverdict, hread, Option.map_some, Option.some_inj] at hfindings
  have hone : digest.expired = 1 := by
    rw [Digest.expired, hfindings]
    decide
  exact ⟨document, digest, directories, hdocument, hread, hfindings, hstdout rfl, hone,
    hexpired.mpr (hone ▸ Nat.one_pos)⟩

/-- Two runs that scan the same need not exit alike. -/
theorem not_forall_exit_of_sameScan :
    ¬ ∀ (w w' : World) (s s' : Settings) (arguments arguments' : List String),
      Settings.ofArguments w.environment.date arguments = .ok s →
      Settings.ofArguments w'.environment.date arguments' = .ok s' → SameScan w w' s s' → w.outlet.limit = none →
      (run w' arguments').exit = (run w arguments).exit := by
  intro h
  have hjson : Settings.ofArguments none ["--json", "--today", "01-01-2024"] =
      .ok { json := true, today := some "01-01-2024" } := by decide
  have htext : Settings.ofArguments none ["--today", "01-01-2024"] = .ok { today := some "01-01-2024" } := by
    decide
  have hsame : SameScan Raw.world Raw.world { json := true, today := some "01-01-2024" }
      { today := some "01-01-2024" } := ⟨rfl, rfl, rfl, rfl, .inl rfl⟩
  have hconfig : InEffect { json := true, today := some "01-01-2024" } none ⟨.standard, 90, [], false⟩ :=
    ⟨.standard rfl, rfl, rfl, rfl⟩
  have hraw : TellsRaw Raw.world { json := true, today := some "01-01-2024" } :=
    Raw.tellsRaw rfl rfl hconfig rfl (Watched.refersTo_date _)
  have hequal := h Raw.world Raw.world _ _ _ _ hjson htext hsame rfl
  exact (hsame.exit_eq_iff hjson htext rfl rfl rfl).1.mp hequal hraw

end Overdue
