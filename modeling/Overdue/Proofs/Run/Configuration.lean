/-
The configuration in effect.

A run takes its configuration from a file, if there is one, and from its arguments. Here the rules by which the
two go together are stated value by value (`InEffect`), without the layers by which the configuration is made,
and the two are shown to be the same. The configuration is missing only if the file holds no layer or if the
date format is not accepted.
-/
import Overdue.Proofs.Config.Layers
import Overdue.Run

set_option autoImplicit false

namespace Overdue

open Overdue.Calendar Overdue.CommandLine ConfigLayer

/-! ## The file -/

/-- The configuration file of a run: the one that is named, or else the one in the directory of the root if
there is one. -/
inductive ConfigFile (fs : FileSystem) (s : Settings) : Path → Prop where
  | named {text : String} : s.config = some text → ConfigFile fs s ⟨text⟩
  | found : s.config = none →
      fs.isFile ((ConfigSource.directory fs (scanRoot s.path)).join ".stalewatch.yaml") = true →
      ConfigFile fs s ((ConfigSource.directory fs (scanRoot s.path)).join ".stalewatch.yaml")

/-- A file can be read and holds a layer. -/
def HoldsLayer (fs : FileSystem) (path : Path) (layer : ConfigLayer) : Prop :=
  ∃ text, fs.readText path = .ok text ∧ LayerFile.parse text = .ok layer

/-- The layer of the configuration file, if there is such a file. -/
inductive FileLayer (fs : FileSystem) (s : Settings) : Option ConfigLayer → Prop where
  | read {path : Path} {layer : ConfigLayer} : ConfigFile fs s path → HoldsLayer fs path layer →
      FileLayer fs s (some layer)
  | none : (∀ path, ¬ ConfigFile fs s path) → FileLayer fs s none

section File

variable {fs : FileSystem} {s : Settings}

/-- A layer is loaded from a file if and only if the file holds it. -/
theorem load_eq_ok_iff {path : Path} {layer : ConfigLayer} :
    LayerFile.load fs path = .ok layer ↔ HoldsLayer fs path layer := by
  rw [LayerFile.load, HoldsLayer]
  cases fs.readText path with
  | error fault => simp
  | ok text =>
    cases hparse : LayerFile.parse text with
    | error e => simp [hparse]
    | ok found => simp [hparse]

/-- There is at most one configuration file, and the layers are read from it. -/
theorem configFile_cases (fs : FileSystem) (s : Settings) :
    (∃ file, (∀ path, ConfigFile fs s path ↔ path = file) ∧
      (ConfigSource.of fs s).layers fs = (LayerFile.load fs file).map ([·])) ∨
    ((∀ path, ¬ ConfigFile fs s path) ∧ (ConfigSource.of fs s).layers fs = .ok []) := by
  unfold ConfigSource.of
  split
  · rename_i text hconfig
    refine .inl ⟨⟨text⟩, fun path => ⟨?_, ?_⟩, rfl⟩
    -- a file that is named is the only one
    · rintro (h | ⟨h, -⟩)
      · cases hconfig.symm.trans h
        rfl
      · cases hconfig.symm.trans h
    · rintro rfl
      exact .named hconfig
  · rename_i hconfig
    rw [LayerFile.find?, show LayerFile.fileName = ".stalewatch.yaml" from rfl]
    generalize hpath : (ConfigSource.directory fs (scanRoot s.path)).join ".stalewatch.yaml" = file
    by_cases hfile : fs.isFile file = true
    · rw [if_pos hfile]
      refine .inl ⟨file, fun path => ⟨?_, ?_⟩, rfl⟩
      -- a file that is found counts only if none is named
      · rintro (h | -)
        · cases hconfig.symm.trans h
        · exact hpath
      · rintro rfl
        rw [← hpath] at hfile ⊢
        exact .found hconfig hfile
    · rw [if_neg hfile]
      refine .inr ⟨?_, rfl⟩
      rintro path (h | ⟨-, h⟩)
      · cases hconfig.symm.trans h
      · rw [hpath] at h
        exact hfile h

/-- The layers of a run with a file are that of the file, if there is one. -/
theorem layers_of_fileLayer {layer : Option ConfigLayer} (h : FileLayer fs s layer) :
    (ConfigSource.of fs s).layers fs = .ok layer.toList := by
  rcases configFile_cases fs s with ⟨file, hfile, hlayers⟩ | ⟨hnone, hlayers⟩
  · cases h with
    | read hpath hlayer =>
      cases (hfile _).mp hpath
      rw [hlayers, load_eq_ok_iff.mpr hlayer]
      rfl
    | none hnone => exact absurd ((hfile file).mpr rfl) (hnone file)
  · cases h with
    | read hpath _ => exact absurd hpath (hnone _)
    | none _ => exact hlayers

/-- The layer of the file is there, or the file holds none and the layers cannot be read. -/
theorem fileLayer_cases (fs : FileSystem) (s : Settings) :
    (∃ layer, FileLayer fs s layer) ∨
    ∃ path, ConfigFile fs s path ∧ ∀ layer, ¬ HoldsLayer fs path layer := by
  rcases configFile_cases fs s with ⟨file, hfile, -⟩ | ⟨hnone, -⟩
  · by_cases hlayer : ∃ layer, HoldsLayer fs file layer
    · obtain ⟨layer, hlayer⟩ := hlayer
      exact .inl ⟨some layer, .read ((hfile file).mpr rfl) hlayer⟩
    · exact .inr ⟨file, (hfile file).mpr rfl, not_exists.mp hlayer⟩
  · exact .inl ⟨none, .none hnone⟩

/-- Where the configuration file holds no layer the run has none. -/
theorem layers_eq_error {path : Path} (hpath : ConfigFile fs s path)
    (hlayer : ∀ layer, ¬ HoldsLayer fs path layer) : ∃ e, (ConfigSource.of fs s).layers fs = .error e := by
  rcases configFile_cases fs s with ⟨file, hfile, hlayers⟩ | ⟨hnone, -⟩
  · cases (hfile _).mp hpath
    cases hload : LayerFile.load fs path with
    | error e => exact ⟨e, by rw [hlayers, hload]; rfl⟩
    | ok layer => exact absurd (load_eq_ok_iff.mp hload) (hlayer layer)
  · exact absurd hpath (hnone path)

end File

/-! ## The values -/

/-- The date format in effect, where the arguments go before the file. -/
def formatInEffect (s : Settings) (layer : Option ConfigLayer) : Option String :=
  s.dateFormat.or (layer.bind ConfigLayer.dateFormat)

/-- The date pattern in effect. -/
inductive PatternInEffect (s : Settings) (layer : Option ConfigLayer) : DatePattern → Prop where
  | given {format : String} {p : DatePattern} : formatInEffect s layer = some format →
      DatePattern.ofText format = .ok p → PatternInEffect s layer p
  | standard : formatInEffect s layer = none → PatternInEffect s layer .standard

/-- The configuration in effect: the arguments go before the file, except that excludes add up and that
failing cannot be turned off. -/
structure InEffect (s : Settings) (layer : Option ConfigLayer) (c : Config) : Prop where
  pattern : PatternInEffect s layer c.datePattern
  expiryDays : c.defaultExpiryDays =
    (s.defaultExpiryDays.or (layer.bind ConfigLayer.defaultExpiryDays)).getD 90
  excludes : c.excludes =
    (layer.bind ConfigLayer.exclude).getD [] ++ (s.exclude.map parseExcludes).getD []
  failOnExpired : c.failOnExpired =
    (s.failOnExpired || (layer.bind ConfigLayer.failOnExpired).getD false)

section Values

variable {fs : FileSystem} {s : Settings}

/-- A single value that the file and the arguments set together. -/
theorem lastSet_settings {α : Type} (get : ConfigLayer → Option α) (layer : Option ConfigLayer) (s : Settings) :
    lastSet get (layer.toList ++ [s.layer]) = (get s.layer).or (layer.bind get) := by
  rw [lastSet_append, lastSet_singleton, lastSet_toList]

theorem lastSet_dateFormat (layer : Option ConfigLayer) (s : Settings) :
    lastSet ConfigLayer.dateFormat (layer.toList ++ [s.layer]) = formatInEffect s layer :=
  lastSet_settings ConfigLayer.dateFormat layer s

/-- The layers set the pattern that is in effect. -/
theorem patternSetBy_iff {layer : Option ConfigLayer} {p : DatePattern} :
    PatternSetBy (layer.toList ++ [s.layer]) p ↔ PatternInEffect s layer p := by
  constructor
  · rintro (⟨hlast, haccepted⟩ | hnone)
    · exact .given ((lastSet_dateFormat layer s).symm.trans hlast) haccepted
    · exact .standard ((lastSet_dateFormat layer s).symm.trans hnone)
  · rintro (⟨hformat, haccepted⟩ | hnone)
    · exact .given ((lastSet_dateFormat layer s).trans hformat) haccepted
    · exact .standard ((lastSet_dateFormat layer s).trans hnone)

/-- What the file and the arguments set together is the configuration in effect. -/
theorem setBy_iff_inEffect {layer : Option ConfigLayer} {c : Config} :
    SetBy (layer.toList ++ [s.layer]) c ↔ InEffect s layer c := by
  have hexcludes : (layer.toList ++ [s.layer]).flatMap (fun l => l.exclude.getD []) =
      (layer.bind ConfigLayer.exclude).getD [] ++ (s.exclude.map parseExcludes).getD [] := by
    cases layer <;> simp [Settings.layer]
  have hfail : (lastSet ConfigLayer.failOnExpired (layer.toList ++ [s.layer])).getD false =
      (s.failOnExpired || (layer.bind ConfigLayer.failOnExpired).getD false) := by
    rw [lastSet_settings]
    cases hswitch : s.failOnExpired <;> simp [Settings.layer, hswitch]
  constructor
  · rintro ⟨hpattern, hdays, hlists, hfails⟩
    rw [lastSet_settings] at hdays
    exact ⟨patternSetBy_iff.mp hpattern, hdays, hlists.trans hexcludes, hfails.trans hfail⟩
  · rintro ⟨hpattern, hdays, hlists, hfails⟩
    refine ⟨patternSetBy_iff.mpr hpattern, ?_, hlists.trans hexcludes.symm, hfails.trans hfail.symm⟩
    rw [lastSet_settings]
    exact hdays

/-- The configuration in effect is what the layers set together. -/
theorem ofLayers_of_inEffect {layer : Option ConfigLayer} {c : Config} (h : InEffect s layer c) :
    Config.ofLayers (layer.toList ++ [s.layer]) = .ok c :=
  ofLayers_eq_ok_iff.mpr (setBy_iff_inEffect.mpr h)

/-- A pattern is in effect, or a format that is not accepted. -/
theorem patternInEffect_cases (s : Settings) (layer : Option ConfigLayer) :
    (∃ p, PatternInEffect s layer p) ∨
    ∃ format e, formatInEffect s layer = some format ∧ DatePattern.ofText format = .error e := by
  rcases patternSetBy_cases (layer.toList ++ [s.layer]) with ⟨p, hp⟩ | ⟨format, e, hlast, hrejected⟩
  · exact .inl ⟨p, patternSetBy_iff.mp hp⟩
  · exact .inr ⟨format, e, (lastSet_dateFormat layer s).symm.trans hlast, hrejected⟩

/-- Where a pattern is in effect there is a configuration in effect. -/
theorem exists_inEffect {layer : Option ConfigLayer} {p : DatePattern} (h : PatternInEffect s layer p) :
    ∃ c, InEffect s layer c ∧ c.datePattern = p :=
  ⟨⟨p, _, _, _⟩, ⟨h, rfl, rfl, rfl⟩, rfl⟩

/-- The configuration of a run is made of the layer of the file and that of the arguments. -/
theorem configFor_of_fileLayer {layer : Option ConfigLayer} (h : FileLayer fs s layer) :
    configFor fs s = (Config.ofLayers (layer.toList ++ [s.layer])).mapError RunError.ofPattern := by
  rw [configFor, layers_of_fileLayer h]
  rfl

/-- The configuration of a run is the one in effect. -/
theorem configFor_of_inEffect {layer : Option ConfigLayer} {c : Config}
    (hlayer : FileLayer fs s layer) (hconfig : InEffect s layer c) : configFor fs s = .ok c := by
  rw [configFor_of_fileLayer hlayer, ofLayers_of_inEffect hconfig]
  rfl

/-- A format that is not accepted ends the run. -/
theorem configFor_eq_error {layer : Option ConfigLayer} {format : String} {e : PatternError}
    (hlayer : FileLayer fs s layer) (hformat : formatInEffect s layer = some format)
    (hrejected : DatePattern.ofText format = .error e) : configFor fs s = .error (.ofPattern e) := by
  have hlast := (lastSet_dateFormat layer s).trans hformat
  rw [configFor_of_fileLayer hlayer, ofLayers_of_rejected hlast hrejected]
  rfl

end Values

end Overdue
