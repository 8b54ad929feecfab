/-
Which layer counts.

For any number of layers, merging lets the last layer count that sets a value, and adds up excludes
(`Config.ofLayers`). A run has two layers at most: that of the configuration file, if there is one, and that of its
arguments on top of it. So a value comes from the arguments, else from the file, else it is the default one; failing
can be turned on by either; and the excludes of the arguments come behind those of the file.
-/
import Overdue.Proofs.Run.Configuration

set_option autoImplicit false

namespace Overdue

open Overdue.CommandLine ConfigLayer

/-- A run has a configuration if and only if its file, if it has one, holds a layer, and then it is the one in
effect. -/
theorem configFor_eq_ok_iff {fs : FileSystem} {s : Settings} {c : Config} :
    configFor fs s = .ok c ↔ ∃ layer, FileLayer fs s layer ∧ InEffect s layer c := by
  constructor
  · intro h
    rcases fileLayer_cases fs s with ⟨layer, hlayer⟩ | ⟨path, hpath, hnone⟩
    · refine ⟨layer, hlayer, setBy_iff_inEffect.mp (ofLayers_eq_ok_iff.mp ?_)⟩
      rw [configFor_of_fileLayer hlayer] at h
      cases hlayers : Config.ofLayers (layer.toList ++ [s.layer]) with
      | error e =>
        rw [hlayers] at h
        cases h
      | ok c' =>
        rw [hlayers] at h
        cases h
        rfl
    · obtain ⟨e, he⟩ := layers_eq_error hpath hnone
      rw [configFor, he] at h
      cases h
  · rintro ⟨layer, hlayer, hconfig⟩
    exact configFor_of_inEffect hlayer hconfig

/-- There is no configuration exactly if the last format is not accepted, and the message is that of its fault. -/
theorem mapError_ofLayers_eq_error_iff {layers : List ConfigLayer} {e : RunError} :
    (Config.ofLayers layers).mapError RunError.ofPattern = .error e ↔
      ∃ format fault, lastSet dateFormat layers = some format ∧ DatePattern.ofText format = .error fault ∧
        e = .config fault.message := by
  constructor
  · intro h
    cases hlayers : Config.ofLayers layers with
    | ok c =>
      rw [hlayers] at h
      cases h
    | error fault =>
      rw [hlayers] at h
      cases h
      obtain ⟨format, hlast, hrejected⟩ := ofLayers_eq_error_iff.mp hlayers
      exact ⟨format, fault, hlast, hrejected, rfl⟩
  · rintro ⟨format, fault, hlast, hrejected, rfl⟩
    rw [ofLayers_of_rejected hlast hrejected]
    rfl

/-- Whether layers make a configuration is up to the last format that is set, whatever the layers below it say. -/
theorem exists_ofLayers_iff {lower higher : List ConfigLayer} {layer : ConfigLayer} {format : String}
    (hformat : layer.dateFormat = some format) (hunset : ∀ l ∈ higher, l.dateFormat = none) :
    (∃ c, Config.ofLayers (lower ++ layer :: higher) = .ok c) ↔ ∃ p, DatePattern.ofText format = .ok p := by
  have hlast : lastSet dateFormat (lower ++ layer :: higher) = some format := by
    rw [lastSet_append, lastSet_cons, lastSet_eq_none hunset, hformat]
    rfl
  constructor
  · rintro ⟨c, hc⟩
    cases hpattern : DatePattern.ofText format with
    | ok p => exact ⟨p, rfl⟩
    | error e =>
      rw [ofLayers_of_rejected hlast hpattern] at hc
      cases hc
  · rintro ⟨p, hp⟩
    exact ⟨_, ofLayers_of_accepted (.given hlast hp)⟩

/-- Merging layers is associative, with the layer that sets nothing on either side of it doing nothing. Any number of
layers make the configuration that they set, value by value, or else the last date format is not accepted; formats
below it do not matter. The configuration of a run is made of its arguments, else its file, else the defaults. -/
theorem configuration_by_priority :
    (∀ a b c : ConfigLayer, (a.merge b).merge c = a.merge (b.merge c)) ∧
    (∀ a : ConfigLayer, ConfigLayer.merge {} a = a ∧ a.merge {} = a) ∧
    (∀ layers c, Config.ofLayers layers = .ok c ↔ SetBy layers c) ∧
    (∀ layers e, (Config.ofLayers layers).mapError RunError.ofPattern = .error e ↔
      ∃ format fault, lastSet dateFormat layers = some format ∧ DatePattern.ofText format = .error fault ∧
        e = .config fault.message) ∧
    (∀ lower layer higher format, layer.dateFormat = some format → (∀ l ∈ higher, l.dateFormat = none) →
      ((∃ c, Config.ofLayers (lower ++ layer :: higher) = .ok c) ↔ ∃ p, DatePattern.ofText format = .ok p)) ∧
    ∀ fs s c, configFor fs s = .ok c ↔ ∃ layer, FileLayer fs s layer ∧ InEffect s layer c := by
  refine ⟨merge_assoc, fun a => ⟨unset_merge a, merge_unset a⟩, fun _ _ => ofLayers_eq_ok_iff,
    fun _ _ => mapError_ofLayers_eq_error_iff, fun _ _ _ _ hformat hunset => exists_ofLayers_iff hformat hunset,
    fun _ _ _ => configFor_eq_ok_iff⟩

namespace Overridden

/-- A layer with a format that is not accepted, and one on top of it. -/
def lower : ConfigLayer := { dateFormat := some "no fields", failOnExpired := some true }

def layer : ConfigLayer := { dateFormat := some "%Y-%m-%d", defaultExpiryDays := some 7 }

end Overridden

/-- A format without fields is no error below one that is accepted, also if a layer without a format is on top. -/
theorem configuration_by_priority_overridden :
    (∃ e, DatePattern.ofText "no fields" = .error e) ∧ (∃ p, DatePattern.ofText "%Y-%m-%d" = .ok p) ∧
    ∃ c, Config.ofLayers [Overridden.lower, Overridden.layer, {}] = .ok c := by
  have hrejected : ∃ e, DatePattern.ofText "no fields" = .error e := ⟨⟨"no fields", .noFields⟩, rfl⟩
  have haccepted : ∃ p, DatePattern.ofText "%Y-%m-%d" = .ok p := ⟨_, rfl⟩
  obtain ⟨-, -, -, -, hoverridden, -⟩ := configuration_by_priority
  have hlayers := hoverridden [Overridden.lower] Overridden.layer [{}] "%Y-%m-%d" rfl (by simp)
  exact ⟨hrejected, haccepted, hlayers.mpr haccepted⟩

end Overdue
