/-
Layers on top of each other.

Layers are merged from the lowest priority on, and the configuration is made of the result. Merging is associative,
so it does not matter which layers are merged first. What comes out is said here value by value, for any number of
layers (`SetBy`): a single value is that of the last layer that sets it (`lastSet`), and excludes are those of all
layers, one after the other. Only the last date format that is set can be at fault, so one in a layer below is not
even looked at.
-/
import Overdue.Config.Layer

set_option autoImplicit false

namespace Overdue

namespace ConfigLayer

/-! ## Merging -/

/-- Excludes are put one behind the other, whichever are put together first. -/
theorem mergeExcludes_assoc (a b c : Option (List String)) :
    mergeExcludes (mergeExcludes a b) c = mergeExcludes a (mergeExcludes b c) := by
  cases a <;> cases b <;> cases c <;> simp [mergeExcludes]

/-- Put together, two lists of excludes have the entries of both, with none for a list that is not set. -/
theorem getD_mergeExcludes (low high : Option (List String)) :
    (mergeExcludes low high).getD [] = low.getD [] ++ high.getD [] := by
  cases low <;> cases high <;> simp [mergeExcludes]

/-- Layers may be merged in any grouping. -/
theorem merge_assoc (a b c : ConfigLayer) : (a.merge b).merge c = a.merge (b.merge c) := by
  simp only [merge, mergeExcludes_assoc, Option.or_assoc]

/-- A layer over one with nothing set is itself. -/
theorem unset_merge (a : ConfigLayer) : merge {} a = a := by
  have hexclude : mergeExcludes none a.exclude = a.exclude := by cases a.exclude <;> rfl
  simp only [merge, hexclude, Option.or_none]

theorem merge_unset (a : ConfigLayer) : a.merge {} = a := by
  have hexclude : mergeExcludes a.exclude none = a.exclude := by cases a.exclude <;> rfl
  simp only [merge, hexclude, Option.none_or]

/-! ## Single values -/

/-- The value that the last of the layers sets, of those that set one. -/
def lastSet {α : Type} (get : ConfigLayer → Option α) (layers : List ConfigLayer) : Option α :=
  (layers.filterMap get).getLast?

section LastSet

variable {α : Type} {get : ConfigLayer → Option α}

/-- Of two stacks of layers the higher one decides, if it sets the value at all. -/
theorem lastSet_append (lower higher : List ConfigLayer) :
    lastSet get (lower ++ higher) = (lastSet get higher).or (lastSet get lower) := by
  rw [lastSet, List.filterMap_append, List.getLast?_append, lastSet, lastSet]

theorem lastSet_singleton (layer : ConfigLayer) : lastSet get [layer] = get layer := by
  cases hget : get layer <;> simp [lastSet, hget]

/-- The lowest layer decides only where no higher one does. -/
theorem lastSet_cons (layer : ConfigLayer) (higher : List ConfigLayer) :
    lastSet get (layer :: higher) = (lastSet get higher).or (get layer) := by
  rw [← List.singleton_append, lastSet_append, lastSet_singleton]

theorem lastSet_eq_none {layers : List ConfigLayer} (h : ∀ layer ∈ layers, get layer = none) :
    lastSet get layers = none := by
  rw [lastSet, List.filterMap_eq_nil_iff.mpr h]
  rfl

/-- A layer that may be missing decides if it is there. -/
theorem lastSet_toList (layer : Option ConfigLayer) : lastSet get layer.toList = layer.bind get := by
  cases layer with
  | none => rfl
  | some layer => exact lastSet_singleton layer

/-- A value that is merged by letting the higher layer go first is that of the last layer which sets it. -/
theorem get_foldl_merge (hget : ∀ low high : ConfigLayer, get (low.merge high) = (get high).or (get low))
    (layers : List ConfigLayer) (lowest : ConfigLayer) :
    get (layers.foldl merge lowest) = (lastSet get layers).or (get lowest) := by
  induction layers generalizing lowest with
  | nil => rfl
  | cons layer layers ih => rw [List.foldl_cons, ih, hget, lastSet_cons, Option.or_assoc]

/-- A value of which the higher layer wins is the last one that is set, through all layers. -/
theorem get_mergeAll (get : ConfigLayer → Option α)
    (hget : ∀ low high : ConfigLayer, get (low.merge high) = (get high).or (get low)) (hunset : get {} = none)
    (layers : List ConfigLayer) : get (mergeAll layers) = lastSet get layers := by
  rw [mergeAll, get_foldl_merge hget, hunset, Option.or_none]

end LastSet

/-! ## Excludes -/

/-- Excludes add up, from the lowest layer on. -/
theorem exclude_foldl_merge (layers : List ConfigLayer) (lowest : ConfigLayer) :
    (layers.foldl merge lowest).exclude.getD [] =
      lowest.exclude.getD [] ++ layers.flatMap fun layer => layer.exclude.getD [] := by
  induction layers generalizing lowest with
  | nil => simp
  | cons layer layers ih =>
    have hmerged : (lowest.merge layer).exclude.getD [] = lowest.exclude.getD [] ++ layer.exclude.getD [] :=
      getD_mergeExcludes lowest.exclude layer.exclude
    rw [List.foldl_cons, ih, hmerged, List.flatMap_cons, List.append_assoc]

/-- Excludes are those of all layers, in the order of the layers. -/
theorem exclude_mergeAll (layers : List ConfigLayer) :
    (mergeAll layers).exclude.getD [] = layers.flatMap fun layer => layer.exclude.getD [] := by
  rw [mergeAll, exclude_foldl_merge]
  rfl

end ConfigLayer

/-! ## Configurations -/

open ConfigLayer

/-- The date pattern that layers set: the last format, if it is accepted, or the default one if there is none. -/
inductive PatternSetBy (layers : List ConfigLayer) : DatePattern → Prop where
  | given {format : String} {p : DatePattern} (hlast : lastSet dateFormat layers = some format)
      (haccepted : DatePattern.ofText format = .ok p) : PatternSetBy layers p
  | standard (hnone : lastSet dateFormat layers = none) : PatternSetBy layers .standard

/-- The configuration that layers set together, value by value. -/
structure SetBy (layers : List ConfigLayer) (c : Config) : Prop where
  pattern : PatternSetBy layers c.datePattern
  expiryDays : c.defaultExpiryDays = (lastSet defaultExpiryDays layers).getD 90
  excludes : c.excludes = layers.flatMap fun layer => layer.exclude.getD []
  failOnExpired : c.failOnExpired = (lastSet failOnExpired layers).getD false

section Configurations

variable {layers : List ConfigLayer} {c : Config}

/-- With a format that is accepted a configuration is made, each value of it the last one that is set. -/
theorem ofLayers_of_accepted {p : DatePattern} (h : PatternSetBy layers p) :
    Config.ofLayers layers = .ok
      { datePattern := p
        defaultExpiryDays := (lastSet defaultExpiryDays layers).getD 90
        excludes := layers.flatMap fun layer => layer.exclude.getD []
        failOnExpired := (lastSet failOnExpired layers).getD false } := by
  rw [Config.ofLayers, Config.ofLayer, get_mergeAll dateFormat (fun _ _ => rfl) rfl,
    get_mergeAll defaultExpiryDays (fun _ _ => rfl) rfl, get_mergeAll failOnExpired (fun _ _ => rfl) rfl]
  dsimp only
  rw [exclude_mergeAll]
  cases h with
  | given hlast haccepted =>
    rw [hlast]
    dsimp only
    rw [haccepted]
    rfl
  | standard hnone =>
    rw [hnone]
    rfl

/-- With a last format that is not accepted there is no configuration. -/
theorem ofLayers_of_rejected {format : String} {e : PatternError} (hlast : lastSet dateFormat layers = some format)
    (hrejected : DatePattern.ofText format = .error e) : Config.ofLayers layers = .error e := by
  rw [Config.ofLayers, Config.ofLayer, get_mergeAll dateFormat (fun _ _ => rfl) rfl, hlast]
  dsimp only
  rw [hrejected]
  rfl

/-- Layers set a pattern, or the last format is not accepted. -/
theorem patternSetBy_cases (layers : List ConfigLayer) :
    (∃ p, PatternSetBy layers p) ∨
    ∃ format e, lastSet dateFormat layers = some format ∧ DatePattern.ofText format = .error e := by
  cases hlast : lastSet dateFormat layers with
  | none => exact .inl ⟨.standard, .standard hlast⟩
  | some format =>
    cases hpattern : DatePattern.ofText format with
    | ok p => exact .inl ⟨p, .given hlast hpattern⟩
    | error e => exact .inr ⟨format, e, rfl, hpattern⟩

/-- Layers make a configuration exactly if they set it. -/
theorem ofLayers_eq_ok_iff : Config.ofLayers layers = .ok c ↔ SetBy layers c := by
  constructor
  · intro h
    rcases patternSetBy_cases layers with ⟨p, hp⟩ | ⟨format, e, hlast, hrejected⟩
    · rw [ofLayers_of_accepted hp] at h
      cases h
      exact ⟨hp, rfl, rfl, rfl⟩
    · rw [ofLayers_of_rejected hlast hrejected] at h
      cases h
  · rintro ⟨hpattern, hdays, hexcludes, hfail⟩
    rw [ofLayers_of_accepted hpattern, ← hdays, ← hexcludes, ← hfail]

/-- Layers fail exactly if the last format among them is not accepted. -/
theorem ofLayers_eq_error_iff {e : PatternError} :
    Config.ofLayers layers = .error e ↔
      ∃ format, lastSet dateFormat layers = some format ∧ DatePattern.ofText format = .error e := by
  constructor
  · intro h
    rcases patternSetBy_cases layers with ⟨p, hp⟩ | ⟨format, e', hlast, hrejected⟩
    · rw [ofLayers_of_accepted hp] at h
      cases h
    · rw [ofLayers_of_rejected hlast hrejected] at h
      cases h
      exact ⟨format, hlast, hrejected⟩
  · rintro ⟨format, hlast, hrejected⟩
    exact ofLayers_of_rejected hlast hrejected

end Configurations

end Overdue
