/-
Configuration in layers.

A layer sets some of the values of a configuration. A layer of higher priority overrides the values that
it sets, except that lists of excludes add up. The configuration of a run is what all its layers set
together, with defaults for the rest; only then is the date format checked.
-/
import Overdue.DatePattern
import Overdue.Text.Space
import Overdue.Text.Split

set_option autoImplicit false

namespace Overdue

open Overdue.Text

/-- Values for a configuration, each of which may be unset. -/
structure ConfigLayer where
  dateFormat : Option String := none
  defaultExpiryDays : Option Nat := none
  exclude : Option (List String) := none
  failOnExpired : Option Bool := none
deriving DecidableEq, Inhabited, Repr

/-- The configuration of a run. -/
structure Config where
  datePattern : DatePattern := .standard
  defaultExpiryDays : Nat := 90
  excludes : List String := []
  failOnExpired : Bool := false
deriving DecidableEq, Inhabited, Repr

namespace ConfigLayer

/-- Two lists of excludes, of which either may be unset. -/
def mergeExcludes : Option (List String) → Option (List String) → Option (List String)
  | some low, some high => some (low ++ high)
  | low, none => low
  | none, high => high

/-- A layer with one of higher priority on top of it. -/
def merge (low high : ConfigLayer) : ConfigLayer where
  dateFormat := high.dateFormat.or low.dateFormat
  defaultExpiryDays := high.defaultExpiryDays.or low.defaultExpiryDays
  exclude := mergeExcludes low.exclude high.exclude
  failOnExpired := high.failOnExpired.or low.failOnExpired

/-- The layers of a list on top of each other, the lowest priority first. -/
def mergeAll (layers : List ConfigLayer) : ConfigLayer := layers.foldl merge {}

end ConfigLayer

namespace Config

/-- The configuration that a layer sets. -/
def ofLayer (layer : ConfigLayer) : Except PatternError Config := do
  let defaults : Config := {}
  let pattern ←
    match layer.dateFormat with
    | some format => DatePattern.ofText format
    | none => pure defaults.datePattern
  return {
    datePattern := pattern
    defaultExpiryDays := layer.defaultExpiryDays.getD defaults.defaultExpiryDays
    excludes := layer.exclude.getD defaults.excludes
    failOnExpired := layer.failOnExpired.getD defaults.failOnExpired }

/-- The configuration that layers set together, the lowest priority first. -/
def ofLayers (layers : List ConfigLayer) : Except PatternError Config :=
  ofLayer (ConfigLayer.mergeAll layers)

end Config

/-- The entries of a list of excludes that is separated by commas, without blank ones. -/
def parseExcludes (raw : String) : List String :=
  (((splitOn ',' raw.toList).map trim).filter (· != [])).map String.ofList

end Overdue
