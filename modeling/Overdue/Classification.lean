/-
Staleness of remarks.

A remark is pending before its warn date. From then on it is stale up to and including its expire
date, and expired after it. An expire date before the warn date is accepted: such a remark goes from
pending to expired at once. Pending remarks are not reported.
-/
import Overdue.Remark

set_option autoImplicit false

namespace Overdue

open Overdue.Calendar

/-- What a remark is at a reference date. -/
inductive Status where
  | pending
  | stale
  | expired
deriving DecidableEq, Inhabited, Repr

namespace Status

/-- The status in capital letters. -/
def label : Status → String
  | pending => "PENDING"
  | stale => "STALE"
  | expired => "EXPIRED"

/-- Whether remarks with this status are reported. -/
def isReported (s : Status) : Bool := s != pending

/-- The status of a remark at a reference date. -/
def of (a : Remark) (reference : Date) : Status :=
  if reference < a.warnDate then pending
  else if a.expireDate < reference then expired
  else stale

end Status

/-- A reported remark, with its dates as they are written in reports. -/
structure Finding where
  status : Status
  file : Path
  line : Nat
  declaration : String
  kind : MarkerKind
  tag : Option String
  staleDate : String
  expires : String
  message : String
deriving DecidableEq, Repr

/-- The finding for a remark with a given status. -/
def Finding.of (status : Status) (a : Remark) : Finding where
  status := status
  file := a.file
  line := a.line
  declaration := a.declaration
  kind := a.kind
  tag := a.tag
  staleDate := a.warnDate.canonical
  expires := a.expireDate.canonical
  message := a.message

/-- The statuses of a list of remarks, in their order. -/
structure Classification where
  statuses : List Status
  anyExpired : Bool
deriving DecidableEq, Repr

namespace Classification

/-- The classification of remarks at a reference date. -/
def of (remarks : List Remark) (reference : Date) : Classification :=
  let statuses := remarks.map (Status.of · reference)
  ⟨statuses, statuses.contains .expired⟩

/-- The findings for the reported ones of the remarks that were classified, in their order. -/
def findings (c : Classification) (remarks : List Remark) : List Finding :=
  ((remarks.zip c.statuses).filter fun (_, s) => s.isReported).map fun (a, s) => Finding.of s a

/-- The number of remarks with a status. -/
def count (c : Classification) (s : Status) : Nat := (c.statuses.filter (· == s)).length

end Classification

end Overdue
