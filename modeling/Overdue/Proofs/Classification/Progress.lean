/-
Remarks only move forward as time goes on.

A remark that is pending becomes stale or expired, one that is stale becomes expired, and none goes back. This
holds whatever the two dates of a remark are: where the expire date comes first, a remark goes from pending
to expired at once, because the warn date is compared before the expire date. So along any list of remarks
the statuses at a later reference date are no lower, and what is reported stays reported.
-/
import Overdue.Proofs.Classification.Views

set_option autoImplicit false

namespace Overdue

open Overdue.Calendar

namespace Status

/-! ## The order of statuses -/

/-- How far a status has come: pending is followed by stale, and that by expired. -/
def stage : Status → Nat
  | pending => 0
  | stale => 1
  | expired => 2

instance : LE Status := ⟨fun s t => s.stage ≤ t.stage⟩

instance (s t : Status) : Decidable (s ≤ t) := inferInstanceAs (Decidable (s.stage ≤ t.stage))

theorem le_pending_iff {s : Status} : s ≤ pending ↔ s = pending := by
  cases s <;> decide

theorem expired_le_iff {s : Status} : expired ≤ s ↔ s = expired := by
  cases s <;> decide

/-- What is reported is reported of every later status. -/
theorem isReported_of_le {s t : Status} (h : s ≤ t) (hs : s.isReported = true) : t.isReported = true := by
  rw [isReported_iff] at hs ⊢
  rintro rfl
  exact hs (le_pending_iff.mp h)

/-! ## One remark -/

variable {earlier later : Date}

/-- At a later reference date the status of a remark is no lower. -/
theorem of_le_of (h : earlier ≤ later) (a : Remark) : of a earlier ≤ of a later := by
  rw [Date.le_iff_dayNumber_le] at h
  cases hstatus : of a later with
  | pending =>
    -- the warn date is not reached later, so it was not reached before
    rw [of_eq_pending_iff, Date.lt_iff_dayNumber_lt] at hstatus
    rw [le_pending_iff, of_eq_pending_iff, Date.lt_iff_dayNumber_lt]
    omega
  | stale =>
    rw [of_eq_stale_iff, Date.lt_iff_dayNumber_lt, Date.lt_iff_dayNumber_lt] at hstatus
    have hexpired : of a earlier ≠ expired := by
      rw [Ne, of_eq_expired_iff, Date.lt_iff_dayNumber_lt, Date.lt_iff_dayNumber_lt]
      omega
    revert hexpired
    cases of a earlier <;> decide
  | expired => cases of a earlier <;> decide

/-- A remark whose expire date comes before its warn date is never stale. -/
theorem of_ne_stale {a : Remark} (h : a.expireDate < a.warnDate) (reference : Date) :
    of a reference ≠ stale := by
  rw [Date.lt_iff_dayNumber_lt] at h
  rw [Ne, of_eq_stale_iff, Date.lt_iff_dayNumber_lt, Date.lt_iff_dayNumber_lt]
  omega

end Status

namespace Classification

/-! ## Lists of remarks -/

variable {earlier later : Date}

/-- Remark by remark, statuses only go on. -/
theorem forall₂_statuses (h : earlier ≤ later) (remarks : List Remark) :
    List.Forall₂ (· ≤ ·) (of remarks earlier).statuses (of remarks later).statuses := by
  rw [of, of, List.forall₂_map_left_iff, List.forall₂_map_right_iff]
  exact List.forall₂_same.mpr fun a _ => Status.of_le_of h a

/-- What is reported stays reported. -/
theorem reportedAt_sublist (h : earlier ≤ later) (remarks : List Remark) :
    (reportedAt remarks earlier).Sublist (reportedAt remarks later) :=
  List.monotone_filter_right remarks fun a => Status.isReported_of_le (Status.of_le_of h a)

/-- A remark that has expired stays so. -/
theorem expired_of_expired (h : earlier ≤ later) {a : Remark} (ha : Status.of a earlier = .expired) :
    Status.of a later = .expired := by
  have hle := Status.of_le_of h a
  rw [ha] at hle
  exact Status.expired_le_iff.mp hle

/-- A classification at a later reference date is further on. Each status is no lower; the remarks that the
findings tell of are a part of the later ones, in the same order; what is expired stays expired, and so does
the flag. A remark whose expire date comes before its warn date is stale at no reference date. -/
theorem progress {earlier later : Date} (h : earlier ≤ later) (remarks : List Remark) :
    List.Forall₂ (· ≤ ·) (of remarks earlier).statuses (of remarks later).statuses ∧
    (∃ told toldLater : List Remark, told.Sublist toldLater ∧ toldLater.Sublist remarks ∧
      List.Forall₂ (Finding.Tells earlier) told ((of remarks earlier).findings remarks) ∧
      List.Forall₂ (Finding.Tells later) toldLater ((of remarks later).findings remarks)) ∧
    (∀ a ∈ remarks, Status.of a earlier = .expired → Status.of a later = .expired) ∧
    ((of remarks earlier).anyExpired = true → (of remarks later).anyExpired = true) ∧
    ∀ a ∈ remarks, a.expireDate < a.warnDate → ∀ reference, Status.of a reference ≠ .stale := by
  refine ⟨forall₂_statuses h remarks, ?_, fun a _ => expired_of_expired h, ?_, ?_⟩
  · refine ⟨reportedAt remarks earlier, reportedAt remarks later, reportedAt_sublist h remarks,
      List.filter_sublist, forall₂_tells_findings remarks earlier, forall₂_tells_findings remarks later⟩
  · rw [anyExpired_of_iff, anyExpired_of_iff]
    rintro ⟨a, ha, hexpired⟩
    exact ⟨a, ha, expired_of_expired h hexpired⟩
  · intro a _ hinverted reference
    exact Status.of_ne_stale hinverted reference

/-- Between two days, a remark that is stale becomes expired, and one whose dates are the wrong way round
becomes expired from pending. -/
theorem progress_inverted :
    let early : Date := ⟨2019, 12, 31, by decide⟩
    let late : Date := ⟨2020, 1, 1, by decide⟩
    let due : Remark := ⟨⟨"a.go"⟩, 1, "run", .todo, none, ⟨2019, 1, 1, by decide⟩, early, ""⟩
    let inverted : Remark := { due with warnDate := late }
    early ≤ late ∧
    (of [due, inverted] early).statuses = [.stale, .pending] ∧
    (of [due, inverted] late).statuses = [.expired, .expired] ∧
    List.Forall₂ (· ≤ ·) (of [due, inverted] early).statuses (of [due, inverted] late).statuses ∧
    inverted.expireDate < inverted.warnDate ∧ Status.of inverted early ≠ .stale := by
  intro early late due inverted
  have hle : early ≤ late := by decide
  have hdates : inverted.expireDate < inverted.warnDate := by decide
  obtain ⟨hforward, -, -, -, hnever⟩ := progress hle [due, inverted]
  exact ⟨hle, by decide, by decide, hforward, hdates,
    hnever inverted (List.mem_cons_of_mem due List.mem_cons_self) hdates early⟩

end Classification

end Overdue
