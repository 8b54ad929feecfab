/-
Markers that expire by default.

A marker without an expire date of its own expires a number of days after its warn date. Dates end, so the
sum may lie beyond the last one, and then it is cut off there. This file shows that the cut is never seen:
no reference date lies beyond the last date either, so what is compared with the sum is the distance in days,
as if there were no last date.

Distances are told by an arbitrary count of days (`CountsDays`), not by the numbers that the comparison of
dates uses.
-/
import Overdue.Classification
import Overdue.Proofs.Calendar.DayNumber
import Overdue.Scan

set_option autoImplicit false

namespace Overdue

open Overdue.Calendar

/-! ## Statuses -/

namespace Status

variable {a : Remark} {reference : Date}

/-- A remark waits until its first date. -/
theorem of_eq_pending_iff : of a reference = .pending ↔ reference < a.warnDate := by
  unfold of
  split
  · rename_i h
    exact iff_of_true rfl h
  · rename_i h
    refine iff_of_false ?_ h
    split <;> simp

/-- A remark expires after its second date, but not before its first one. -/
theorem of_eq_expired_iff :
    of a reference = .expired ↔ ¬ reference < a.warnDate ∧ a.expireDate < reference := by
  unfold of
  split
  · rename_i h
    simp [h]
  · rename_i h
    split <;> simp_all

/-- A remark is stale from its first date on, until its second one is over. -/
theorem of_eq_stale_iff :
    of a reference = .stale ↔ ¬ reference < a.warnDate ∧ ¬ a.expireDate < reference := by
  unfold of
  split
  · rename_i h
    simp [h]
  · rename_i h
    split <;> simp_all

end Status

/-! ## Remarks -/

/-- The remark on a comment with a marker, where markers expire after so many days by default. -/
def Source.remarkOn (config : Config) (file : Path) (s : Source) (c : Comment) (m : Marker)
    (days : Nat) : Remark :=
  Remark.ofMarker { config with defaultExpiryDays := days }.markerRules file s.declarations c m

/-- The remark on a comment stands between those on the comments before and after it. -/
theorem Source.remarks_split {rules : MarkerRules} {file : Path} {s : Source}
    {before after : List Comment} {c : Comment} (hc : s.comments = before ++ c :: after) {m : Marker}
    (hm : Marker.parse rules.pattern c.text = .ok (some m)) :
    s.remarks rules file =
      Source.remarks rules file { s with comments := before } ++
        Remark.ofMarker rules file s.declarations c m ::
          Source.remarks rules file { s with comments := after } := by
  have hremark : Remark.ofComment? rules file s.declarations c =
      some (Remark.ofMarker rules file s.declarations c m) := by
    rw [Remark.ofComment?, hm]
  rw [Source.remarks, hc, List.filterMap_append, List.filterMap_cons_some hremark]
  rfl

section Defaulted

variable {config : Config} {file : Path} {s : Source} {c : Comment} {m : Marker} {days : Nat}
  {reference : Date}

/-- A defaulted remark expires so many days after its warn date, or on the last date. -/
theorem dayNumber_expireDate_remarkOn (h : m.expireDate = none) :
    (s.remarkOn config file c m days).expireDate.dayNumber =
      min (m.warnDate.dayNumber + days) Date.last.dayNumber := by
  have hexpiry : (s.remarkOn config file c m days).expireDate = m.warnDate.addDays days := by
    change m.expiry days = _
    rw [Marker.expiry, h, Option.getD_none]
  rw [hexpiry, Date.dayNumber_addDays]

/-- No reference date lies beyond the last date, so the cut makes no difference to what has expired. -/
theorem expireDate_remarkOn_lt_iff (h : m.expireDate = none) :
    (s.remarkOn config file c m days).expireDate < reference ↔
      (days : Int) < reference.dayNumber - m.warnDate.dayNumber := by
  have hlast := reference.dayNumber_le_last
  change (s.remarkOn config file c m days).expireDate.dayNumber < reference.dayNumber ↔ _
  rw [dayNumber_expireDate_remarkOn h]
  omega

/-- A reference comes before the remark is due if it comes before the date that the marker gives. -/
theorem reference_lt_warnDate_iff :
    reference < (s.remarkOn config file c m days).warnDate ↔
      reference.dayNumber < m.warnDate.dayNumber := Iff.rfl

/-- The status of a defaulted remark is told by the distance in days, in any count of them. -/
theorem of_remarkOn_iff {count : Date → Int} (hcount : CountsDays count) (h : m.expireDate = none) :
    (Status.of (s.remarkOn config file c m days) reference = .pending ↔
      count reference < count m.warnDate) ∧
    (Status.of (s.remarkOn config file c m days) reference = .stale ↔
      0 ≤ count reference - count m.warnDate ∧ count reference - count m.warnDate ≤ days) ∧
    (Status.of (s.remarkOn config file c m days) reference = .expired ↔
      count reference - count m.warnDate > days) := by
  have hdistance := hcount.sub_eq m.warnDate reference
  rw [Status.of_eq_pending_iff, Status.of_eq_stale_iff, Status.of_eq_expired_iff,
    expireDate_remarkOn_lt_iff h, reference_lt_warnDate_iff]
  refine ⟨?_, ?_, ?_⟩
  · omega
  · omega
  · omega

end Defaulted

/-- In a source with a marker that has no expire date of its own, the remark on the marker is pending,
stale or expired by the number of days from its warn date to the reference date, in any count of days: before
the warn date, up to the default number of days after it, and later than that. So a larger default never
makes a remark expire. Nothing bounds the default, and the warn date may be any date up to the last one. -/
theorem status_of_defaulted {count : Date → Int} (hcount : CountsDays count) (config : Config)
    (file : Path) (s : Source) {before after : List Comment} {c : Comment}
    (hc : s.comments = before ++ c :: after) {m : Marker}
    (hm : Marker.parse config.datePattern c.text = .ok (some m)) (hdefault : m.expireDate = none) :
    (∀ days : Nat,
      s.remarks { config with defaultExpiryDays := days }.markerRules file =
        Source.remarks { config with defaultExpiryDays := days }.markerRules file
            { s with comments := before } ++
          s.remarkOn config file c m days ::
            Source.remarks { config with defaultExpiryDays := days }.markerRules file
              { s with comments := after }) ∧
    (∀ (days : Nat) (reference : Date),
      (Status.of (s.remarkOn config file c m days) reference = .pending ↔
        count reference < count m.warnDate) ∧
      (Status.of (s.remarkOn config file c m days) reference = .stale ↔
        0 ≤ count reference - count m.warnDate ∧ count reference - count m.warnDate ≤ days) ∧
      (Status.of (s.remarkOn config file c m days) reference = .expired ↔
        count reference - count m.warnDate > days)) ∧
    (∀ (days more : Nat) (reference : Date), days ≤ more →
      Status.of (s.remarkOn config file c m days) reference ≠ .expired →
      Status.of (s.remarkOn config file c m more) reference ≠ .expired) := by
  refine ⟨fun days => Source.remarks_split hc hm, fun days reference => of_remarkOn_iff hcount hdefault, ?_⟩
  -- more days move the bound for expiring further away
  intro days more reference hmore hdays hexpired
  rw [(of_remarkOn_iff hcount hdefault).2.2] at hexpired
  rw [Ne, (of_remarkOn_iff hcount hdefault).2.2] at hdays
  omega

/-- A marker that becomes stale on the last but one date does not expire on the last one, by the largest
default that can be configured; by a default of zero days it does. -/
theorem status_of_defaulted_last :
    let c : Comment := ⟨0, 1, "// TODO: stale:30-12-+262142"⟩
    let s : Source := { declarations := [], comments := [c] }
    let m : Marker := ⟨.todo, none, ⟨262142, 12, 30, by decide⟩, none, ""⟩
    CountsDays Date.dayNumber ∧
    s.comments = [] ++ c :: [] ∧
    Marker.parse .standard c.text = .ok (some m) ∧
    Status.of (s.remarkOn {} ⟨"a.go"⟩ c m 4294967295) Date.last = .stale ∧
    Status.of (s.remarkOn {} ⟨"a.go"⟩ c m 0) Date.last = .expired := by
  intro c s m
  have hc : s.comments = [] ++ c :: [] := rfl
  have hm : Marker.parse .standard c.text = .ok (some m) := by decide
  obtain ⟨-, hstatus, -⟩ := status_of_defaulted countsDays_dayNumber {} ⟨"a.go"⟩ s hc hm rfl
  refine ⟨countsDays_dayNumber, hc, hm, ?_, ?_⟩
  · exact (hstatus 4294967295 Date.last).2.1.mpr (by decide)
  · exact (hstatus 0 Date.last).2.2.mpr (by decide)

end Overdue
