/-
What the views of a classification have to do with each other.

A classification of remarks is looked at in three ways: by the list of findings, by the numbers of remarks
with each status, and by the flag that something is expired. Each of them goes through the statuses anew, and
findings write the dates of their remarks as text. This file shows that they tell the same: the findings are
the reported remarks in their order (`findings_of`), every remark is counted once, and the text of a finding
says all that its status was settled by (`Finding.Tells`).
-/
import Mathlib.Data.List.Forall2
import Overdue.Proofs.Calendar.Standard
import Overdue.Proofs.Classification.DefaultExpiry

set_option autoImplicit false

namespace Overdue

open Overdue.Calendar

/-! ## Statuses -/

/-- A status is reported unless the remark waits. -/
theorem Status.isReported_iff {s : Status} : s.isReported = true ↔ s ≠ .pending := by
  rw [isReported, bne_iff_ne]

/-- The status of a remark is settled by its two dates. -/
theorem Status.of_congr {a b : Remark} (hwarn : a.warnDate = b.warnDate) (hexpire : a.expireDate = b.expireDate)
    (reference : Date) : of a reference = of b reference := by
  rw [of, of, hwarn, hexpire]

/-! ## Counts -/

namespace Classification

variable (remarks : List Remark) (reference : Date)

/-- The remarks that are reported at a reference date. -/
def reportedAt : List Remark := remarks.filter fun a => (Status.of a reference).isReported

theorem length_statuses : (of remarks reference).statuses.length = remarks.length := by
  rw [of, List.length_map]

/-- A status is counted as often as there are remarks with it. -/
theorem count_of (s : Status) :
    (of remarks reference).count s = remarks.countP fun a => Status.of a reference == s := by
  rw [count, of, ← List.countP_eq_length_filter, List.countP_map]
  rfl

theorem count_cons (a : Remark) (s : Status) :
    (of (a :: remarks) reference).count s =
      (of remarks reference).count s + if Status.of a reference = s then 1 else 0 := by
  simp only [count_of, List.countP_cons, beq_iff_eq]

/-- Every remark is counted under exactly one status. -/
theorem count_add_count_add_count :
    (of remarks reference).count .pending + (of remarks reference).count .stale +
      (of remarks reference).count .expired = remarks.length := by
  induction remarks with
  | nil => rfl
  | cons a remarks ih =>
    rw [count_cons, count_cons, count_cons, List.length_cons]
    cases Status.of a reference <;> simp only [reduceCtorEq, if_true, if_false] <;> omega

/-- The reported remarks are those that are stale or expired. -/
theorem length_reportedAt :
    (reportedAt remarks reference).length =
      (of remarks reference).count .stale + (of remarks reference).count .expired := by
  have hall := count_add_count_add_count remarks reference
  have hsplit := List.length_eq_countP_add_countP (fun a => (Status.of a reference).isReported) (l := remarks)
  -- what is not reported is pending
  have hpending : remarks.countP (fun a => ¬ (Status.of a reference).isReported = true) =
      (of remarks reference).count .pending := by
    rw [count_of]
    refine List.countP_congr fun a _ => ?_
    simp [Status.isReported]
  rw [reportedAt, ← List.countP_eq_length_filter]
  omega

/-- Something has expired if and only if one of the remarks has. -/
theorem anyExpired_of_iff :
    (of remarks reference).anyExpired = true ↔ ∃ a ∈ remarks, Status.of a reference = .expired := by
  simp [of]

/-- The count of what has expired is positive if and only if one of the remarks has. -/
theorem count_expired_pos_iff :
    0 < (of remarks reference).count .expired ↔ ∃ a ∈ remarks, Status.of a reference = .expired := by
  rw [count_of, List.countP_pos_iff]
  simp

/-! ## Findings -/

/-- The findings are the remarks that are reported, each with its status. -/
theorem findings_of :
    (of remarks reference).findings remarks =
      (reportedAt remarks reference).map fun a => Finding.of (Status.of a reference) a := by
  simp only [findings, of, reportedAt]
  rw [← List.map_prod_left_eq_zip, List.filter_map, List.map_map]
  rfl

end Classification

/-- A finding tells of a remark at a reference date: it has the status of the remark and all that the remark
says, and its dates are read back by the standard pattern. -/
structure Finding.Tells (reference : Date) (a : Remark) (f : Finding) : Prop where
  status : f.status = Status.of a reference
  file : f.file = a.file
  line : f.line = a.line
  declaration : f.declaration = a.declaration
  kind : f.kind = a.kind
  tag : f.tag = a.tag
  message : f.message = a.message
  staleDate : DatePattern.standard.parse f.staleDate = .ok a.warnDate
  expires : DatePattern.standard.parse f.expires = .ok a.expireDate

namespace Finding

variable {reference : Date} {a : Remark}

/-- A finding tells all of its remark. -/
theorem tells_of : (Finding.of (Status.of a reference) a).Tells reference a where
  status := rfl
  file := rfl
  line := rfl
  declaration := rfl
  kind := rfl
  tag := rfl
  message := rfl
  staleDate := parse_format_standard a.warnDate
  expires := parse_format_standard a.expireDate

/-- Whatever has the dates that a finding writes has the status of the finding. -/
theorem Tells.status_of_dates {f : Finding} (h : f.Tells reference a) {b : Remark}
    (hwarn : DatePattern.standard.parse f.staleDate = .ok b.warnDate)
    (hexpire : DatePattern.standard.parse f.expires = .ok b.expireDate) : Status.of b reference = f.status := by
  have hwarn' : b.warnDate = a.warnDate := Except.ok.inj (hwarn.symm.trans h.staleDate)
  have hexpire' : b.expireDate = a.expireDate := Except.ok.inj (hexpire.symm.trans h.expires)
  rw [h.status]
  exact Status.of_congr hwarn' hexpire' reference

end Finding

namespace Classification

/-- The findings tell of the reported remarks, one after the other. -/
theorem forall₂_tells_findings (remarks : List Remark) (reference : Date) :
    List.Forall₂ (Finding.Tells reference) (reportedAt remarks reference)
      ((of remarks reference).findings remarks) := by
  rw [findings_of, List.forall₂_map_right_iff]
  exact List.forall₂_same.mpr fun a _ => Finding.tells_of

/-- Some finding is expired when some remark is. -/
theorem exists_mem_findings_iff (remarks : List Remark) (reference : Date) :
    (∃ f ∈ (of remarks reference).findings remarks, f.status = .expired) ↔
      ∃ a ∈ remarks, Status.of a reference = .expired := by
  rw [findings_of]
  constructor
  · rintro ⟨f, hf, hexpired⟩
    obtain ⟨a, ha, rfl⟩ := List.mem_map.mp hf
    exact ⟨a, (List.mem_filter.mp ha).1, hexpired⟩
  · rintro ⟨a, ha, hexpired⟩
    refine ⟨_, List.mem_map_of_mem (List.mem_filter.mpr ⟨ha, ?_⟩), hexpired⟩
    rw [hexpired]
    rfl

/-- The views of a classification agree and lose nothing. There is a status for each remark, every remark is
counted once, and the findings are as many as there are stale and expired remarks. They are the remarks that
are not pending, in their order: each finding tells of its remark, and a remark with the dates that are read
from it has its status. Something is expired when the number of expired remarks is not zero, and when there
is an expired finding. -/
theorem views_agree (remarks : List Remark) (reference : Date) :
    let c := of remarks reference
    c.statuses.length = remarks.length ∧
    c.count .pending + c.count .stale + c.count .expired = remarks.length ∧
    (c.findings remarks).length = c.count .stale + c.count .expired ∧
    List.Forall₂ (Finding.Tells reference) (remarks.filter fun a => Status.of a reference ≠ .pending)
      (c.findings remarks) ∧
    (∀ f ∈ c.findings remarks, ∀ b : Remark, DatePattern.standard.parse f.staleDate = .ok b.warnDate →
      DatePattern.standard.parse f.expires = .ok b.expireDate → Status.of b reference = f.status) ∧
    (c.anyExpired = true ↔ 0 < c.count .expired) ∧
    (0 < c.count .expired ↔ ∃ f ∈ c.findings remarks, f.status = .expired) := by
  intro c
  have hfindings : c.findings remarks = _ := findings_of remarks reference
  -- what is not pending is what is reported
  have hreported : remarks.filter (fun a => Status.of a reference ≠ .pending) =
      reportedAt remarks reference := by
    refine List.filter_congr fun a _ => ?_
    rw [Bool.eq_iff_iff, decide_eq_true_eq, Status.isReported_iff]
  refine ⟨length_statuses .., count_add_count_add_count .., ?_, ?_, ?_, ?_, ?_⟩
  · rw [hfindings, List.length_map, length_reportedAt]
  · rw [hreported]
    exact forall₂_tells_findings remarks reference
  · intro f hf b hwarn hexpire
    rw [hfindings] at hf
    obtain ⟨a, -, rfl⟩ := List.mem_map.mp hf
    exact Finding.tells_of.status_of_dates hwarn hexpire
  · rw [anyExpired_of_iff, count_expired_pos_iff]
  · rw [count_expired_pos_iff, exists_mem_findings_iff]

/-- Of a remark that is pending and one that is expired, with years that are written with a sign, only the
second one is reported, and its status is that of any remark with the dates that are read from it. -/
theorem views_agree_signed :
    let old : Remark := ⟨⟨"a.rs"⟩, 3, "run", .fixme, some "ann", ⟨-44, 3, 15, by decide⟩, ⟨-44, 3, 14, by decide⟩, "x"⟩
    let new : Remark := { old with warnDate := ⟨12024, 2, 29, by decide⟩ }
    let c := of [new, old] ⟨12024, 2, 28, by decide⟩
    c.count .pending = 1 ∧ c.count .stale = 0 ∧ c.count .expired = 1 ∧ c.anyExpired = true ∧
    ∃ f, c.findings [new, old] = [f] ∧ f.staleDate = "15-03--0044" ∧ f.tag = some "ann" ∧
      DatePattern.standard.parse f.staleDate = .ok old.warnDate ∧
      DatePattern.standard.parse f.expires = .ok old.expireDate ∧
      Status.of old ⟨12024, 2, 28, by decide⟩ = f.status := by
  intro old new c
  obtain ⟨-, -, -, htells, hstatus, hflag, -⟩ := views_agree [new, old] ⟨12024, 2, 28, by decide⟩
  have hone : [new, old].filter (fun a => Status.of a ⟨12024, 2, 28, by decide⟩ ≠ .pending) = [old] := by decide
  rw [hone] at htells
  obtain ⟨f, fs, hf, hnone, hfindings⟩ := List.forall₂_cons_left_iff.mp htells
  obtain rfl := List.forall₂_nil_left_iff.mp hnone
  have hmem : f ∈ c.findings [new, old] := by
    rw [hfindings]
    exact List.mem_singleton_self f
  refine ⟨by decide, by decide, by decide, hflag.mpr (by decide), f, hfindings, ?_, hf.tag, hf.staleDate,
    hf.expires, hstatus f hmem old hf.staleDate hf.expires⟩
  have htext : (c.findings [new, old]).map (·.staleDate) = ["15-03--0044"] := by decide
  rw [hfindings] at htext
  exact List.head_eq_of_cons_eq htext

end Classification

end Overdue
