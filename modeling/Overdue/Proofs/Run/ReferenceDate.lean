/-
The reference date and the dates of markers.

A date comes into a run in two ways: as the reference text, which is trimmed, and as the token of a marker,
which ends at white space. For a text without white space the two are one and the same reading
(`parse_lineOf`, `ofText_padded`), so a marker that is written with the reference date warns on that date, and
is stale and not expired by then, however few days there are until it expires.
-/
import Overdue.Proofs.Classification.DefaultExpiry
import Overdue.Proofs.Marker.Expiry
import Overdue.Proofs.Marker.Lines
import Overdue.Proofs.Run.ExitStatus

set_option autoImplicit false

namespace Overdue

open Overdue.Calendar Overdue.Text

variable {p : DatePattern} {t before after : String}

/-! ## One reading -/

/-- A marker with nothing but a date is read as its date is. -/
theorem Marker.parse_lineOf (hne : t.toList ≠ []) (ht : IsSolid t.toList)
    (hopen : ¬ ['*', '/'] <:+ t.toList) :
    Marker.parse p (lineOf t) = (p.parse t).map fun d => some ⟨.todo, none, d, none, ""⟩ := by
  have htoken : HasToken (trimStart t.toList) t.toList [] := by
    rw [trimStart_eq_self (startsSolid_of_isSolid ht)]
    exact ⟨(List.append_nil _).symm, hne, ht, nofun⟩
  rw [parse_of_shape? (shape?_line htoken (endsSolid_of_isSolid ht) hopen), ofShape]
  dsimp only
  rw [String.ofList_toList]
  cases p.parse t <;> rfl

/-- A reference text is read as what is left of it without the white space around it. -/
theorem Reference.ofText_padded (hne : t.toList ≠ []) (ht : IsSolid t.toList)
    (hbefore : IsBlank before.toList) (hafter : IsBlank after.toList) :
    Reference.ofText p (some (before ++ t ++ after)) =
      ((p.parse t).map Reference.given).mapError RunError.ofReference := by
  have htrim : trim (before ++ t ++ after).toList = t.toList := by
    rw [String.toList_append, String.toList_append]
    exact trim_padded hne ht hbefore hafter
  rw [ofText_of_trim_ne_nil (by rwa [htrim]), htrim, String.ofList_toList]
  cases p.parse t <;> rfl

/-! ## One date -/

/-- A marker without an expire date is stale on its warn date, by any number of days. -/
theorem Status.of_ofMarker_warnDate {m : Marker} (h : m.expireDate = none) (rules : MarkerRules) (file : Path)
    (declarations : List Declaration) (c : Comment) :
    Status.of (Remark.ofMarker rules file declarations c m) m.warnDate = .stale := by
  have hle : m.warnDate ≤ m.expiry rules.expiryDays := by
    rw [Marker.expiry_of_none h]
    exact m.warnDate.le_addDays _
  rw [Status.of_eq_stale_iff]
  exact ⟨Int.lt_irrefl _, Int.not_lt.mpr hle⟩

/-- A source with one marker, on the warn date of the marker. -/
theorem classification_of_line {line : String} {d : Date} {m : Marker}
    (hparse : Marker.parse p line = .ok (some m)) (hexpire : m.expireDate = none) (hwarn : m.warnDate = d)
    (days : Nat) (file : Path) (declarations : List Declaration) (start number : Nat) :
    Classification.of (Source.remarks ⟨p, days⟩ file ⟨declarations, [⟨start, number, line⟩]⟩) d =
      ⟨[.stale], false⟩ := by
  let c : Comment := ⟨start, number, line⟩
  have hcomments : (⟨declarations, [c]⟩ : Source).comments = [] ++ c :: [] := rfl
  have hremarks : Source.remarks ⟨p, days⟩ file ⟨declarations, [c]⟩ =
      [Remark.ofMarker ⟨p, days⟩ file declarations c m] := Source.remarks_split hcomments hparse
  rw [hremarks, Classification.of, List.map_singleton, ← hwarn, Status.of_ofMarker_warnDate hexpire]
  rfl

/-- **Dates of markers and the reference date are read alike.** A text without white space is the warn date of
a marker exactly if it is the reference date, whatever white space stands around it there and whatever day
it is, and it is malformed in a marker exactly if it is no reference date, which is said with the same text. The
marker is stale on its date, also if it expires after no days or after more than there are. -/
theorem marker_reference_alike (p : DatePattern) (hne : t ≠ "") (ht : IsSolid t.toList)
    (hopen : ¬ ['*', '/'] <:+ t.toList) (hbefore : IsBlank before.toList) (hafter : IsBlank after.toList) :
    let line := Marker.lineOf t
    let reference := Reference.ofText p (some (before ++ t ++ after))
    (∀ today d, (∃ m, Marker.parse p line = .ok (some m) ∧ m.warnDate = d) ↔
      reference.map (Reference.date today) = .ok d) ∧
    ((∃ e, Marker.parse p line = .error e) ↔ ∃ reason, reference = .error (.config reason)) ∧
    (∀ e, Marker.parse p line = .error e → reference = .error (.ofReference e)) ∧
    reference ≠ .ok .today ∧
    ∀ today d, reference.map (Reference.date today) = .ok d →
      ∀ days file declarations start number,
        Classification.of (Source.remarks ⟨p, days⟩ file ⟨declarations, [⟨start, number, line⟩]⟩) d =
          ⟨[.stale], false⟩ := by
  intro line reference
  have hne : t.toList ≠ [] := by simpa using hne
  -- both are settled by whether the text alone is a date, and by which
  have hmarker : Marker.parse p line = _ := Marker.parse_lineOf hne ht hopen
  have hreference : reference = _ := Reference.ofText_padded hne ht hbefore hafter
  cases hparse : p.parse t with
  | error e =>
    have hmarker : Marker.parse p line = .error e := by rw [hmarker, hparse]; rfl
    have hreference : reference = .error (.ofReference e) := by rw [hreference, hparse]; rfl
    simp [hmarker, hreference, Except.map, RunError.ofReference]
  | ok d =>
    have hmarker : Marker.parse p line = .ok (some ⟨.todo, none, d, none, ""⟩) := by
      rw [hmarker, hparse]
      rfl
    have hreference : reference = .ok (.given d) := by rw [hreference, hparse]; rfl
    refine ⟨?_, ?_, ?_, ?_, ?_⟩
    · simp [hmarker, hreference, Except.map, Reference.date]
    · simp [hmarker, hreference]
    · simp [hmarker]
    · simp [hreference]
    · intro today e he
      rw [hreference] at he
      exact classification_of_line hmarker rfl (Except.ok.inj he)

/-- On the last date, whose year has a sign, a marker is stale however late it would expire. -/
theorem marker_reference_alike_last :
    let t := "31-12-+262142"
    let line := Marker.lineOf t
    let reference := Reference.ofText .standard (some ("\t " ++ t ++ "\n"))
    let today : Date := ⟨2024, 2, 29, by decide⟩
    (t ≠ "" ∧ IsSolid t.toList ∧ ¬ ['*', '/'] <:+ t.toList ∧ IsBlank "\t ".toList ∧ IsBlank "\n".toList) ∧
    reference ≠ .ok .today ∧ reference.map (Reference.date today) = .ok Date.last ∧
    (∃ m, Marker.parse .standard line = .ok (some m) ∧ m.warnDate = Date.last) ∧
    ∀ days, Classification.of (Source.remarks ⟨.standard, days⟩ ⟨"a.go"⟩ ⟨[], [⟨0, 1, line⟩]⟩) Date.last =
      ⟨[.stale], false⟩ := by
  intro t line reference today
  have ht : t ≠ "" ∧ IsSolid t.toList ∧ ¬ ['*', '/'] <:+ t.toList := by decide
  have hblanks : IsBlank "\t ".toList ∧ IsBlank "\n".toList := by decide
  have hdate : reference.map (Reference.date today) = .ok Date.last := by decide
  obtain ⟨hiff, -, -, htoday, hstale⟩ :=
    marker_reference_alike .standard ht.1 ht.2.1 ht.2.2 hblanks.1 hblanks.2
  refine ⟨⟨ht.1, ht.2.1, ht.2.2, hblanks⟩, htoday, hdate, (hiff today Date.last).mpr hdate, ?_⟩
  intro days
  exact hstale today Date.last hdate days ⟨"a.go"⟩ [] 0 1

end Overdue
