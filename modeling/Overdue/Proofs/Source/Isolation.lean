/-
Comments that cost only themselves.

A comment gives a remark if its first marker has proper dates, and nothing otherwise. Which of these it is follows
from its text alone, by the grammar of markers: a comment is *plain* if no marker starts in it, *malformed* if a
token of its first marker is no date, and else it *tells* the marker that is made of its parts. There is no fourth
kind (`Comment.isIdle_iff`).

A comment that is plain or malformed is called idle. Putting idle comments in, taking them out or changing them is
an edit (`Comment.Edited`); one edit does not change the remarks of a source, so that any number of them does
not.
-/
import Mathlib.Logic.Relation
import Overdue.Proofs.Classification.DefaultExpiry
import Overdue.Proofs.Marker.Expiry
import Overdue.Proofs.Marker.Grammar

set_option autoImplicit false

namespace Overdue

open Overdue.Calendar Overdue.Text

/-! ## Kinds of comments -/

namespace Marker

/-- The parts of the first marker in a comment. -/
def IsFirst (raw : String) (s : Shape) : Prop :=
  ∃ text i, IsBody raw.toList text ∧ IsLeast {i | IsStart text i} i ∧ HasParts (text.drop i) s

/-- The shape of a text is that of the first body that starts a marker. -/
theorem shape?_eq_some_iff {raw : String} {s : Shape} : shape? raw.toList = some s ↔ IsFirst raw s := by
  unfold shape? IsFirst
  rw [shapeFrom?_eq_some_iff]
  simp only [isStartAfter_false_iff, isBody_iff]
  constructor
  · rintro ⟨i, hleast, hparts⟩
    exact ⟨_, i, rfl, hleast, hparts⟩
  · rintro ⟨text, i, rfl, hleast, hparts⟩
    exact ⟨i, hleast, hparts⟩

/-- A text has no shape if no body of it starts a marker. -/
theorem shape?_eq_none_iff {raw : String} :
    shape? raw.toList = none ↔ ∀ text, IsBody raw.toList text → ¬ ∃ i, IsStart text i := by
  unfold shape?
  rw [shapeFrom?_eq_none_iff]
  simp only [isStartAfter_false_iff, isBody_iff, forall_eq]

end Marker

namespace Comment

open Marker

/-- A comment in which no marker starts. -/
def IsPlain (c : Comment) : Prop := ∀ text, IsBody c.text.toList text → ¬ ∃ i, IsStart text i

/-- A comment whose first marker has a token that is no date. -/
def IsMalformed (p : DatePattern) (c : Comment) : Prop :=
  ∃ s, IsFirst c.text s ∧ (¬ IsDated p s.warn ∨ ∃ token ∈ s.expire, ¬ IsDated p token)

/-- A comment whose first marker has proper dates, and the marker that it is. -/
def Tells (p : DatePattern) (c : Comment) (m : Marker) : Prop := ∃ s, IsFirst c.text s ∧ IsMadeOf p s m

/-- A comment that is not a marker, or has a malformed date. -/
def IsIdle (p : DatePattern) (c : Comment) : Prop := c.IsPlain ∨ c.IsMalformed p

variable {p : DatePattern} {c : Comment}

/-- A comment without a marker is plain. -/
theorem parse_eq_none_iff_isPlain : parse p c.text = .ok none ↔ c.IsPlain := by
  rw [parse_eq_none_iff, shape?_eq_none_iff]
  rfl

/-- A comment has the marker that it tells. -/
theorem parse_eq_some_iff {m : Marker} : parse p c.text = .ok (some m) ↔ c.Tells p m := by
  unfold Tells
  simp only [← shape?_eq_some_iff]
  cases hshape : shape? c.text.toList with
  | none =>
    rw [parse_eq_none_iff.mpr hshape]
    simp
  | some s =>
    rw [parse_of_shape? hshape]
    simp only [Option.some.injEq, exists_eq_left', ← ofShape_eq_ok_iff]
    cases ofShape p s <;> simp [Except.map]

/-- The reader rejects a comment exactly if a token of its first marker is no date. -/
theorem parse_eq_error_iff : (∃ e, parse p c.text = .error e) ↔ c.IsMalformed p := by
  unfold IsMalformed
  simp only [← shape?_eq_some_iff]
  -- without a shape nothing is malformed
  cases hshape : shape? c.text.toList with
  | none =>
    rw [parse_eq_none_iff.mpr hshape]
    simp
  | some s =>
    rw [parse_of_shape? hshape]
    simp only [Option.some.injEq, exists_eq_left']
    rcases ofShape_cases p s with ⟨hwarn, he⟩ | ⟨hwarn, token, hexpire, hnot, he⟩ | ⟨m, hm, he⟩
    · simp [he, hwarn, Except.map]
    · simp [he, hwarn, hexpire, hnot, Except.map]
    · -- both tokens were read for the marker to be made
      obtain ⟨-, -, hwarn, hexpire, -⟩ := hm
      have hdated : ∀ token ∈ s.expire, IsDated p token := by
        intro token htoken
        rw [Option.mem_def.mp htoken] at hexpire
        generalize m.expireDate = date at hexpire
        cases hexpire with
        | some hd => exact ⟨_, hd⟩
      refine iff_of_false (by simp [he, Except.map]) ?_
      rintro (hnot | ⟨token, htoken, hnot⟩)
      · exact hnot ⟨_, hwarn⟩
      · exact hnot (hdated token htoken)

/-- There is no other kind of comment: one that is not idle tells a marker. -/
theorem isIdle_iff : c.IsIdle p ↔ ∀ m, ¬ c.Tells p m := by
  unfold IsIdle
  simp only [← parse_eq_none_iff_isPlain (p := p), ← parse_eq_error_iff, ← parse_eq_some_iff]
  rcases parse p c.text with e | m
  · simp
  · cases m <;> simp

/-- Lists of comments that differ by one idle comment, which was put in, taken out or changed. -/
inductive Edited (p : DatePattern) : List Comment → List Comment → Prop where
  | inserted (before after : List Comment) {c : Comment} :
      c.IsIdle p → Edited p (before ++ after) (before ++ c :: after)
  | deleted (before after : List Comment) {c : Comment} :
      c.IsIdle p → Edited p (before ++ c :: after) (before ++ after)
  | replaced (before after : List Comment) {c c' : Comment} :
      c.IsIdle p → c'.IsIdle p → Edited p (before ++ c :: after) (before ++ c' :: after)

end Comment

/-! ## Remarks -/

/-- A remark says of a marker where it stands, to which declaration it belongs, what its parts are and when it
expires: on the date that it names, or as many days after its warn date as are configured. -/
structure Remark.Records (config : Config) (file : Path) (declarations : List Declaration) (c : Comment)
    (m : Marker) (r : Remark) : Prop where
  file : r.file = file
  line : r.line = c.line
  declaration : r.declaration = Declaration.ownerOf c.start declarations
  kind : r.kind = m.kind
  tag : r.tag = m.tag
  warnDate : r.warnDate = m.warnDate
  message : r.message = m.message
  expireDate_of_some : ∀ d, m.expireDate = some d → r.expireDate = d
  expireDate_of_none : m.expireDate = none → r.expireDate = Date.next^[config.defaultExpiryDays] m.warnDate

/-- What is made of a marker records it. -/
theorem Remark.records_ofMarker (config : Config) (file : Path) (declarations : List Declaration) (c : Comment)
    (m : Marker) :
    Remark.Records config file declarations c m (Remark.ofMarker config.markerRules file declarations c m) where
  file := rfl
  line := rfl
  declaration := rfl
  kind := rfl
  tag := rfl
  warnDate := rfl
  message := rfl
  expireDate_of_some := fun _ h => Marker.expiry_of_some h
  expireDate_of_none := fun h => (Marker.expiry_of_none h).trans (Date.addDays_eq_iterate_next _ _)

namespace Source

variable {rules : MarkerRules} {file : Path} {declarations : List Declaration}

theorem remarks_append (xs ys : List Comment) :
    Source.remarks rules file ⟨declarations, xs ++ ys⟩ =
      Source.remarks rules file ⟨declarations, xs⟩ ++ Source.remarks rules file ⟨declarations, ys⟩ := by
  simp only [Source.remarks, List.filterMap_append]

/-- An idle comment is passed over. -/
theorem remarks_cons_of_isIdle {c : Comment} (h : c.IsIdle rules.pattern) (after : List Comment) :
    Source.remarks rules file ⟨declarations, c :: after⟩ = Source.remarks rules file ⟨declarations, after⟩ := by
  have hnone : Remark.ofComment? rules file declarations c = none := by
    unfold Remark.ofComment?
    split
    · rename_i m hm
      exact absurd (Comment.parse_eq_some_iff.mp hm) (Comment.isIdle_iff.mp h m)
    · rfl
    · rfl
  simp [Source.remarks, hnone]

/-- An edit does not change the remarks. -/
theorem remarks_of_edited {xs ys : List Comment} (h : Comment.Edited rules.pattern xs ys) :
    Source.remarks rules file ⟨declarations, xs⟩ = Source.remarks rules file ⟨declarations, ys⟩ := by
  cases h with
  | inserted before after hc => rw [remarks_append, remarks_append, remarks_cons_of_isIdle hc]
  | deleted before after hc => rw [remarks_append, remarks_append, remarks_cons_of_isIdle hc]
  | replaced before after hc hc' =>
    rw [remarks_append, remarks_append, remarks_cons_of_isIdle hc, remarks_cons_of_isIdle hc']

/-- Neither does any number of edits, one after the other. -/
theorem remarks_of_edits {xs ys : List Comment}
    (h : Relation.ReflTransGen (Comment.Edited rules.pattern) xs ys) :
    Source.remarks rules file ⟨declarations, xs⟩ = Source.remarks rules file ⟨declarations, ys⟩ := by
  induction h with
  | refl => rfl
  | tail _ hedit ih => rw [ih, remarks_of_edited hedit]

/-- A comment that tells a marker gives one remark, between those of the comments before and after it. -/
theorem exists_records_of_tells (config : Config) (file : Path) {c : Comment} {m : Marker}
    (h : c.Tells config.datePattern m) (before after : List Comment) :
    ∃ r, Remark.Records config file declarations c m r ∧
      Source.remarks config.markerRules file ⟨declarations, before ++ c :: after⟩ =
        Source.remarks config.markerRules file ⟨declarations, before⟩ ++
          r :: Source.remarks config.markerRules file ⟨declarations, after⟩ :=
  ⟨_, Remark.records_ofMarker config file declarations c m, remarks_split rfl (Comment.parse_eq_some_iff.mpr h)⟩

/-- **A comment costs only itself.** The remarks of a source are those of any two parts of its comments, one after the
other. Comments that are not markers or have a malformed date may be put in, taken out or changed, any number of
them and anywhere, and the remarks stay the same. Every other comment tells a marker and gives one remark in its
place, which records the marker. -/
theorem remarks_isolated (config : Config) (file : Path) (declarations : List Declaration) :
    (∀ xs ys, Source.remarks config.markerRules file ⟨declarations, xs ++ ys⟩ =
      Source.remarks config.markerRules file ⟨declarations, xs⟩ ++
        Source.remarks config.markerRules file ⟨declarations, ys⟩) ∧
    (∀ xs ys, Relation.ReflTransGen (Comment.Edited config.datePattern) xs ys →
      Source.remarks config.markerRules file ⟨declarations, xs⟩ =
        Source.remarks config.markerRules file ⟨declarations, ys⟩) ∧
    (∀ c : Comment, c.IsIdle config.datePattern ↔ ∀ m, ¬ c.Tells config.datePattern m) ∧
    ∀ (c : Comment) (m : Marker), c.Tells config.datePattern m → ∀ before after, ∃ r,
      Remark.Records config file declarations c m r ∧
      Source.remarks config.markerRules file ⟨declarations, before ++ c :: after⟩ =
        Source.remarks config.markerRules file ⟨declarations, before⟩ ++
          r :: Source.remarks config.markerRules file ⟨declarations, after⟩ := by
  refine ⟨remarks_append, ?_, fun _ => Comment.isIdle_iff, ?_⟩
  · intro xs ys hedits
    exact @remarks_of_edits config.markerRules file declarations xs ys hedits
  · intro c m hm
    exact exists_records_of_tells config file hm

/-- A comment with a date that does not exist is changed into one without a marker, and the one after it still gives
its remark, which expires by default. -/
theorem remarks_isolated_broken :
    let broken : Comment := ⟨14, 3, "// TODO: stale:99-99-9999 broken date"⟩
    let fine : Comment := ⟨70, 6, "// TODO(bob): stale:25-12-2024 fine"⟩
    let m : Marker := ⟨.todo, some "bob", ⟨2024, 12, 25, by decide⟩, none, "fine"⟩
    let config : Config := { defaultExpiryDays := 10 }
    let declarations : List Declaration := [⟨"A", 52, 63⟩, ⟨"B", 106, 117⟩]
    broken.IsIdle config.datePattern ∧ fine.Tells config.datePattern m ∧
    Source.remarks config.markerRules ⟨"m.go"⟩ ⟨declarations, [broken, fine]⟩ =
      Source.remarks config.markerRules ⟨"m.go"⟩ ⟨declarations, [⟨14, 3, "// later"⟩, fine]⟩ ∧
    ∃ r, Source.remarks config.markerRules ⟨"m.go"⟩ ⟨declarations, [broken, fine]⟩ = [r] ∧
      r.declaration = "B" ∧ r.expireDate = ⟨2025, 1, 4, by decide⟩ := by
  intro broken fine m config declarations
  have hbroken : broken.IsIdle config.datePattern :=
    .inr (Comment.parse_eq_error_iff.mp ⟨⟨"99-99-9999", "%d-%m-%Y"⟩, by decide⟩)
  have hplain : (⟨14, 3, "// later"⟩ : Comment).IsIdle config.datePattern :=
    .inl ((Comment.parse_eq_none_iff_isPlain (p := config.datePattern)).mp (by decide))
  have hfine : fine.Tells config.datePattern m := Comment.parse_eq_some_iff.mp (by decide)
  obtain ⟨-, hedits, -, htells⟩ := remarks_isolated config ⟨"m.go"⟩ declarations
  obtain ⟨r, hr, hremarks⟩ := htells fine m hfine [] []
  -- the broken comment may be replaced by a plain one, or deleted
  refine ⟨hbroken, hfine, hedits _ _ (.single (.replaced [] [fine] hbroken hplain)), r, ?_, ?_, ?_⟩
  · exact (hedits _ _ (.single (.deleted [] [fine] hbroken))).trans hremarks
  · rw [hr.declaration]
    decide
  · rw [hr.expireDate_of_none rfl]
    decide

end Source

end Overdue
