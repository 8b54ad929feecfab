/-
Markers that are written and read back.

A *rendering* is a marker as someone writes it into a comment: text in front of it, a keyword in any case,
a tag, the dates along a pattern, a message, and the mark that closes a block. Its fields carry what makes
it readable. The text in front must not hold a keyword, or that one would be found first; the dates must be
tokens that the pattern reads back; the message must not look like an `expires:` clause where there is
none. Nothing is asked of what a tag or a message holds otherwise, so both may look like markers
themselves.
-/
import Overdue.Proofs.Calendar.Standard
import Overdue.Proofs.Marker.Grammar

set_option autoImplicit false

namespace Overdue.Marker

open Overdue.Calendar Overdue.Text

/-! ## Renderings -/

/-- A date has a text along a pattern that is a token and is read back. -/
def IsLegible (p : DatePattern) (d : Date) : Prop :=
  (p.format d).toList ≠ [] ∧ IsSolid (p.format d).toList ∧ p.parse (p.format d) = .ok d

/-- The parts of a marker to be written, and what is written around it. -/
structure Draft where
  /-- What stands in front of the marker. -/
  lead : List Char
  kind : MarkerKind
  /-- The keyword as it is spelled. -/
  keyword : List Char
  tag : Option (List Char)
  warn : Date
  expire : Option Date
  message : List Char
  /-- Whether the comment is closed after the marker. -/
  closed : Bool

namespace Draft

/-- The `expires:` clause. -/
def clause (p : DatePattern) (d : Draft) : List Char :=
  match d.expire with
  | none => []
  | some date => [' ', 'e', 'x', 'p', 'i', 'r', 'e', 's', ':'] ++ (p.format date).toList

/-- The message, with a blank in front. -/
def remark (d : Draft) : List Char :=
  if d.message = [] then [] else ' ' :: d.message

/-- The marker from its first date on. -/
def dated (p : DatePattern) (d : Draft) : List Char :=
  (p.format d.warn).toList ++ (d.clause p ++ d.remark)

/-- The marker from its keyword on. -/
def core (p : DatePattern) (d : Draft) : List Char :=
  d.keyword ++ (tagText d.tag ++ ([':', ' ', 's', 't', 'a', 'l', 'e', ':'] ++ d.dated p))

/-- The whole comment. -/
def text (p : DatePattern) (d : Draft) : List Char :=
  d.lead ++ d.core p ++ (if d.closed then [' ', '*', '/'] else [])

/-- The marker that the parts make. -/
def marker (d : Draft) : Marker :=
  ⟨d.kind, d.tag.map String.ofList, d.warn, d.expire, String.ofList d.message⟩

end Draft

/-- A marker to be written along a pattern that can be read back. -/
structure Rendering (p : DatePattern) extends Draft where
  /-- No keyword stands in front of the marker, in any case. -/
  lead_plain : ∀ kind spelled, Spells spelled (MarkerKind.word kind) → ¬ spelled <:+: lead
  /-- The keyword does not continue a word. -/
  lead_apart : ∀ c ∈ lead.getLast?, isWord c = false
  keyword_spells : Spells keyword kind.word
  tag_closed : ∀ t ∈ tag, t ≠ [] ∧ trim t = t ∧ ')' ∉ t
  warn_legible : IsLegible p warn
  expire_legible : ∀ date ∈ expire, IsLegible p date
  message_trimmed : trim message = message
  message_line : '\n' ∉ message
  /-- Without a clause, the message does not start one. -/
  message_plain : expire = none →
    ∀ spelled, Spells spelled ['e', 'x', 'p', 'i', 'r', 'e', 's', ':'] → ¬ spelled <+: message
  /-- A comment that is not closed does not end as if it were. -/
  end_open : closed = false → ¬ ['*', '/'] <:+ toDraft.text p

/-- A keyword consists of letters. -/
theorem isLower_of_mem_word {kind : MarkerKind} {spelled : List Char} {c : Char}
    (hspells : Spells spelled kind.word) (hmem : c ∈ spelled) : (foldCase c).isLower = true := by
  -- folding turns a spelling into the keyword itself
  have hletters : ∀ w ∈ kind.word, w.isLower = true :=
    List.all_eq_true.mp (by cases kind <;> decide)
  refine hletters _ ?_
  rw [← hspells]
  exact List.mem_map_of_mem hmem

namespace Rendering

variable {p : DatePattern} (r : Rendering p)

/-- What is left of the mark that closes a block once it is taken away. -/
def margin : List Char := if r.closed then [' '] else []

theorem isBlank_margin : IsBlank r.margin := by
  rw [margin]
  split
  · intro c hc
    rw [List.mem_singleton.mp hc]
    decide
  · exact isBlank_nil

/-! ## The end of the comment -/

/-- The dates are not written as nothing. -/
theorem dated_ne_nil : r.dated p ≠ [] :=
  List.append_ne_nil_of_left_ne_nil r.warn_legible.1 _

/-- The text ends with a token or with a trimmed message. -/
theorem endsSolid_dated : EndsSolid (r.dated p) := by
  rw [Draft.dated]
  by_cases hmessage : r.message = []
  · rw [Draft.remark, if_pos hmessage, List.append_nil, Draft.clause]
    cases hexpire : r.expire with
    | none =>
      rw [List.append_nil]
      exact endsSolid_of_isSolid r.warn_legible.2.1
    | some date =>
      obtain ⟨hne, hsolid, -⟩ := r.expire_legible date hexpire
      rw [← List.append_assoc]
      exact endsSolid_append (endsSolid_of_isSolid hsolid) hne
  · -- a message comes last, whatever stands before it
    obtain ⟨-, hend⟩ := trim_eq_self_iff.mp r.message_trimmed
    rw [Draft.remark, if_neg hmessage, ← List.append_assoc, ← List.singleton_append,
      ← List.append_assoc]
    exact endsSolid_append hend hmessage

/-- The dates come last in the core. -/
theorem core_eq_append : ∃ front, r.core p = front ++ r.dated p := by
  refine ⟨r.keyword ++ (tagText r.tag ++ [':', ' ', 's', 't', 'a', 'l', 'e', ':']), ?_⟩
  rw [Draft.core]
  simp only [List.append_assoc]

/-- What is read is the text without the mark at its end. -/
theorem body_text : body (r.text p) = r.lead ++ (r.core p ++ r.margin) := by
  symm
  rw [← isBody_iff, ← List.append_assoc]
  -- nothing blank stands at the very end, only the mark if there is one
  refine ⟨[], isBlank_nil, ?_⟩
  rw [margin, Draft.text]
  cases hclosed : r.closed with
  | true =>
    left
    simp
  | false =>
    right
    have hopen := r.end_open hclosed
    rw [Draft.text, hclosed] at hopen
    refine ⟨by simp, ?_, by simpa using hopen⟩
    rw [if_neg Bool.false_ne_true, List.append_nil]
    obtain ⟨front, hcore⟩ := r.core_eq_append
    rw [hcore, ← List.append_assoc]
    exact endsSolid_append r.endsSolid_dated r.dated_ne_nil

/-! ## The first start -/

/-- A keyword in the text in front would end where that text does or before, and it does not continue
over its end, where no letter stands. -/
theorem not_isStart_of_lt {i : Nat} (hi : i < r.lead.length) (rest : List Char) :
    ¬ IsStart (r.lead ++ rest) i := by
  rintro ⟨-, kind, tag, c, rest', ⟨spelled, _, _, _, _, hcut, hspells, -⟩, -⟩
  rw [List.drop_append_of_le_length hi.le] at hcut
  rcases List.append_eq_append_iff.mp hcut with ⟨more, hspelled, -⟩ | ⟨more, hlead, -⟩
  · -- the keyword goes beyond the text in front, so it takes its last character along
    obtain ⟨d, hd⟩ : ∃ d, r.lead.getLast? = some d := by
      cases hlast : r.lead.getLast? with
      | none =>
        rw [List.getLast?_eq_none_iff.mp hlast] at hi
        exact absurd hi (Nat.not_lt_zero i)
      | some d => exact ⟨d, rfl⟩
    have hmem : d ∈ spelled := by
      rw [hspelled]
      refine List.mem_append_left more (List.mem_of_getLast? ?_)
      rw [List.getLast?_drop, if_neg (Nat.not_le.mpr hi)]
      exact hd
    have hword := isWord_of_isLower_foldCase (isLower_of_mem_word hspells hmem)
    rw [r.lead_apart d hd] at hword
    cases hword
  · -- the keyword lies within the text in front
    refine r.lead_plain kind spelled hspells ?_
    have hinfix : spelled <+: r.lead.drop i := ⟨more, hlead.symm⟩
    exact hinfix.isInfix.trans (List.drop_suffix i r.lead).isInfix

/-- The lead keeps the keyword out of a word. -/
theorem isOutsideWord_lead (rest : List Char) : IsOutsideWord (r.lead ++ rest) r.lead.length := by
  rcases List.eq_nil_or_concat r.lead with hnil | ⟨front, c, hlead⟩
  · left
    rw [hnil, List.length_nil]
  · right
    rw [List.concat_eq_append] at hlead
    refine ⟨front.length, c, ?_, ?_, r.lead_apart c ?_⟩
    · rw [hlead, List.length_append, List.length_singleton]
    · rw [hlead, List.append_assoc, List.getElem?_append_right le_rfl, Nat.sub_self]
      rfl
    · rw [hlead, List.getLast?_concat]
      rfl

/-! ## The parts -/

/-- The parts that are written. -/
def shape : Shape where
  kind := r.kind
  tag := r.tag
  warn := (p.format r.warn).toList
  expire := r.expire.map fun date => (p.format date).toList
  message := r.message

theorem startsBlank_cons (cs : List Char) : StartsBlank (' ' :: cs) := by
  intro c hc
  rw [← Option.some.inj hc]
  decide

/-- The remark and the margin begin with white space, or are empty. -/
theorem startsBlank_remark : StartsBlank (r.remark ++ r.margin) := by
  rw [Draft.remark]
  split
  · exact startsBlank_of_isBlank r.isBlank_margin
  · exact startsBlank_cons _

/-- The core has its head. -/
theorem hasHead_core :
    HasHead (r.core p ++ r.margin) r.kind r.tag (r.dated p ++ r.margin) := by
  refine ⟨r.keyword, [], [' '], ['s', 't', 'a', 'l', 'e', ':'], [], ?_, r.keyword_spells,
    fun t ht => (r.tag_closed t ht).2.2, isBlank_nil, ?_, by decide, isBlank_nil⟩
  · rw [Draft.core]
    simp only [List.append_assoc, List.cons_append, List.nil_append]
  · intro c hc
    rw [List.mem_singleton.mp hc]
    decide

/-- The first date is a token. -/
theorem hasToken_dated :
    HasToken (r.dated p ++ r.margin) (p.format r.warn).toList
      (r.clause p ++ (r.remark ++ r.margin)) := by
  refine ⟨?_, r.warn_legible.1, r.warn_legible.2.1, ?_⟩
  · rw [Draft.dated]
    simp only [List.append_assoc]
  · rw [Draft.clause]
    split
    · exact r.startsBlank_remark
    · exact startsBlank_cons _

/-- Without a clause none is read: the message does not start one, and what comes after it is blank. -/
theorem expires?_remark (hexpire : r.expire = none) : expires? (r.remark ++ r.margin) = none := by
  by_cases hmessage : r.message = []
  · rw [Draft.remark, if_pos hmessage, List.nil_append, margin]
    split
    · decide
    · rfl
  · have hstart := (trim_eq_self_iff.mp r.message_trimmed).1
    rw [Draft.remark, if_neg hmessage, List.cons_append, expires?, if_pos (by decide),
      trimStart_eq_self (startsSolid_append hstart hmessage), Option.bind_eq_none_iff]
    intro rest hword
    obtain ⟨spelled, hcut, hspells⟩ := dropWord?_eq_some_iff.mp hword
    have hnot := r.message_plain hexpire spelled hspells
    rcases List.append_eq_append_iff.mp hcut with ⟨more, hspelled, hmargin⟩ | ⟨more, hwhole, -⟩
    · -- the word would go beyond the message, but there is no white space in it
      cases more with
      | nil =>
        rw [List.append_nil] at hspelled
        exact absurd (hspelled ▸ List.prefix_rfl) hnot
      | cons c more =>
        have hspace : isSpace c = true := r.isBlank_margin c (hmargin ▸ List.mem_cons_self ..)
        have hmem : foldCase c ∈ ['e', 'x', 'p', 'i', 'r', 'e', 's', ':'] := by
          rw [← hspells, hspelled]
          exact List.mem_map_of_mem (List.mem_append_right _ (List.mem_cons_self ..))
        have hsolid : ∀ w ∈ ['e', 'x', 'p', 'i', 'r', 'e', 's', ':'], !isSpace w :=
          List.all_eq_true.mp (by decide)
        rw [foldCase_of_isSpace hspace] at hmem
        have hnot := hsolid c hmem
        rw [hspace] at hnot
        cases hnot
    · exact absurd ⟨more, hwhole.symm⟩ hnot

/-- The expiry is that of the clause. -/
theorem hasExpiry_clause :
    HasExpiry (r.clause p ++ (r.remark ++ r.margin)) r.shape.expire (r.remark ++ r.margin) := by
  rw [shape, Draft.clause]
  cases hexpire : r.expire with
  | none => exact hasExpiry_iff.mpr (.inl ⟨r.expires?_remark hexpire, rfl, rfl⟩)
  | some date =>
    obtain ⟨hne, hsolid, -⟩ := r.expire_legible date hexpire
    refine ⟨[' '], ['e', 'x', 'p', 'i', 'r', 'e', 's', ':'], [],
      (p.format date).toList ++ (r.remark ++ r.margin), ?_, List.cons_ne_nil _ _, ?_, by decide,
      isBlank_nil, rfl, hne, hsolid, r.startsBlank_remark⟩
    · simp only [List.cons_append, List.nil_append]
    · intro c hc
      rw [List.mem_singleton.mp hc]
      decide

/-- The message is that of the remark. -/
theorem hasMessage_remark : HasMessage (r.remark ++ r.margin) r.message := by
  have hend : ∀ c ∈ ([] : List Char).head?, c = '\n' := by
    intro c hc
    cases hc
  by_cases hmessage : r.message = []
  · rw [Draft.remark, if_pos hmessage, hmessage]
    -- without a message the margin is all there is
    refine ⟨r.margin, [], [], ?_, r.isBlank_margin, ?_, List.not_mem_nil, hend, rfl⟩
    · rw [List.nil_append, List.append_nil, List.append_nil]
    · intro c hc
      cases hc
  · have hstart := (trim_eq_self_iff.mp r.message_trimmed).1
    have hmargin : '\n' ∉ r.margin := by
      rw [margin]
      split
      · decide
      · exact List.not_mem_nil
    rw [Draft.remark, if_neg hmessage]
    -- the message is trimmed, so the blank before it and the margin behind it are taken away
    refine ⟨[' '], r.message ++ r.margin, [], ?_, ?_, ?_, ?_, hend, ?_⟩
    · rw [List.append_nil, List.cons_append, List.singleton_append]
    · intro c hc
      rw [List.mem_singleton.mp hc]
      decide
    · rw [List.append_nil]
      exact startsSolid_append hstart hmessage
    · intro hmem
      rcases List.mem_append.mp hmem with h | h
      · exact r.message_line h
      · exact hmargin h
    · exact (trim_append_blanks r.message_trimmed hmessage r.isBlank_margin).symm

/-- The core has all its parts. -/
theorem hasParts_core : HasParts (r.core p ++ r.margin) r.shape :=
  ⟨_, _, _, r.hasHead_core, r.hasToken_dated, r.hasExpiry_clause, r.hasMessage_remark⟩

/-- The shape makes the marker. -/
theorem isMadeOf_marker : IsMadeOf p r.shape r.marker := by
  refine ⟨rfl, ?_, ?_, ?_, rfl⟩
  · change r.tag.map String.ofList = ((r.tag.map trim).filter (· ≠ [])).map String.ofList
    cases htag : r.tag with
    | none => rfl
    -- a tag that is trimmed and not empty is kept as it is
    | some t =>
      obtain ⟨hne, htrim, -⟩ := r.tag_closed t htag
      simp [htrim, hne]
  · rw [shape, String.ofList_toList]
    exact r.warn_legible.2.2
  · change Option.Rel _ (r.expire.map fun date => (p.format date).toList) r.expire
    cases hexpire : r.expire with
    | none => exact .none
    | some date =>
      refine .some ?_
      rw [String.ofList_toList]
      exact (r.expire_legible date hexpire).2.2

/-- The first marker of a rendering is the one that was written. -/
theorem shape?_text : shape? (r.text p) = some r.shape := by
  have hparts : HasParts ((r.lead ++ (r.core p ++ r.margin)).drop r.lead.length) r.shape := by
    rw [List.drop_left]
    exact r.hasParts_core
  have hstart : IsStart (r.lead ++ (r.core p ++ r.margin)) r.lead.length :=
    ⟨r.isOutsideWord_lead _, exists_hasParts_iff.mp ⟨_, hparts⟩⟩
  rw [shape?, r.body_text]
  refine shapeFrom?_eq_some_iff.mpr ⟨r.lead.length, ⟨isStartAfter_false_iff.mpr hstart, ?_⟩, hparts⟩
  intro i hi
  -- a start before the marker would lie in the text in front
  by_contra hlt
  exact r.not_isStart_of_lt (Nat.not_le.mp hlt) _ (isStartAfter_false_iff.mp hi)

end Rendering

/-- **Written markers are read back.** This holds for every pattern and every rendering along it, and
along the standard pattern every date can be written. -/
theorem parse_rendering :
    (∀ (p : DatePattern) (r : Rendering p),
      parse p (String.ofList (r.text p)) = .ok (some r.marker)) ∧
    ∀ d, IsLegible DatePattern.standard d := by
  constructor
  · intro p r
    have hshape : shape? (String.ofList (r.text p)).toList = some r.shape := by
      rw [String.toList_ofList]
      exact r.shape?_text
    rw [parse_of_shape? hshape, ofShape_of_isMadeOf r.isMadeOf_marker]
    rfl
  · intro d
    exact ⟨format_standard_ne_nil d, isSolid_format_standard d, parse_format_standard d⟩

/-- A draft with a tag that looks like a marker and a message that looks like a clause. -/
def nestedDraft : Draft where
  lead := ['/', '*', ' ']
  kind := .fixme
  keyword := "Fixme".toList
  tag := some "todo: stale:x".toList
  warn := ⟨2024, 2, 29, by decide⟩
  expire := some ⟨2024, 3, 1, by decide⟩
  message := "expires: soon".toList
  closed := true

/-- A marker with another one in its tag, and with a clause in its message that does not count any more. -/
theorem parse_rendering_nested :
    String.ofList (nestedDraft.text .standard) =
      "/* Fixme(todo: stale:x): stale:29-02-2024 expires:01-03-2024 expires: soon */" ∧
    parse .standard (String.ofList (nestedDraft.text .standard)) =
      .ok (some nestedDraft.marker) := by
  obtain ⟨hread, hlegible⟩ := parse_rendering
  have hshort : ∀ kind spelled, Spells spelled (MarkerKind.word kind) →
      ¬ spelled <:+: nestedDraft.lead := by
    rintro kind spelled hspells hinfix
    -- no keyword fits into three characters
    have hword : spelled.length = kind.word.length := by rw [← hspells, List.length_map]
    have hlength := hinfix.length_le
    cases kind <;> simp [hword, MarkerKind.word, nestedDraft] at hlength
  refine ⟨by decide, hread .standard ⟨nestedDraft, hshort, ?_, by decide, ?_, hlegible _,
    fun date _ => hlegible date, by decide, by decide, ?_, ?_⟩⟩
  · rintro c hc
    obtain rfl := Option.some.inj hc
    decide
  · rintro t ht
    obtain rfl := Option.some.inj ht
    decide
  · intro hnone
    cases hnone
  · intro hclosed
    cases hclosed

end Overdue.Marker
