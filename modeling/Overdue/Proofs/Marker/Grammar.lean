/-
The grammar of markers, and that the reader of markers accepts exactly it.

The reader finds the first place of a comment where a marker starts and takes the longest run at every
step. The grammar below says the same without a reader: a text *has the parts* of a marker if it can be
cut into keyword, tag, `stale:`, date tokens and message in the way that it describes. The cut is unique
because each part ends where the next one cannot be read as a continuation of it: tokens are followed by
white space or nothing, a tag by its bracket, a line by its end. So there is nothing to choose and nothing
to go back to, and `shapeAt?_eq_some_iff` can equate the reader with the grammar.
-/
import Overdue.Marker.Basic
import Overdue.Proofs.Text.Runs
import Mathlib.Data.Nat.Find
import Mathlib.Order.Bounds.Basic

set_option autoImplicit false

namespace Overdue

open Overdue.Text

/-- The keyword in lower case. -/
def MarkerKind.word : MarkerKind → List Char
  | todo => ['t', 'o', 'd', 'o']
  | fixme => ['f', 'i', 'x', 'm', 'e']

namespace Marker

/-! ## The grammar -/

/-- A tag as it stands in the text. -/
def tagText : Option (List Char) → List Char
  | none => []
  | some tag => '(' :: tag ++ [')']

/-- A text starts like a marker: keyword, tag, and `stale:` after a colon. The white space after
`stale:` is passed over, and `rest` is what comes after it. -/
def HasHead (cs : List Char) (kind : MarkerKind) (tag : Option (List Char)) (rest : List Char) :
    Prop :=
  ∃ keyword blanks₁ blanks₂ stale blanks₃,
    cs = keyword ++ (tagText tag ++ (blanks₁ ++ ':' :: (blanks₂ ++ (stale ++ (blanks₃ ++ rest))))) ∧
    Spells keyword kind.word ∧ (∀ t ∈ tag, ')' ∉ t) ∧ IsBlank blanks₁ ∧ IsBlank blanks₂ ∧
    Spells stale ['s', 't', 'a', 'l', 'e', ':'] ∧ IsBlank blanks₃

/-- A text starts with a token: a run of characters that are not white space, as long as it goes. -/
def HasToken (cs token rest : List Char) : Prop :=
  cs = token ++ rest ∧ token ≠ [] ∧ IsSolid token ∧ StartsBlank rest

/-- A text starts with white space and an `expires:` clause. -/
def HasClause (cs token rest : List Char) : Prop :=
  ∃ blanks₁ expires blanks₂ cs',
    cs = blanks₁ ++ (expires ++ (blanks₂ ++ cs')) ∧ blanks₁ ≠ [] ∧ IsBlank blanks₁ ∧
    Spells expires ['e', 'x', 'p', 'i', 'r', 'e', 's', ':'] ∧ IsBlank blanks₂ ∧
    HasToken cs' token rest

/-- The clause of a text, where there is one, and what comes after it. -/
def HasExpiry (cs : List Char) (expire : Option (List Char)) (rest : List Char) : Prop :=
  match expire with
  | some token => HasClause cs token rest
  | none => (¬ ∃ token rest, HasClause cs token rest) ∧ rest = cs

/-- The message of a text: what stands on the first line that is not blank, trimmed. -/
def HasMessage (cs message : List Char) : Prop :=
  ∃ blanks line rest,
    cs = blanks ++ (line ++ rest) ∧ IsBlank blanks ∧ StartsSolid (line ++ rest) ∧
    '\n' ∉ line ∧ (∀ c ∈ rest.head?, c = '\n') ∧ message = trim line

/-- A text starts with a marker that has given parts. -/
def HasParts (cs : List Char) (s : Shape) : Prop :=
  ∃ rest₁ rest₂ rest₃,
    HasHead cs s.kind s.tag rest₁ ∧ HasToken rest₁ s.warn rest₂ ∧
    HasExpiry rest₂ s.expire rest₃ ∧ HasMessage rest₃ s.message

/-- No character of a word stands right before a position. -/
def IsOutsideWord (text : List Char) (i : Nat) : Prop :=
  i = 0 ∨ ∃ j c, i = j + 1 ∧ text[j]? = some c ∧ isWord c = false

/-- A marker starts at a position: it does not continue a word, and the text from there on starts like
a marker and goes on with something that is not white space. -/
def IsStart (text : List Char) (i : Nat) : Prop :=
  IsOutsideWord text i ∧ ∃ kind tag c rest,
    HasHead (text.drop i) kind tag (c :: rest) ∧ isSpace c = false

/-- The text of a comment, without the white space at its end and without one mark that closes a block
right before that. -/
def IsBody (raw text : List Char) : Prop :=
  ∃ blanks, IsBlank blanks ∧
    (raw = text ++ (['*', '/'] ++ blanks) ∨
      raw = text ++ blanks ∧ EndsSolid text ∧ ¬ ['*', '/'] <:+ text)

/-! ## The readers of the parts -/

/-- The keywords differ in their first letter, so at most one of them is there. -/
theorem keyword?_eq_some_iff {cs rest : List Char} {kind : MarkerKind} :
    keyword? cs = some (kind, rest) ↔ dropWord? kind.word cs = some rest := by
  have hboth : ∀ {r r'}, dropWord? MarkerKind.todo.word cs = some r →
      dropWord? MarkerKind.fixme.word cs = some r' → False := by
    intro r r' htodo hfixme
    have hhead := (head?_of_dropWord? htodo).symm.trans (head?_of_dropWord? hfixme)
    exact absurd hhead (by decide)
  -- the reader tries the keywords one after the other, spelled out as texts
  change (match dropWord? MarkerKind.todo.word cs with
    | some rest => some (.todo, rest)
    | none => (dropWord? MarkerKind.fixme.word cs).map (.fixme, ·)) = some (kind, rest) ↔ _
  cases htodo : dropWord? MarkerKind.todo.word cs with
  | some r =>
    cases kind with
    | todo => simp [htodo]
    -- the reader has settled for the other keyword, and both cannot be there
    | fixme => simpa using fun hfixme => hboth htodo hfixme
  | none =>
    cases kind with
    | todo => simp [htodo]
    | fixme => simp

/-- The word for a warning date is between colons, with white space around it if any. -/
theorem stale?_eq_some_iff {cs rest : List Char} :
    stale? cs = some rest ↔ ∃ blanks₁ blanks₂ stale,
      cs = blanks₁ ++ ':' :: (blanks₂ ++ (stale ++ rest)) ∧ IsBlank blanks₁ ∧ IsBlank blanks₂ ∧
      Spells stale ['s', 't', 'a', 'l', 'e', ':'] := by
  constructor
  · intro h
    obtain ⟨blanks₁, hcs, hblank₁, -⟩ := trimStart_eq_iff.mp (rfl : trimStart cs = trimStart cs)
    rw [stale?] at h
    split at h
    · rename_i after hcolon
      obtain ⟨stale, hafter, hspells⟩ := dropWord?_eq_some_iff.mp h
      obtain ⟨blanks₂, hrest, hblank₂, -⟩ := trimStart_eq_iff.mp hafter
      refine ⟨blanks₁, blanks₂, stale, ?_, hblank₁, hblank₂, hspells⟩
      rw [hcs, hcolon, hrest]
    · cases h
  · rintro ⟨blanks₁, blanks₂, stale, rfl, hblank₁, hblank₂, hspells⟩
    have hcolon : StartsSolid (':' :: (blanks₂ ++ (stale ++ rest))) := by
      intro c hc
      obtain rfl : ':' = c := Option.some.inj hc
      decide
    -- neither run of white space reaches beyond what it is taken to be, as the colon and the
    -- first letter of the word end it
    rw [stale?, trimStart_append hblank₁ hcolon]
    change dropWord? _ (trimStart (blanks₂ ++ (stale ++ rest))) = some rest
    rw [trimStart_append hblank₂ (startsSolid_spelled hspells (by decide))]
    exact dropWord?_append hspells

/-- Before `: stale:` there is a tag exactly where the reader takes one. A text that starts with an open
bracket and has no closing one is left as it is, but then `: stale:` does not come next. -/
theorem splitTag_eq_iff {cs rest after : List Char} {tag : Option (List Char)}
    (hstale : stale? rest = some after) :
    splitTag cs = (tag, rest) ↔ cs = tagText tag ++ rest ∧ ∀ t ∈ tag, ')' ∉ t := by
  constructor
  · intro h
    rw [splitTag.eq_def] at h
    split at h
    · rename_i inner
      split at h
      · rename_i t d rest' hsplit
        obtain ⟨rfl, rfl⟩ := Prod.mk.inj h
        obtain ⟨rfl, htag, hclose⟩ := splitWhile_eq_iff.mp hsplit
        have hd : d = ')' := by simpa using hclose d rfl
        refine ⟨by simp [tagText, hd], ?_⟩
        intro t' ht' hmem
        obtain rfl : t = t' := Option.some.inj ht'
        simpa using htag _ hmem
      · obtain ⟨rfl, rfl⟩ := Prod.mk.inj h
        exact ⟨rfl, by rintro t ht; cases ht⟩
    · obtain ⟨rfl, rfl⟩ := Prod.mk.inj h
      exact ⟨rfl, by rintro t ht; cases ht⟩
  · rintro ⟨rfl, htag⟩
    cases tag with
    | none =>
      -- what comes next starts with white space or a colon
      have hopen : ∀ inner, rest ≠ '(' :: inner := by
        rintro inner rfl
        obtain ⟨blanks, _, _, hcs, hblank, -⟩ := stale?_eq_some_iff.mp hstale
        cases blanks with
        | nil => exact absurd (List.cons.inj hcs).1 (by decide)
        | cons b bs =>
          have hspace := hblank b (List.mem_cons_self ..)
          rw [← (List.cons.inj hcs).1] at hspace
          exact absurd hspace (by decide)
      rw [tagText, List.nil_append, splitTag.eq_def]
      split
      · exact absurd rfl (hopen _)
      · rfl
    | some t =>
      -- the tag holds no closing bracket, so the first one is its own
      have hclose : splitWhile (· != ')') (t ++ ')' :: rest) = (t, ')' :: rest) := by
        refine splitWhile_append ?_ ?_
        · intro c hc
          have hne : c ≠ ')' := by
            rintro rfl
            exact htag t rfl hc
          simpa using hne
        · intro c hc
          obtain rfl : ')' = c := Option.some.inj hc
          decide
      rw [tagText, List.append_assoc, List.singleton_append, List.cons_append, splitTag]
      rw [hclose]

/-! ## The readers of tokens, clauses and messages -/

/-- A token begins with something solid. -/
theorem startsSolid_of_hasToken {cs token rest : List Char} (h : HasToken cs token rest) :
    StartsSolid cs := by
  obtain ⟨rfl, hne, hsolid, -⟩ := h
  exact startsSolid_append (startsSolid_of_isSolid hsolid) hne

/-- There is a token where something solid stands. -/
theorem exists_hasToken {c : Char} (cs : List Char) (hc : isSpace c = false) :
    ∃ token rest, HasToken (c :: cs) token rest := by
  obtain ⟨happend, hsolid, hrest⟩ :=
    splitWhile_eq_iff.mp (rfl : splitWhile (!isSpace ·) (c :: cs) = (_, _))
  refine ⟨_, _, happend, ?_, ?_, ?_⟩
  · rw [List.takeWhile_cons_of_pos (by rw [hc]; rfl)]
    exact List.cons_ne_nil _ _
  · intro d hd
    simpa using hsolid d hd
  · intro d hd
    simpa using hrest d hd

/-- A token is found where white space ends. -/
theorem token?_eq_some_iff {cs token rest : List Char} :
    token? cs = some (token, rest) ↔
      ∃ blanks cs', cs = blanks ++ cs' ∧ IsBlank blanks ∧ HasToken cs' token rest := by
  have hsplit : ∀ {cs' : List Char}, splitWhile (!isSpace ·) cs' = (token, rest) ↔
      cs' = token ++ rest ∧ IsSolid token ∧ StartsBlank rest := by
    intro cs'
    rw [splitWhile_eq_iff]
    simp [IsSolid, StartsBlank]
  constructor
  · intro h
    -- the white space that is passed over, with what is left of the text
    obtain ⟨blanks, hcs, hblank, -⟩ := trimStart_eq_iff.mp (rfl : trimStart cs = trimStart cs)
    rw [token?] at h
    split at h
    · cases h
    · rename_i token' rest' hne hcut
      obtain ⟨rfl, rfl⟩ := Prod.mk.inj (Option.some.inj h)
      obtain ⟨happend, hsolid, hafter⟩ := hsplit.mp hcut
      -- an empty run is no token
      refine ⟨blanks, trimStart cs, hcs, hblank, happend, ?_, hsolid, hafter⟩
      rintro rfl
      exact hne rfl
  · rintro ⟨blanks, cs', rfl, hblank, htoken⟩
    rw [token?, trimStart_append hblank (startsSolid_of_hasToken htoken)]
    obtain ⟨hcs', hne, hsolid, hafter⟩ := htoken
    rw [hsplit.mpr ⟨hcs', hsolid, hafter⟩]
    cases token with
    | nil => exact absurd rfl hne
    | cons c cs => rfl

/-- A clause is found where the grammar has one. -/
theorem expires?_eq_some_iff {cs token rest : List Char} :
    expires? cs = some (token, rest) ↔ HasClause cs token rest := by
  constructor
  · intro h
    cases cs with
    | nil => cases h
    | cons c cs =>
      rw [expires?] at h
      split at h
      · rename_i hspace
        obtain ⟨after, hword, htoken⟩ := Option.bind_eq_some_iff.mp h
        obtain ⟨expires, htrim, hspells⟩ := dropWord?_eq_some_iff.mp hword
        obtain ⟨blanks₁, rfl, hblank₁, -⟩ := trimStart_eq_iff.mp htrim
        obtain ⟨blanks₂, cs', rfl, hblank₂, htoken⟩ := token?_eq_some_iff.mp htoken
        refine ⟨c :: blanks₁, expires, blanks₂, cs', rfl, List.cons_ne_nil _ _, ?_, hspells,
          hblank₂, htoken⟩
        intro d hd
        rcases List.mem_cons.mp hd with rfl | hmem
        · exact hspace
        · exact hblank₁ d hmem
      · cases h
  · rintro ⟨blanks₁, expires, blanks₂, cs', rfl, hne, hblank₁, hspells, hblank₂, htoken⟩
    -- the reader takes the first blank by itself and passes over the others
    cases blanks₁ with
    | nil => exact absurd rfl hne
    | cons c blanks₁ =>
      have hblank : IsBlank blanks₁ := fun d hd => hblank₁ d (List.mem_cons_of_mem c hd)
      rw [List.cons_append, expires?, if_pos (hblank₁ c (List.mem_cons_self ..)),
        trimStart_append hblank (startsSolid_spelled hspells (by decide)),
        dropWord?_append hspells]
      exact token?_eq_some_iff.mpr ⟨blanks₂, cs', rfl, hblank₂, htoken⟩

/-- The message is the rest as the grammar has it. -/
theorem messageOf_eq_iff {cs message : List Char} :
    messageOf cs = message ↔ HasMessage cs message := by
  have hline : ∀ {cs' line rest : List Char},
      splitWhile (· != '\n') cs' = (line, rest) ↔
        cs' = line ++ rest ∧ '\n' ∉ line ∧ ∀ c ∈ rest.head?, c = '\n' := by
    intro cs' line rest
    rw [splitWhile_eq_iff]
    have hmem : (∀ c ∈ line, (c != '\n') = true) ↔ '\n' ∉ line := by
      constructor
      · intro h hmem
        exact absurd (h _ hmem) (by decide)
      · intro h c hc
        rw [bne_iff_ne]
        rintro rfl
        exact h hc
    rw [hmem]
    simp
  constructor
  · rintro rfl
    obtain ⟨blanks, hcs, hblank, hsolid⟩ := trimStart_eq_iff.mp (rfl : trimStart cs = trimStart cs)
    obtain ⟨happend, hline, hend⟩ := hline.mp (rfl : splitWhile (· != '\n') (trimStart cs) = _)
    refine ⟨blanks, _, _, ?_, hblank, ?_, hline, hend, rfl⟩
    · rw [← happend]
      exact hcs
    · rw [← happend]
      exact hsolid
  · rintro ⟨blanks, line, rest, rfl, hblank, hsolid, hnewline, hend, rfl⟩
    -- the line is the longest run without a line feed, so it is the one that is cut off
    have hcut := hline.mpr ⟨rfl, hnewline, hend⟩
    rw [messageOf, trimStart_append hblank hsolid, (Prod.mk.inj hcut).1]

/-! ## The reader of a whole marker -/

/-- The head of a marker is what the search for keyword, tag and warning word finds. -/
theorem hasHead_iff {cs rest : List Char} {kind : MarkerKind} {tag : Option (List Char)} :
    HasHead cs kind tag rest ↔ ∃ r₁ r₂ blanks,
      keyword? cs = some (kind, r₁) ∧ splitTag r₁ = (tag, r₂) ∧ stale? r₂ = some (blanks ++ rest) ∧
      IsBlank blanks := by
  constructor
  · rintro ⟨keyword, blanks₁, blanks₂, stale, blanks₃, rfl, hkeyword, htag, hblank₁, hblank₂,
      hspells, hblank₃⟩
    have hstale : stale? (blanks₁ ++ ':' :: (blanks₂ ++ (stale ++ (blanks₃ ++ rest))))
        = some (blanks₃ ++ rest) :=
      stale?_eq_some_iff.mpr ⟨blanks₁, blanks₂, stale, rfl, hblank₁, hblank₂, hspells⟩
    exact ⟨_, _, blanks₃, keyword?_eq_some_iff.mpr (dropWord?_append hkeyword),
      (splitTag_eq_iff hstale).mpr ⟨rfl, htag⟩, hstale, hblank₃⟩
  · rintro ⟨r₁, r₂, blanks₃, hkeyword, htag, hstale, hblank₃⟩
    obtain ⟨keyword, rfl, hspelled⟩ := dropWord?_eq_some_iff.mp (keyword?_eq_some_iff.mp hkeyword)
    obtain ⟨rfl, hclosed⟩ := (splitTag_eq_iff hstale).mp htag
    obtain ⟨blanks₁, blanks₂, stale, rfl, hblank₁, hblank₂, hspells⟩ :=
      stale?_eq_some_iff.mp hstale
    exact ⟨keyword, blanks₁, blanks₂, stale, blanks₃, rfl, hspelled, hclosed, hblank₁, hblank₂,
      hspells, hblank₃⟩

/-- The expiry is what the search for a clause finds. -/
theorem hasExpiry_iff {cs rest : List Char} {expire : Option (List Char)} :
    HasExpiry cs expire rest ↔
      (expires? cs = none ∧ expire = none ∧ rest = cs) ∨
      ∃ token, expires? cs = some (token, rest) ∧ expire = some token := by
  cases expire with
  | none =>
    have hnone : expires? cs = none ↔ ¬ ∃ token rest, HasClause cs token rest := by
      rw [Option.eq_none_iff_forall_ne_some]
      constructor
      · rintro h ⟨token, rest, hclause⟩
        exact h (token, rest) (expires?_eq_some_iff.mpr hclause)
      · rintro h ⟨token, rest⟩ hread
        exact h ⟨token, rest, expires?_eq_some_iff.mp hread⟩
    rw [HasExpiry, ← hnone]
    simp
  | some token =>
    rw [HasExpiry, ← expires?_eq_some_iff]
    simp

/-- The reader of a marker finds the parts that the grammar describes, and none where it describes
none. -/
theorem shapeAt?_eq_some_iff {cs : List Char} {s : Shape} :
    shapeAt? cs = some s ↔ HasParts cs s := by
  constructor
  · intro h
    -- each part that is read is one that the grammar has, and the other way round
    simp only [shapeAt?, Option.bind_eq_bind, Option.bind_eq_some_iff, Prod.exists] at h
    obtain ⟨kind, r₁, hkeyword, r₃, hstale, warn, r₄, htoken, hrest⟩ := h
    obtain ⟨blanks, cs', rfl, hblank, hwarn⟩ := token?_eq_some_iff.mp htoken
    have hhead := hasHead_iff.mpr ⟨r₁, _, blanks, hkeyword, rfl, hstale, hblank⟩
    split at hrest
    · rename_i expire rest hexpires
      obtain rfl := Option.some.inj hrest
      exact ⟨_, _, rest, hhead, hwarn, hasExpiry_iff.mpr (.inr ⟨expire, hexpires, rfl⟩),
        messageOf_eq_iff.mp rfl⟩
    · rename_i hexpires
      obtain rfl := Option.some.inj hrest
      exact ⟨_, _, r₄, hhead, hwarn, hasExpiry_iff.mpr (.inl ⟨hexpires, rfl, rfl⟩),
        messageOf_eq_iff.mp rfl⟩
  · rintro ⟨rest₁, rest₂, rest₃, hhead, hwarn, hexpiry, hmessage⟩
    obtain ⟨r₁, r₂, blanks, hkeyword, htag, hstale, hblank⟩ := hasHead_iff.mp hhead
    have htoken := token?_eq_some_iff.mpr ⟨blanks, rest₁, rfl, hblank, hwarn⟩
    obtain ⟨kind, tag, warn, expire, message⟩ := s
    dsimp only at *
    obtain rfl := messageOf_eq_iff.mpr hmessage
    rcases hasExpiry_iff.mp hexpiry with ⟨hexpires, rfl, rfl⟩ | ⟨token, hexpires, rfl⟩
    · simp [shapeAt?, hkeyword, htag, hstale, htoken, hexpires]
    · simp [shapeAt?, hkeyword, htag, hstale, htoken, hexpires]

/-- After the first token the parts of a marker are what their readers find. -/
theorem hasParts_of_hasToken {cs rest₁ rest₂ warn : List Char} {kind : MarkerKind} {tag : Option (List Char)}
    (hhead : HasHead cs kind tag rest₁) (hwarn : HasToken rest₁ warn rest₂) :
    HasParts cs ⟨kind, tag, warn, (expires? rest₂).map Prod.fst,
      messageOf ((expires? rest₂).elim rest₂ Prod.snd)⟩ := by
  refine ⟨rest₁, rest₂, _, hhead, hwarn, hasExpiry_iff.mpr ?_, messageOf_eq_iff.mp rfl⟩
  cases hexpires : expires? rest₂ with
  | none => exact .inl ⟨rfl, rfl, rfl⟩
  | some found => exact .inr ⟨found.1, rfl, rfl⟩

/-- A text starts like a marker, with something after it, exactly if it has the parts of one. -/
theorem exists_hasParts_iff {cs : List Char} :
    (∃ s, HasParts cs s) ↔
      ∃ kind tag c rest, HasHead cs kind tag (c :: rest) ∧ isSpace c = false := by
  constructor
  · rintro ⟨s, rest₁, rest₂, rest₃, hhead, hwarn, -⟩
    have hsolid := startsSolid_of_hasToken hwarn
    obtain ⟨rfl, hne, -⟩ := hwarn
    cases hw : s.warn with
    | nil => exact absurd hw hne
    | cons c cs =>
      rw [hw] at hhead hsolid
      exact ⟨s.kind, s.tag, c, _, hhead, hsolid c rfl⟩
  · rintro ⟨kind, tag, c, rest, hhead, hspace⟩
    obtain ⟨warn, rest₂, hwarn⟩ := exists_hasToken rest hspace
    exact ⟨_, hasParts_of_hasToken hhead hwarn⟩

/-! ## The first marker

`shapeFrom?` carries along whether the character before its text belongs to a word. The positions of the
tail of a text are those of the text less one, so the search is one induction over the text. -/

/-- A position is a start in a text before which `inWord` stands for the character. -/
def IsStartAfter (inWord : Bool) (text : List Char) (i : Nat) : Prop :=
  (match i with
    | 0 => inWord = false
    | j + 1 => ∃ c, text[j]? = some c ∧ isWord c = false) ∧
  ∃ s, HasParts (text.drop i) s

/-- A start outside a word is a start. -/
theorem isStartAfter_false_iff {text : List Char} {i : Nat} :
    IsStartAfter false text i ↔ IsStart text i := by
  cases i with
  | zero => simp [IsStartAfter, IsStart, exists_hasParts_iff, IsOutsideWord]
  | succ j => simp [IsStartAfter, IsStart, exists_hasParts_iff, IsOutsideWord]

/-- A later start is one behind the first character. -/
theorem isStartAfter_succ_iff (inWord : Bool) {c : Char} {cs : List Char} {i : Nat} :
    IsStartAfter inWord (c :: cs) (i + 1) ↔ IsStartAfter (isWord c) cs i := by
  cases i with
  | zero => simp [IsStartAfter]
  | succ j => simp [IsStartAfter]

/-- The first place is a start if it is outside a word and a shape is found there. -/
theorem isStartAfter_zero_iff {inWord : Bool} {cs : List Char} :
    IsStartAfter inWord cs 0 ↔ inWord = false ∧ ∃ s, shapeAt? cs = some s := by
  simp only [IsStartAfter, List.drop_zero, shapeAt?_eq_some_iff]

/-- No marker starts in an empty text. -/
theorem not_isStartAfter_nil {inWord : Bool} {i : Nat} : ¬ IsStartAfter inWord [] i := by
  rintro ⟨-, s, hparts⟩
  rw [List.drop_nil] at hparts
  have hread := shapeAt?_eq_some_iff.mpr hparts
  cases hread

/-- Where no marker starts at once, the least start is one more than in the tail. -/
theorem isLeast_isStartAfter_succ_iff {inWord : Bool} {c : Char} {cs : List Char} {i : Nat}
    (h : ¬ IsStartAfter inWord (c :: cs) 0) :
    IsLeast {i | IsStartAfter inWord (c :: cs) i} (i + 1) ↔
      IsLeast {i | IsStartAfter (isWord c) cs i} i := by
  constructor
  · rintro ⟨hstart, hleast⟩
    refine ⟨(isStartAfter_succ_iff inWord).mp hstart, ?_⟩
    intro j hj
    exact Nat.succ_le_succ_iff.mp (hleast ((isStartAfter_succ_iff inWord).mpr hj))
  · rintro ⟨hstart, hleast⟩
    refine ⟨(isStartAfter_succ_iff inWord).mpr hstart, ?_⟩
    intro j hj
    cases j with
    | zero => exact absurd hj h
    | succ j => exact Nat.succ_le_succ (hleast ((isStartAfter_succ_iff inWord).mp hj))

/-- A shape at the first place is found at once. -/
theorem shapeFrom?_of_start {cs : List Char} {c : Char} {s : Shape}
    (h : shapeAt? (c :: cs) = some s) : shapeFrom? false (c :: cs) = some s := by
  rw [shapeFrom?, if_neg Bool.false_ne_true, h]

/-- Where no shape starts the search goes on. -/
theorem shapeFrom?_of_not_start {inWord : Bool} {cs : List Char} {c : Char}
    (h : ¬ IsStartAfter inWord (c :: cs) 0) :
    shapeFrom? inWord (c :: cs) = shapeFrom? (isWord c) cs := by
  rw [isStartAfter_zero_iff] at h
  rw [shapeFrom?]
  cases inWord with
  | true => rfl
  | false =>
    cases hread : shapeAt? (c :: cs) with
    | none => rfl
    | some s => exact absurd ⟨rfl, s, hread⟩ h

/-- The search stops at the least start and reads the marker there. -/
theorem shapeFrom?_eq_some_iff {inWord : Bool} {cs : List Char} {s : Shape} :
    shapeFrom? inWord cs = some s ↔
      ∃ i, IsLeast {i | IsStartAfter inWord cs i} i ∧ HasParts (cs.drop i) s := by
  -- by induction on the text; the induction hypothesis is used with the character that was passed
  induction cs generalizing inWord with
  | nil =>
    constructor
    · intro h
      cases h
    · rintro ⟨i, ⟨hstart, -⟩, -⟩
      exact absurd hstart not_isStartAfter_nil
  | cons c cs ih =>
    by_cases hstart : IsStartAfter inWord (c :: cs) 0
    · -- the search stops here, and no start is less than zero
      obtain ⟨rfl, t, hread⟩ := isStartAfter_zero_iff.mp hstart
      have hleast : IsLeast {i | IsStartAfter false (c :: cs) i} 0 :=
        ⟨hstart, fun i _ => Nat.zero_le i⟩
      rw [shapeFrom?_of_start hread]
      constructor
      · rintro h
        obtain rfl := Option.some.inj h
        exact ⟨0, hleast, shapeAt?_eq_some_iff.mp hread⟩
      · rintro ⟨i, hi, hparts⟩
        obtain rfl := hi.unique hleast
        exact hread.symm.trans (shapeAt?_eq_some_iff.mpr hparts)
    · -- the search goes on in the tail, whose positions are one less
      rw [shapeFrom?_of_not_start hstart, ih]
      constructor
      · rintro ⟨i, hi, hparts⟩
        exact ⟨i + 1, (isLeast_isStartAfter_succ_iff hstart).mpr hi, hparts⟩
      · rintro ⟨i, hi, hparts⟩
        cases i with
        | zero => exact absurd hi.1 hstart
        | succ i => exact ⟨i, (isLeast_isStartAfter_succ_iff hstart).mp hi, hparts⟩

/-- The search finds nothing exactly where no marker starts. -/
theorem shapeFrom?_eq_none_iff {inWord : Bool} {cs : List Char} :
    shapeFrom? inWord cs = none ↔ ¬ ∃ i, IsStartAfter inWord cs i := by
  rw [← not_iff_not, not_not, ← ne_eq, Option.ne_none_iff_exists']
  constructor
  · rintro ⟨s, h⟩
    obtain ⟨i, ⟨hstart, -⟩, -⟩ := shapeFrom?_eq_some_iff.mp h
    exact ⟨i, hstart⟩
  · intro h
    -- starts are not decided anywhere, so the least of them is taken classically
    classical
    have hleast : IsLeast {i | IsStartAfter inWord cs i} (Nat.find h) :=
      ⟨Nat.find_spec h, fun i hi => Nat.find_min' h hi⟩
    obtain ⟨s, hparts⟩ := (Nat.find_spec h).2
    exact ⟨s, shapeFrom?_eq_some_iff.mpr ⟨_, hleast, hparts⟩⟩

/-! ## The text of a comment -/

/-- The text of a comment is what its reader takes. -/
theorem isBody_iff {raw text : List Char} : IsBody raw text ↔ text = body raw := by
  constructor
  · rintro ⟨blanks, hblank, rfl | ⟨rfl, hsolid, hopen⟩⟩
    · have htrim : trimEnd (text ++ (['*', '/'] ++ blanks)) = text ++ ['*', '/'] := by
        refine trimEnd_eq_iff.mpr ⟨blanks, (List.append_assoc ..).symm, hblank, ?_⟩
        intro c hc
        rw [List.getLast?_append] at hc
        obtain rfl : '/' = c := Option.some.inj hc
        decide
      rw [body, htrim, List.reverse_append]
      exact (List.reverse_reverse text).symm
    · have htrim : trimEnd (text ++ blanks) = text :=
        trimEnd_eq_iff.mpr ⟨blanks, rfl, hblank, hsolid⟩
      rw [body, htrim]
      split
      · rename_i rest hclose
        -- the reader looks at the reversed text, so its rest is the front of the text
        refine absurd ⟨rest.reverse, ?_⟩ hopen
        rw [List.reverse_eq_iff.mp hclose]
        simp
      · rfl
  · rintro rfl
    obtain ⟨blanks, hraw, hblank, hsolid⟩ := trimEnd_eq_iff.mp (rfl : trimEnd raw = trimEnd raw)
    refine ⟨blanks, hblank, ?_⟩
    rw [body]
    split
    · rename_i rest hclose
      left
      have htrim : trimEnd raw = rest.reverse ++ ['*', '/'] := by
        rw [List.reverse_eq_iff.mp hclose]
        simp
      rw [← List.append_assoc, ← htrim]
      exact hraw
    · rename_i hopen
      right
      refine ⟨hraw, hsolid, ?_⟩
      rintro ⟨rest, hclose⟩
      refine hopen rest.reverse ?_
      rw [← hclose, List.reverse_append]
      rfl

/-! ## The marker of a comment -/

/-- A token is a date along a pattern. -/
def IsDated (p : DatePattern) (token : List Char) : Prop :=
  ∃ d, p.parse (String.ofList token) = .ok d

/-- A marker is made of given parts, with its date tokens read along a pattern. A tag counts without the
white space around it, and not at all if nothing else is left of it. -/
def IsMadeOf (p : DatePattern) (s : Shape) (m : Marker) : Prop :=
  m.kind = s.kind ∧
  m.tag = ((s.tag.map trim).filter (· ≠ [])).map String.ofList ∧
  p.parse (String.ofList s.warn) = .ok m.warnDate ∧
  Option.Rel (fun token d => p.parse (String.ofList token) = .ok d) s.expire m.expireDate ∧
  m.message = String.ofList s.message

/-- A token that is no date is reported with the pattern. -/
theorem parse_of_not_isDated {p : DatePattern} {token : List Char} (h : ¬ IsDated p token) :
    p.parse (String.ofList token) = .error ⟨String.ofList token, p.text⟩ := by
  rw [DatePattern.parse]
  split
  · rename_i d hread
    refine absurd ⟨d, ?_⟩ h
    rw [DatePattern.parse, hread]
  · rfl

/-- A tag is what is left of it without white space, if there is anything. -/
theorem tagOf_eq (tag : Option (List Char)) :
    tagOf tag = ((tag.map trim).filter (· ≠ [])).map String.ofList := by
  rw [tagOf]
  cases tag with
  | none => rfl
  | some t =>
    cases h : trim t with
    | nil => simp [h]
    | cons c cs => simp [h]

/-- A first date that is none is reported. -/
theorem ofShape_of_not_isDated {p : DatePattern} {s : Shape} (h : ¬ IsDated p s.warn) :
    ofShape p s = .error ⟨String.ofList s.warn, p.text⟩ := by
  rw [ofShape, parse_of_not_isDated h]
  rfl

/-- A second date that is none is reported if the first one is a date. -/
theorem ofShape_of_not_isDated_expire {p : DatePattern} {s : Shape} {token : List Char}
    (hwarn : IsDated p s.warn) (hexpire : s.expire = some token) (h : ¬ IsDated p token) :
    ofShape p s = .error ⟨String.ofList token, p.text⟩ := by
  obtain ⟨d, hd⟩ := hwarn
  rw [ofShape, hd, hexpire]
  change ((p.parse (String.ofList token)).map some).bind _ = _
  rw [parse_of_not_isDated h]
  rfl

/-- A shape makes its marker. -/
theorem ofShape_of_isMadeOf {p : DatePattern} {s : Shape} {m : Marker} (h : IsMadeOf p s m) :
    ofShape p s = .ok m := by
  obtain ⟨kind, tag, warnDate, expireDate, message⟩ := m
  obtain ⟨rfl, htag, hwarn, hexpire, rfl⟩ := h
  dsimp only at htag hwarn hexpire
  rw [htag, ← tagOf_eq, ofShape, hwarn]
  cases hs : s.expire with
  | none =>
    rw [hs] at hexpire
    cases hexpire
    rfl
  | some token =>
    rw [hs] at hexpire
    cases hexpire with
    | some hd =>
      change ((p.parse (String.ofList token)).map some).bind _ = _
      rw [hd]
      rfl

/-- The tokens are read one after the other: the first that is no date is the error, and where both are
dates there is a marker. -/
theorem ofShape_cases (p : DatePattern) (s : Shape) :
    (¬ IsDated p s.warn ∧ ofShape p s = .error ⟨String.ofList s.warn, p.text⟩) ∨
    (IsDated p s.warn ∧ ∃ token, s.expire = some token ∧ ¬ IsDated p token ∧
      ofShape p s = .error ⟨String.ofList token, p.text⟩) ∨
    ∃ m, IsMadeOf p s m ∧ ofShape p s = .ok m := by
  by_cases hwarn : IsDated p s.warn
  · right
    -- a marker is made as soon as the second token is read, whether there is one or not
    have hmade : ∀ expireDate,
        Option.Rel (fun token d => p.parse (String.ofList token) = .ok d) s.expire expireDate →
        ∃ m, IsMadeOf p s m ∧ ofShape p s = .ok m := by
      intro expireDate hrel
      obtain ⟨d, hd⟩ := hwarn
      have h : IsMadeOf p s ⟨s.kind, ((s.tag.map trim).filter (· ≠ [])).map String.ofList, d,
          expireDate, String.ofList s.message⟩ := ⟨rfl, rfl, hd, hrel, rfl⟩
      exact ⟨_, h, ofShape_of_isMadeOf h⟩
    cases hexpire : s.expire with
    | none =>
      right
      exact hmade none (hexpire ▸ .none)
    | some token =>
      by_cases htoken : IsDated p token
      · right
        obtain ⟨d, hd⟩ := htoken
        exact hmade (some d) (hexpire ▸ .some hd)
      · left
        exact ⟨hwarn, token, rfl, htoken, ofShape_of_not_isDated_expire hwarn hexpire htoken⟩
  · left
    exact ⟨hwarn, ofShape_of_not_isDated hwarn⟩

/-- The marker of a shape is the one that is made of it. -/
theorem ofShape_eq_ok_iff {p : DatePattern} {s : Shape} {m : Marker} :
    ofShape p s = .ok m ↔ IsMadeOf p s m := by
  constructor
  · intro h
    rcases ofShape_cases p s with ⟨-, he⟩ | ⟨-, token, -, -, he⟩ | ⟨m', hm, he⟩
    · rw [he] at h
      cases h
    · rw [he] at h
      cases h
    · rw [he] at h
      obtain rfl := Except.ok.inj h
      exact hm
  · exact ofShape_of_isMadeOf

/-- The first token is to blame exactly if it is no date: the second is blamed only where the first is
one, and then differs from it. -/
theorem ofShape_eq_error_warn_iff {p : DatePattern} {s : Shape} :
    ofShape p s = .error ⟨String.ofList s.warn, p.text⟩ ↔ ¬ IsDated p s.warn := by
  constructor
  · intro h hwarn
    rcases ofShape_cases p s with ⟨hnot, -⟩ | ⟨-, token, -, hnot, he⟩ | ⟨m, -, he⟩
    · exact hnot hwarn
    · rw [he] at h
      -- both tokens would be the same text, which is a date once and none the other time
      have hsame : String.ofList token = String.ofList s.warn :=
        congrArg FormatError.input (Except.error.inj h)
      rw [String.ofList_inj.mp hsame] at hnot
      exact hnot hwarn
    · rw [he] at h
      cases h
  · exact ofShape_of_not_isDated

/-- The second date is reported exactly if it is none. -/
theorem ofShape_eq_error_expire_iff {p : DatePattern} {s : Shape} {token : List Char}
    (hwarn : IsDated p s.warn) (hexpire : s.expire = some token) :
    ofShape p s = .error ⟨String.ofList token, p.text⟩ ↔ ¬ IsDated p token := by
  constructor
  · rintro h ⟨d, hd⟩
    rcases ofShape_cases p s with ⟨hnot, -⟩ | ⟨-, token', hexpire', hnot, -⟩ | ⟨m, -, he⟩
    · exact hnot hwarn
    · obtain rfl : token = token' := Option.some.inj (hexpire.symm.trans hexpire')
      exact hnot ⟨d, hd⟩
    · rw [he] at h
      cases h
  · exact ofShape_of_not_isDated_expire hwarn hexpire

/-- A text with a shape is the marker of that shape, or what is wrong with it. -/
theorem parse_of_shape? {p : DatePattern} {raw : String} {s : Shape}
    (h : shape? raw.toList = some s) : parse p raw = (ofShape p s).map some := by
  cases hmake : ofShape p s with
  | ok m => simp [parse, h, hmake, Except.map]
  | error e => simp [parse, h, hmake, Except.map]

/-- A text is no marker if and only if it has no shape. -/
theorem parse_eq_none_iff {p : DatePattern} {raw : String} :
    parse p raw = .ok none ↔ shape? raw.toList = none := by
  cases h : shape? raw.toList with
  | none => simp [parse, h]
  | some s =>
    rw [parse_of_shape? h]
    cases ofShape p s with
    | ok m => simp [Except.map]
    | error e => simp [Except.map]

/-- **Markers are read by their grammar.** A comment has no marker exactly if none starts in its text;
otherwise the least start counts, and the cut of the text from there on into parts is unique. The first
date token that is no date is the error, and where the tokens are dates the marker is the one made of
the parts. -/
theorem parse_accepts_exactly_grammar (p : DatePattern) (raw : String) :
    ∃ text, (∀ text', IsBody raw.toList text' ↔ text' = text) ∧
      (parse p raw = .ok none ↔ ¬ ∃ i, IsStart text i) ∧
      ∀ i, IsLeast {i | IsStart text i} i →
        ∃ s, (∀ s', HasParts (text.drop i) s' ↔ s' = s) ∧
          (parse p raw = .error ⟨String.ofList s.warn, p.text⟩ ↔ ¬ IsDated p s.warn) ∧
          (IsDated p s.warn → ∀ token, s.expire = some token →
            (parse p raw = .error ⟨String.ofList token, p.text⟩ ↔ ¬ IsDated p token)) ∧
          ∀ m, parse p raw = .ok (some m) ↔ IsMadeOf p s m := by
  -- the search begins as if behind a character that belongs to no word
  have hsearch : ∀ {i}, IsStartAfter false (body raw.toList) i ↔ IsStart (body raw.toList) i :=
    isStartAfter_false_iff
  refine ⟨body raw.toList, fun text' => isBody_iff, ?_, ?_⟩
  · rw [parse_eq_none_iff, shape?, shapeFrom?_eq_none_iff]
    simp only [hsearch]
  · intro i hi
    obtain ⟨s, hparts⟩ := exists_hasParts_iff.mpr hi.1.2
    have hshape : shape? raw.toList = some s := by
      refine shapeFrom?_eq_some_iff.mpr ⟨i, ?_, hparts⟩
      simp only [hsearch]
      exact hi
    -- from here on only the date tokens matter
    have hparse : ∀ r, parse p raw = r ↔ (ofShape p s).map some = r := by
      intro r
      rw [parse_of_shape? hshape]
    refine ⟨s, ?_, ?_, ?_, ?_⟩
    · intro s'
      rw [← shapeAt?_eq_some_iff, shapeAt?_eq_some_iff.mpr hparts, Option.some_inj, eq_comm]
    · rw [hparse, ← ofShape_eq_error_warn_iff]
      cases ofShape p s <;> simp [Except.map]
    · intro hwarn token hexpire
      rw [hparse, ← ofShape_eq_error_expire_iff hwarn hexpire]
      cases ofShape p s <;> simp [Except.map]
    · intro m
      rw [hparse, ← ofShape_eq_ok_iff]
      cases ofShape p s <;> simp [Except.map]

end Marker

end Overdue
