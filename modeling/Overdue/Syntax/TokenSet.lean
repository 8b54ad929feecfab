/-
Sets of tokens.

The tables of a grammar are made of sets of tokens, which are joined and compared all the time. Four
machine words hold a set of tokens numbered below 256, which is more than a grammar has, so that
every operation takes a few instructions.
-/

set_option autoImplicit false

namespace Overdue.Syntax

/-- A set of token numbers below 256: bit `i` of word `w` tells whether token `64 * w + i` is in the
set. -/
structure TokenSet where
  word0 : UInt64
  word1 : UInt64
  word2 : UInt64
  word3 : UInt64
deriving DecidableEq, Inhabited

namespace TokenSet

/-- The set without tokens. -/
def empty : TokenSet := ⟨0, 0, 0, 0⟩

/-- The set of one token. -/
def singleton (token : Nat) : TokenSet :=
  let bit : UInt64 := 1 <<< (token % 64).toUInt64
  if token < 64 then ⟨bit, 0, 0, 0⟩
  else if token < 128 then ⟨0, bit, 0, 0⟩
  else if token < 192 then ⟨0, 0, bit, 0⟩
  else if token < 256 then ⟨0, 0, 0, bit⟩
  else empty

/-- The tokens of either set. -/
def union (a b : TokenSet) : TokenSet :=
  ⟨a.word0 ||| b.word0, a.word1 ||| b.word1, a.word2 ||| b.word2, a.word3 ||| b.word3⟩

/-- The tokens of both sets. -/
def inter (a b : TokenSet) : TokenSet :=
  ⟨a.word0 &&& b.word0, a.word1 &&& b.word1, a.word2 &&& b.word2, a.word3 &&& b.word3⟩

/-- The tokens of the first set that are not in the second. -/
def diff (a b : TokenSet) : TokenSet :=
  ⟨a.word0 &&& ~~~b.word0, a.word1 &&& ~~~b.word1, a.word2 &&& ~~~b.word2, a.word3 &&& ~~~b.word3⟩

/-- The word that tells about a token. -/
def wordOf (s : TokenSet) (token : Nat) : UInt64 :=
  if token < 64 then s.word0
  else if token < 128 then s.word1
  else if token < 192 then s.word2
  else if token < 256 then s.word3
  else 0

/-- Whether a token is in the set. -/
def contains (s : TokenSet) (token : Nat) : Bool :=
  (s.wordOf token >>> (token % 64).toUInt64) &&& 1 != 0

/-- Whether the set has no tokens. -/
def isEmpty (s : TokenSet) : Bool :=
  s.word0 == 0 && s.word1 == 0 && s.word2 == 0 && s.word3 == 0

/-- Whether two sets have a token in common. -/
def meets (a b : TokenSet) : Bool :=
  a.word0 &&& b.word0 != 0 || a.word1 &&& b.word1 != 0 || a.word2 &&& b.word2 != 0 ||
    a.word3 &&& b.word3 != 0

/-- Adds a token. -/
def insert (s : TokenSet) (token : Nat) : TokenSet := s.union (singleton token)

/-- The set of the tokens of a list. -/
def ofList (tokens : List Nat) : TokenSet := tokens.foldl insert empty

/-- Goes through the tokens of a word, the smallest one first, and stops when no bits are left;
`token` is the number of the lowest bit. -/
def foldWord {α : Type} (f : α → Nat → α) : Nat → UInt64 → Nat → α → α
  | 0, _, _, acc => acc
  | fuel + 1, bits, token, acc =>
    if bits = 0 then acc
    else if bits &&& 0xff = 0 then foldWord f fuel (bits >>> 8) (token + 8) acc
    else
      foldWord f fuel (bits >>> 1) (token + 1) (if bits &&& 1 = 0 then acc else f acc token)

/-- Goes through the tokens of a set in increasing order. -/
def fold {α : Type} (f : α → Nat → α) (acc : α) (s : TokenSet) : α :=
  let acc := foldWord f 65 s.word0 0 acc
  let acc := foldWord f 65 s.word1 64 acc
  let acc := foldWord f 65 s.word2 128 acc
  foldWord f 65 s.word3 192 acc

/-- The tokens of a set in increasing order. -/
def toList (s : TokenSet) : List Nat := (s.fold (fun acc t => t :: acc) []).reverse

/-- Whether a test holds for some token of a set. -/
def any (s : TokenSet) (p : Nat → Bool) : Bool := s.fold (fun found t => found || p t) false

/-- A hash that mixes all words. -/
protected def hash (s : TokenSet) : UInt64 :=
  mixHash (mixHash s.word0 s.word1) (mixHash s.word2 s.word3)

instance : Hashable TokenSet := ⟨TokenSet.hash⟩

/-! ## Membership -/

@[simp] theorem contains_empty (t : Nat) : empty.contains t = false := by
  simp [contains, wordOf, empty]

/-- A bit of a union is the disjunction of the bits. -/
theorem bit_or (x y k : UInt64) :
    ((x ||| y) >>> k &&& 1 != 0) = ((x >>> k &&& 1 != 0) || (y >>> k &&& 1 != 0)) := by
  have h : ((x ||| y) >>> k) &&& 1 = (x >>> k &&& 1) ||| (y >>> k &&& 1) := by
    apply UInt64.toBitVec_inj.1
    apply BitVec.eq_of_getLsbD_eq
    intro i hi
    simp [Bool.and_or_distrib_right]
  rw [h, Bool.eq_iff_iff]
  simp only [bne_iff_ne, ne_eq, UInt64.or_eq_zero_iff, Bool.or_eq_true]
  exact Decidable.not_and_iff_not_or_not

theorem wordOf_union (a b : TokenSet) (t : Nat) :
    (a.union b).wordOf t = a.wordOf t ||| b.wordOf t := by
  unfold wordOf union
  split <;> try split <;> try split <;> try split
  all_goals simp

@[simp] theorem contains_union (a b : TokenSet) (t : Nat) :
    (a.union b).contains t = (a.contains t || b.contains t) := by
  simp only [contains, wordOf_union, bit_or]

end TokenSet

end Overdue.Syntax
