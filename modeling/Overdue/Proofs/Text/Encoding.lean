/-
Characters and their bytes.

A basic character is a byte, and that byte stands for nothing else: the bytes of other characters are all beyond the
basic ones. So what is done to bytes at slashes and dots is done to characters as well (`count_encode`). The bytes of
characters show these characters again (`decode_encode`), whence different texts have different bytes. Of bytes
that are no text this much can be said: a basic character is shown exactly where its byte stands
(`mem_decode_iff`).
-/
import Mathlib.Data.List.Basic
import Overdue.RawText

set_option autoImplicit false

namespace Overdue

namespace Text

/-! ## Bytes of characters -/

/-- A character with a byte of its own. -/
def IsBasic (c : Char) : Prop := c.toNat < 0x80

instance (c : Char) : Decidable (IsBasic c) := inferInstanceAs (Decidable (_ < _))

/-- The byte of a basic character. -/
def byteOf (c : Char) : UInt8 := UInt8.ofNat c.toNat

theorem encode_append (cs ds : List Char) : encode (cs ++ ds) = encode cs ++ encode ds := List.flatMap_append

theorem encode_cons (c : Char) (cs : List Char) : encode (c :: cs) = String.utf8EncodeChar c ++ encode cs := rfl

/-- A basic character is one byte. -/
theorem utf8EncodeChar_of_isBasic {c : Char} (h : IsBasic c) : String.utf8EncodeChar c = [byteOf c] :=
  if_pos (Nat.le_of_lt_succ h)

/-- The byte of a basic character is its number. -/
theorem toNat_byteOf {c : Char} (h : IsBasic c) : (byteOf c).toNat = c.toNat := by
  have hlt : c.toNat < 0x80 := h
  rw [byteOf, UInt8.toNat_ofNat', Nat.mod_eq_of_lt (by omega)]

theorem byteOf_inj {c d : Char} (hc : IsBasic c) (hd : IsBasic d) : byteOf c = byteOf d ↔ c = d := by
  rw [← UInt8.toNat_inj, toNat_byteOf hc, toNat_byteOf hd, Char.toNat_inj]

/-- Every character has at least one byte. -/
theorem utf8EncodeChar_ne_nil (c : Char) : String.utf8EncodeChar c ≠ [] := by
  intro hnil
  have hlength := congrArg List.length hnil
  rw [String.length_utf8EncodeChar] at hlength
  exact absurd hlength (Nat.ne_of_gt c.utf8Size_pos)

/-- A character that is not basic has no basic byte. -/
theorem le_of_mem_utf8EncodeChar {c : Char} (h : ¬ IsBasic c) {b : UInt8} (hb : b ∈ String.utf8EncodeChar c) :
    0x80 ≤ b.toNat := by
  have hlarge : ¬ c.val.toNat ≤ 0x7f := fun hle => h (Nat.lt_succ_of_le hle)
  rw [String.utf8EncodeChar, if_neg hlarge] at hb
  split at hb
  · simp only [List.mem_cons, List.not_mem_nil, or_false] at hb
    rcases hb with rfl | rfl <;> rw [UInt8.toNat_ofNat'] <;> omega
  · split at hb
    · simp only [List.mem_cons, List.not_mem_nil, or_false] at hb
      rcases hb with rfl | rfl | rfl <;> rw [UInt8.toNat_ofNat'] <;> omega
    · simp only [List.mem_cons, List.not_mem_nil, or_false] at hb
      rcases hb with rfl | rfl | rfl | rfl <;> rw [UInt8.toNat_ofNat'] <;> omega

/-- The byte of a basic character is among the bytes of no other character. -/
theorem byteOf_mem_utf8EncodeChar_iff {c d : Char} (hc : IsBasic c) :
    byteOf c ∈ String.utf8EncodeChar d ↔ c = d := by
  have hbyte : (byteOf c).toNat < 0x80 := by
    rw [toNat_byteOf hc]
    exact hc
  by_cases hd : IsBasic d
  · rw [utf8EncodeChar_of_isBasic hd, List.mem_singleton, byteOf_inj hc hd]
  · refine iff_of_false (fun h => ?_) (fun h => hd (h ▸ hc))
    exact absurd (le_of_mem_utf8EncodeChar hd h) (Nat.not_le.mpr hbyte)

/-- Among the bytes of characters there is that of a basic character as often as the character itself. -/
theorem count_encode {c : Char} (hc : IsBasic c) (cs : List Char) :
    (encode cs).count (byteOf c) = cs.count c := by
  induction cs with
  | nil => rfl
  | cons d cs ih =>
    rw [encode_cons, List.count_append, ih, List.count_cons, Nat.add_comm]
    congr 1
    by_cases hd : c = d
    · subst hd
      simp [utf8EncodeChar_of_isBasic hc]
    · rw [List.count_eq_zero.mpr (mt (byteOf_mem_utf8EncodeChar_iff hc).mp hd)]
      simp [Ne.symm hd]

/-- The byte of a basic character is in the encoding of a text where the character is in the text. -/
theorem byteOf_mem_encode_iff {c : Char} (hc : IsBasic c) {cs : List Char} : byteOf c ∈ encode cs ↔ c ∈ cs := by
  rw [← List.count_pos_iff, count_encode hc, List.count_pos_iff]

/-- Characters start with a basic one if their bytes start with its byte. -/
theorem head?_encode_eq_byteOf_iff {c : Char} (hc : IsBasic c) {cs : List Char} :
    (encode cs).head? = some (byteOf c) ↔ cs.head? = some c := by
  cases cs with
  | nil => exact iff_of_false nofun nofun
  | cons d cs =>
    rw [encode_cons, List.head?_cons, Option.some_inj]
    by_cases hd : IsBasic d
    · rw [utf8EncodeChar_of_isBasic hd, List.singleton_append, List.head?_cons, Option.some_inj, byteOf_inj hd hc]
    · refine iff_of_false (fun h => ?_) (fun h => hd (h ▸ hc))
      have hhead : byteOf c ∈ String.utf8EncodeChar d := by
        refine List.mem_of_head? ?_
        rwa [List.head?_append_of_ne_nil _ (utf8EncodeChar_ne_nil d)] at h
      exact hd ((byteOf_mem_utf8EncodeChar_iff hc).mp hhead ▸ hc)

/-- Texts with another one between them are encoded so. -/
theorem encode_intercalate (separator : List Char) (pieces : List (List Char)) :
    encode (separator.intercalate pieces) = (encode separator).intercalate (pieces.map encode) := by
  induction pieces with
  | nil => rfl
  | cons piece pieces ih =>
    cases pieces with
    | nil => simp
    | cons next pieces =>
      simp only [List.map_cons] at ih ⊢
      rw [List.intercalate_cons_cons, encode_append, encode_append, ih, List.intercalate_cons_cons]

theorem encode_eq_nil_iff {cs : List Char} : encode cs = [] ↔ cs = [] := by
  cases cs with
  | nil => exact iff_of_true rfl rfl
  | cons c cs =>
    refine iff_of_false (fun h => ?_) (List.cons_ne_nil _ _)
    exact utf8EncodeChar_ne_nil c (List.append_eq_nil_iff.mp ((encode_cons c cs).symm.trans h)).1

/-! ## Characters that bytes show -/

section Lead

variable {n : Nat}

theorem ofNat_lt_iff {k : Nat} (hn : n < 256) (hk : k < 256) : UInt8.ofNat n < UInt8.ofNat k ↔ n < k := by
  rw [UInt8.lt_iff_toNat_lt, UInt8.toNat_ofNat', UInt8.toNat_ofNat', Nat.mod_eq_of_lt hn, Nat.mod_eq_of_lt hk]

theorem ofNat_le_iff {k : Nat} (hn : n < 256) (hk : k < 256) : UInt8.ofNat n ≤ UInt8.ofNat k ↔ n ≤ k := by
  rw [UInt8.le_iff_toNat_le, UInt8.toNat_ofNat', UInt8.toNat_ofNat', Nat.mod_eq_of_lt hn, Nat.mod_eq_of_lt hk]

theorem ofNat_eq_iff {k : Nat} (hn : n < 256) (hk : k < 256) : UInt8.ofNat n = UInt8.ofNat k ↔ n = k := by
  rw [← UInt8.toNat_inj, UInt8.toNat_ofNat', UInt8.toNat_ofNat', Nat.mod_eq_of_lt hn, Nat.mod_eq_of_lt hk]

theorem ite_ofNat (p : Prop) [Decidable p] (k l : Nat) :
    (if p then UInt8.ofNat k else UInt8.ofNat l) = UInt8.ofNat (if p then k else l) :=
  (apply_ite UInt8.ofNat p k l).symm

/-- A byte that goes on with a character, to its end or with more bytes to come. -/
theorem decodeFrom_continue {p : Begun} {low high : Nat} (hlow : p.low = UInt8.ofNat low)
    (hhigh : p.high = UInt8.ofNat high) (hn : low ≤ n ∧ n ≤ high) (hlimit : high < 256) (rest : List UInt8) :
    decodeFrom (some p) (UInt8.ofNat n :: rest) =
      match p.missing with
      | 0 => Char.ofNat (64 * p.value + (n - 0x80)) :: decodeFrom none rest
      | missing + 1 => decodeFrom (some ⟨missing, 0x80, 0xbf, 64 * p.value + (n - 0x80)⟩) rest := by
  have hbounds : p.low ≤ UInt8.ofNat n ∧ UInt8.ofNat n ≤ p.high := by
    rw [hlow, hhigh, ofNat_le_iff (by omega) (by omega), ofNat_le_iff (by omega) (by omega)]
    exact hn
  have hvalue : (UInt8.ofNat n).toNat = n := by
    rw [UInt8.toNat_ofNat', Nat.mod_eq_of_lt (by omega)]
  cases hmissing : p.missing with
  | zero => simp only [decodeFrom, if_pos hbounds, hvalue, hmissing]
  | succ missing => simp only [decodeFrom, if_pos hbounds, hvalue, hmissing]

/-- A byte that goes on with a character and is bound by nothing but that. -/
theorem decodeFrom_later {missing value k : Nat} (hk : k < 0x40) (rest : List UInt8) :
    decodeFrom (some ⟨missing, 0x80, 0xbf, value⟩) (UInt8.ofNat (k + 0x80) :: rest) =
      match missing with
      | 0 => Char.ofNat (64 * value + k) :: decodeFrom none rest
      | missing + 1 => decodeFrom (some ⟨missing, 0x80, 0xbf, 64 * value + k⟩) rest := by
  have hlow : (0x80 : UInt8) = UInt8.ofNat 0x80 := rfl
  have hhigh : (0xbf : UInt8) = UInt8.ofNat 0xbf := rfl
  rw [decodeFrom_continue hlow hhigh (by omega) (by decide), Nat.add_sub_cancel]

/-- What the first byte of a character says, by its number. -/
theorem lead_ofNat (hn : n < 256) :
    lead (UInt8.ofNat n) =
      if n < 0x80 then ([Char.ofNat n], none)
      else if n < 0xc2 then ([replacement], none)
      else if n < 0xe0 then ([], some ⟨0, 0x80, 0xbf, n - 0xc0⟩)
      else if n < 0xf0 then
        ([], some ⟨1, if n = 0xe0 then 0xa0 else 0x80, if n = 0xed then 0x9f else 0xbf, n - 0xe0⟩)
      else if n < 0xf5 then
        ([], some ⟨2, if n = 0xf0 then 0x90 else 0x80, if n = 0xf4 then 0x8f else 0xbf, n - 0xf0⟩)
      else ([replacement], none) := by
  have hvalue : (UInt8.ofNat n).toNat = n := by
    rw [UInt8.toNat_ofNat', Nat.mod_eq_of_lt hn]
  have hlt (k : Nat) (hk : k < 256) : UInt8.ofNat n < OfNat.ofNat k ↔ n < k := ofNat_lt_iff hn hk
  have heq (k : Nat) (hk : k < 256) : UInt8.ofNat n = OfNat.ofNat k ↔ n = k := ofNat_eq_iff hn hk
  rw [lead, hvalue]
  simp only [hlt 0x80 (by decide), hlt 0xc2 (by decide), hlt 0xe0 (by decide), hlt 0xf0 (by decide),
    hlt 0xf5 (by decide), heq 0xe0 (by decide), heq 0xed (by decide), heq 0xf0 (by decide),
    heq 0xf4 (by decide)]

theorem decodeFrom_twoBytes {v : Nat} (hv : 0x80 ≤ v ∧ v < 0x800) (rest : List UInt8) :
    decodeFrom none (UInt8.ofNat (v / 64 % 0x20 + 0xc0) :: UInt8.ofNat (v % 0x40 + 0x80) :: rest) =
      Char.ofNat v :: decodeFrom none rest := by
  rw [decodeFrom, lead_ofNat (by omega), if_neg (by omega), if_neg (by omega), if_pos (by omega), List.nil_append,
    decodeFrom_later (by omega), show 64 * (v / 64 % 0x20 + 0xc0 - 0xc0) + v % 0x40 = v by omega]

/-- The bound on the second byte leaves out the numbers that are no character's. -/
theorem decodeFrom_threeBytes {v : Nat} (hv : 0x800 ≤ v ∧ v < 0x10000) (hvalid : v < 0xd800 ∨ 0xdfff < v)
    (rest : List UInt8) :
    decodeFrom none (UInt8.ofNat (v / 4096 % 0x10 + 0xe0) :: UInt8.ofNat (v / 64 % 0x40 + 0x80) ::
      UInt8.ofNat (v % 0x40 + 0x80) :: rest) = Char.ofNat v :: decodeFrom none rest := by
  rw [decodeFrom, lead_ofNat (by omega), if_neg (by omega), if_neg (by omega), if_neg (by omega), if_pos (by omega),
    List.nil_append, decodeFrom_continue (ite_ofNat _ _ _) (ite_ofNat _ _ _) (by constructor <;> split <;> omega)
      (by split <;> omega)]
  dsimp only
  rw [decodeFrom_later (by omega), show 64 * (64 * (v / 4096 % 0x10 + 0xe0 - 0xe0) +
    (v / 64 % 0x40 + 0x80 - 0x80)) + v % 0x40 = v by omega]

theorem decodeFrom_fourBytes {v : Nat} (hv : 0x10000 ≤ v ∧ v < 0x110000) (rest : List UInt8) :
    decodeFrom none (UInt8.ofNat (v / 262144 % 0x08 + 0xf0) :: UInt8.ofNat (v / 4096 % 0x40 + 0x80) ::
      UInt8.ofNat (v / 64 % 0x40 + 0x80) :: UInt8.ofNat (v % 0x40 + 0x80) :: rest) =
      Char.ofNat v :: decodeFrom none rest := by
  rw [decodeFrom, lead_ofNat (by omega), if_neg (by omega), if_neg (by omega), if_neg (by omega), if_neg (by omega),
    if_pos (by omega), List.nil_append, decodeFrom_continue (ite_ofNat _ _ _) (ite_ofNat _ _ _)
      (by constructor <;> split <;> omega) (by split <;> omega)]
  dsimp only
  rw [decodeFrom_later (by omega)]
  dsimp only
  rw [decodeFrom_later (by omega), show 64 * (64 * (64 * (v / 262144 % 0x08 + 0xf0 - 0xf0) +
    (v / 4096 % 0x40 + 0x80 - 0x80)) + v / 64 % 0x40) + v % 0x40 = v by omega]

/-- The bytes of a character show the character. -/
theorem decodeFrom_utf8EncodeChar (c : Char) (rest : List UInt8) :
    decodeFrom none (String.utf8EncodeChar c ++ rest) = c :: decodeFrom none rest := by
  have hvalid : c.val.toNat < 0xd800 ∨ 0xdfff < c.val.toNat ∧ c.val.toNat < 0x110000 := c.valid
  have hnumber : Char.ofNat c.val.toNat = c := c.ofNat_toNat
  generalize hv : c.val.toNat = v at hvalid hnumber
  suffices h : decodeFrom none (String.utf8EncodeChar c ++ rest) = Char.ofNat v :: decodeFrom none rest by
    rw [h, hnumber]
  unfold String.utf8EncodeChar
  simp only [hv]
  -- by the number of bytes
  split
  · rw [List.singleton_append, decodeFrom, lead_ofNat (by omega), if_pos (by omega)]
    rfl
  · split
    · exact decodeFrom_twoBytes (v := v) (by omega) rest
    · split
      · exact decodeFrom_threeBytes (v := v) (by omega) (by omega) rest
      · exact decodeFrom_fourBytes (v := v) (by omega) rest

end Lead

/-- The bytes of characters show these characters. -/
theorem decode_encode (cs : List Char) : decode (encode cs) = cs := by
  induction cs with
  | nil => rfl
  | cons c cs ih =>
    rw [decode, encode_cons, decodeFrom_utf8EncodeChar]
    exact congrArg (c :: ·) ih

/-- Different texts have different bytes. -/
theorem encode_injective : Function.Injective encode :=
  Function.LeftInverse.injective decode_encode

/-! ## Basic characters among those that bytes show -/

/-- A character that has begun is not basic: its next byte is not, and its number will be too large. -/
structure Begun.IsLarge (p : Begun) : Prop where
  low : 0x80 ≤ p.low.toNat
  value : 2 ≤ p.value ∨ 0 < p.missing ∧ 0x82 ≤ 64 * p.value + p.low.toNat

/-- The first byte of a character of several bytes says that the character is not basic. -/
theorem isLarge_of_lead {b : UInt8} {p : Begun} (h : (lead b).2 = some p) : p.IsLarge := by
  obtain ⟨n, hn, rfl⟩ : ∃ n < 256, b = UInt8.ofNat n := ⟨b.toNat, b.toNat_lt, b.ofNat_toNat.symm⟩
  rw [lead_ofNat hn] at h
  split_ifs at h <;> cases h
  all_goals constructor <;> simp <;> omega

theorem toNat_charOfNat {n : Nat} (h : n.isValidChar) : (Char.ofNat n).toNat = n := by
  rw [Char.ofNat, dif_pos h]
  rfl

/-- A basic character is shown at once by its own byte alone. -/
theorem mem_lead_iff {c : Char} (hc : IsBasic c) (b : UInt8) : c ∈ (lead b).1 ↔ b = byteOf c := by
  have hreplacement : c ≠ replacement := by
    rintro rfl
    exact absurd hc (by decide)
  have hbyte : c.toNat < 0x80 := hc
  obtain ⟨n, hn, rfl⟩ : ∃ n < 256, b = UInt8.ofNat n := ⟨b.toNat, b.toNat_lt, b.ofNat_toNat.symm⟩
  rw [lead_ofNat hn, byteOf, ofNat_eq_iff hn (by omega)]
  split
  · rename_i hbasic
    rw [List.mem_singleton]
    constructor
    · rintro rfl
      exact (toNat_charOfNat (.inl (by omega))).symm
    · rintro rfl
      exact c.ofNat_toNat.symm
  · split_ifs <;> simp [hreplacement] <;> omega

/-- A basic character is shown where its byte stands. The null character is left out, as it is what a number stands
for that is no character's. -/
theorem mem_decodeFrom_iff {c : Char} (hc : IsBasic c) (hnull : c ≠ '\x00') {bs : List UInt8} {pending : Option Begun}
    (hpending : ∀ p ∈ pending, p.IsLarge) : c ∈ decodeFrom pending bs ↔ byteOf c ∈ bs := by
  have hreplacement : c ≠ replacement := by
    rintro rfl
    exact absurd hc (by decide)
  have hbasic : c.toNat < 0x80 := hc
  have hlead (b : UInt8) (bs : List UInt8)
      (ih : ∀ {pending : Option Begun}, (∀ p ∈ pending, p.IsLarge) → (c ∈ decodeFrom pending bs ↔ byteOf c ∈ bs)) :
      c ∈ (lead b).1 ++ decodeFrom (lead b).2 bs ↔ byteOf c ∈ b :: bs := by
    rw [List.mem_append, mem_lead_iff hc, ih fun p hp => isLarge_of_lead hp, List.mem_cons, eq_comm]
  induction bs generalizing pending with
  | nil =>
    cases pending with
    | none => simp [decodeFrom]
    | some p => simp [decodeFrom, hreplacement]
  | cons b bs ih =>
    cases pending with
    | none =>
      rw [decodeFrom]
      exact hlead b bs ih
    | some p =>
      obtain ⟨hlow, hvalue⟩ := hpending p rfl
      rw [decodeFrom]
      split
      · rename_i hbounds
        have hle : p.low.toNat ≤ b.toNat := UInt8.le_iff_toNat_le.mp hbounds.1
        -- a byte of the character is not basic, and in the end the character is not
        have hne : byteOf c ≠ b := by
          rintro rfl
          rw [toNat_byteOf hc] at hle
          omega
        rw [List.mem_cons, or_iff_right hne]
        dsimp only
        split
        · rename_i hmissing
          have hlarge : c ≠ Char.ofNat (64 * p.value + (b.toNat - 0x80)) := by
            intro h
            by_cases hvalid : (64 * p.value + (b.toNat - 0x80)).isValidChar
            · have hnumber := congrArg Char.toNat h
              rw [toNat_charOfNat hvalid] at hnumber
              omega
            · exact hnull (h.trans (dif_neg hvalid))
          rw [List.mem_cons, or_iff_right hlarge]
          exact ih nofun
        · refine ih ?_
          rintro _ ⟨⟩
          exact ⟨by simp, .inl (by dsimp only; omega)⟩
      · rw [List.mem_cons, or_iff_right hreplacement]
        exact hlead b bs ih

/-- Bytes show a basic character if and only if its byte is among them. -/
theorem mem_decode_iff {c : Char} (hc : IsBasic c) (hnull : c ≠ '\x00') {bs : List UInt8} :
    c ∈ decode bs ↔ byteOf c ∈ bs :=
  mem_decodeFrom_iff hc hnull nofun

end Text

open Overdue.Text

/-! ## Texts of the system -/

namespace RawText

@[simp] theorem bytes_ofString (s : String) : (ofString s).bytes = encode s.toList := rfl

/-- A text shows itself. -/
@[simp] theorem shown_ofString (s : String) : (ofString s).shown = s := by
  rw [shown, bytes_ofString, decode_encode, String.ofList_toList]

/-- The bytes of a text are those of the library. -/
theorem toByteArray_bytes_ofString (s : String) : (ofString s).bytes.toByteArray = s.toByteArray := by
  conv_rhs => rw [← String.ofList_toList (s := s), String.toByteArray_ofList]
  rfl

/-- The text of a text is itself. -/
@[simp] theorem text?_ofString (s : String) : (ofString s).text? = some s := by
  rw [text?, toByteArray_bytes_ofString]
  exact dif_pos s.isValidUTF8

/-- Bytes are those of a text if they are its encoding. -/
theorem text?_eq_some_iff {t : RawText} {s : String} : t.text? = some s ↔ t = ofString s := by
  constructor
  · intro h
    unfold text? String.fromUTF8? at h
    split at h
    · rename_i hvalid
      cases h
      have hbytes := toByteArray_bytes_ofString (String.fromUTF8 t.bytes.toByteArray hvalid)
      have hlists := congrArg (fun b : ByteArray => b.data.toList) hbytes
      exact congrArg RawText.mk (by simpa [String.fromUTF8] using hlists.symm)
    · cases h
  · rintro rfl
    exact text?_ofString s

/-- Different texts have different raw texts. -/
theorem ofString_injective : Function.Injective ofString := by
  intro s t h
  have hshown := congrArg shown h
  rwa [shown_ofString, shown_ofString] at hshown

/-- A text is shown as it is. -/
theorem shown_of_text? {t : RawText} {s : String} (h : t.text? = some s) : t.shown = s := by
  rw [text?_eq_some_iff.mp h, shown_ofString]

end RawText

end Overdue
