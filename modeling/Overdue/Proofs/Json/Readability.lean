/-
Documents can be told from what is written of them.

No other document is written like one that can be written (`pretty_eq_iff`). The first character tells which kind of
document it is, a text ends at the quote that is not escaped, and a number where the digits do. Lists and objects are
the same in this: their items come one after the other, a comma says that there is another one, and a line without a
comma that there is none. So each statement here is about what is written and about what follows it: if both together
are the same text, then both are the same. What follows an item is a comma or the end of a line, and so it is never a
digit.

A document that cannot be written ends in the middle. To tell it from the others all the same, a mark is put for the
value that cannot be written, and what would come behind it is written, too (`Writing.marked`). What is really written
is the part before the first mark.
-/
import Overdue.Json
import Overdue.Proofs.Calendar.Numerals

set_option autoImplicit false

namespace Overdue.Json

open Overdue.Calendar Overdue.Text

/-! ## Texts -/

/-- The character that is written at the start of a text, and the rest. -/
def unescape? : List Char → Option (Char × List Char)
  | '\\' :: '"' :: rest => some ('"', rest)
  | '\\' :: '\\' :: rest => some ('\\', rest)
  | '\\' :: 'n' :: rest => some ('\n', rest)
  | '\\' :: 'r' :: rest => some ('\r', rest)
  | '\\' :: 't' :: rest => some ('\t', rest)
  | '\\' :: 'b' :: rest => some ('\x08', rest)
  | '\\' :: 'f' :: rest => some ('\x0c', rest)
  | '\\' :: 'u' :: '0' :: '0' :: high :: low :: rest =>
    some (Char.ofNat (16 * (hexValue? high).getD 0 + (hexValue? low).getD 0), rest)
  | c :: rest => some (c, rest)
  | [] => none

/-- A hexadecimal digit is read as its number. -/
theorem hexValue?_hexDigit {n : Nat} (h : n < 16) : hexValue? (hexDigit n) = some n := by
  have hall : ∀ m < 16, hexValue? (hexDigit m) = some m := by decide
  exact hall n h

/-- A character other than a backslash stands for itself. -/
theorem unescape?_of_ne {c : Char} (hc : c ≠ '\\') (rest : List Char) :
    unescape? (c :: rest) = some (c, rest) := by
  unfold unescape?
  split <;> simp_all

/-- What is written of a character tells it. -/
theorem unescape?_escapeChar (c : Char) (rest : List Char) :
    unescape? (escapeChar c ++ rest) = some (c, rest) := by
  unfold escapeChar
  split
  case h_8 =>
    split
    · rename_i hcontrol
      have hvalue : 16 * (c.toNat / 16) + c.toNat % 16 = c.toNat := Nat.div_add_mod ..
      simp only [List.cons_append, List.nil_append, unescape?,
        hexValue?_hexDigit (show c.toNat / 16 < 16 by omega),
        hexValue?_hexDigit (Nat.mod_lt c.toNat (by decide : 16 > 0)), Option.getD_some, hvalue,
        Char.ofNat_toNat]
    · rename_i hbackslash _ _ _ _ _ _
      exact unescape?_of_ne hbackslash rest
  all_goals rfl

/-- A quote is never written as itself inside a text. -/
theorem head?_escapeChar (c : Char) : ∃ b, (escapeChar c).head? = some b ∧ b ≠ '"' := by
  unfold escapeChar
  split
  case h_8 =>
    split
    · exact ⟨'\\', rfl, by decide⟩
    · exact ⟨c, rfl, by assumption⟩
  all_goals exact ⟨'\\', rfl, by decide⟩

/-- A text in quotes ends with the first quote that is written as itself. -/
theorem escaped_append_inj {cs ds rest rest' : List Char}
    (h : cs.flatMap escapeChar ++ '"' :: rest = ds.flatMap escapeChar ++ '"' :: rest') :
    cs = ds ∧ rest = rest' := by
  have hend (c : Char) (more after : List Char) : '"' :: after ≠ escapeChar c ++ more := by
    obtain ⟨b, hb, hquote⟩ := head?_escapeChar c
    intro heq
    have hhead := congrArg List.head? heq
    rw [List.head?_append, hb] at hhead
    exact hquote (Option.some.inj hhead).symm
  -- character by character: each is told by `unescape?`, and the quote at the end by `hend`
  induction cs generalizing ds with
  | nil =>
    cases ds with
    | nil => exact ⟨rfl, (List.cons.inj h).2⟩
    | cons d ds =>
      rw [List.flatMap_cons, List.append_assoc] at h
      exact absurd h (hend d _ _)
  | cons c cs ih =>
    cases ds with
    | nil =>
      rw [List.flatMap_cons, List.append_assoc] at h
      exact absurd h.symm (hend c _ _)
    | cons d ds =>
      rw [List.flatMap_cons, List.flatMap_cons, List.append_assoc, List.append_assoc] at h
      have hfirst := congrArg unescape? h
      rw [unescape?_escapeChar, unescape?_escapeChar] at hfirst
      obtain ⟨rfl, hmore⟩ := Prod.mk.inj (Option.some.inj hfirst)
      obtain ⟨rfl, hrest⟩ := ih hmore
      exact ⟨rfl, hrest⟩

/-- A quoted text is its escaped characters between quotation marks. -/
theorem toList_quote (s : String) :
    (quote s).toList = '"' :: (s.toList.flatMap escapeChar ++ ['"']) := by
  simp [quote]

/-- A quoted text is known from the front of what is written. -/
theorem quote_append_inj {s t : String} {rest rest' : List Char}
    (h : (quote s).toList ++ rest = (quote t).toList ++ rest') : s = t ∧ rest = rest' := by
  simp only [toList_quote, List.cons_append, List.append_assoc] at h
  obtain ⟨hchars, hrest⟩ := escaped_append_inj (List.cons.inj h).2
  exact ⟨String.toList_inj.mp hchars, hrest⟩

/-! ## Numbers -/

/-- A number is known from the front of what is written, if no digit follows. -/
theorem repr_append_inj {n m : Nat} {rest rest' : List Char} (hrest : StartsNoDigit rest)
    (hrest' : StartsNoDigit rest') (h : n.repr.toList ++ rest = m.repr.toList ++ rest') :
    n = m ∧ rest = rest' := by
  rw [Nat.toList_repr, Nat.toList_repr] at h
  have hsplit (k : Nat) {after : List Char} (hafter : StartsNoDigit after) :
      splitWhile Char.isDigit (digits k ++ after) = (digits k, after) :=
    splitWhile_append (isNumeral_digits k).2 hafter
  have heq := congrArg (splitWhile Char.isDigit) h
  rw [← digits, ← digits, hsplit n hrest, hsplit m hrest'] at heq
  obtain ⟨hdigits, hrests⟩ := Prod.mk.inj heq
  exact ⟨by rw [← valueOf_digits n, hdigits, valueOf_digits], hrests⟩

/-! ## Items in brackets -/

/-- What is written of further items and of the end. -/
def following (level : Nat) (closing : List Char) : List (List Char) → List Char
  | [] => '\n' :: ((indent level).toList ++ closing)
  | item :: items =>
    ',' :: '\n' :: ((indent (level + 1)).toList ++ (item ++ following level closing items))

/-- What is written of items and of the end. -/
def enclosed (level : Nat) (closing : List Char) : List (List Char) → List Char
  | [] => closing
  | item :: items => '\n' :: ((indent (level + 1)).toList ++ (item ++ following level closing items))

namespace Writing

/-- What is written, with a mark for each piece that is missing. -/
def marked (w : Writing) : List Char := w.flatMap fun piece => (piece.map String.toList).getD ['?']

@[simp] theorem marked_nil : marked [] = [] := rfl

@[simp] theorem marked_some (s : String) (w : Writing) : marked (some s :: w) = s.toList ++ marked w := rfl

@[simp] theorem marked_none (w : Writing) : marked (none :: w) = '?' :: marked w := rfl

@[simp] theorem marked_append (w v : Writing) : marked (w ++ v) = marked w ++ marked v := List.flatMap_append

theorem isComplete_append (w v : Writing) : isComplete (w ++ v) = (isComplete w && isComplete v) := List.all_append

/-- Where no piece is missing, all of them are written. -/
theorem toList_text_of_isComplete {w : Writing} (h : w.isComplete = true) : w.text.toList = w.marked := by
  induction w with
  | nil => rfl
  | cons piece w ih =>
    cases piece with
    | none => cases h
    | some s => rw [text, String.toList_append, ih h, marked_some]

/-- Where a piece is missing, what comes before the first mark is written. -/
theorem exists_mark_of_not_isComplete {w : Writing} (h : w.isComplete = false) :
    ∃ more, w.marked = w.text.toList ++ '?' :: more := by
  induction w with
  | nil => cases h
  | cons piece w ih =>
    cases piece with
    | none => exact ⟨marked w, rfl⟩
    | some s =>
      obtain ⟨more, hmore⟩ := ih h
      exact ⟨more, by rw [marked_some, hmore, text, String.toList_append, List.append_assoc]⟩

end Writing

/-- What follows the first item is each further one behind a comma, and then the bracket. -/
theorem marked_following (level : Nat) (closing : String) (items : List Writing) :
    Writing.marked
        (items.flatMap (some (",\n" ++ indent (level + 1)) :: ·) ++ [some ("\n" ++ indent level ++ closing)]) =
      following level closing.toList (items.map Writing.marked) := by
  induction items with
  | nil => simp [following]
  | cons item items ih =>
    rw [List.flatMap_cons, List.append_assoc, Writing.marked_append, ih]
    simp [following]

/-- A block is its items between brackets. -/
theorem marked_block (level : Nat) (opening closing : String) (items : List Writing) :
    (block level opening closing items).marked =
      opening.toList ++ enclosed level closing.toList (items.map Writing.marked) := by
  cases items with
  | nil => simp [block, enclosed]
  | cons item items =>
    rw [block, List.append_assoc, Writing.marked_append, marked_following]
    simp [enclosed]

/-- Brackets are written in any case, so what is missing is missing among the items. -/
theorem isComplete_block (level : Nat) (opening closing : String) (items : List Writing) :
    (block level opening closing items).isComplete = items.all Writing.isComplete := by
  have hitems (separator : String) (items : List Writing) :
      Writing.isComplete (items.flatMap (some separator :: ·)) = items.all Writing.isComplete := by
    induction items with
    | nil => rfl
    | cons item items ih =>
      rw [List.flatMap_cons, Writing.isComplete_append, ih]
      rfl
  cases items with
  | nil => rfl
  | cons item items =>
    rw [block, Writing.isComplete_append, Writing.isComplete_append, hitems, List.all_cons]
    exact Bool.and_true _

/-- What follows an item does not go on with a digit. -/
theorem startsNoDigit_following (level : Nat) (closing : List Char) (items : List (List Char))
    (rest : List Char) : StartsNoDigit (following level closing items ++ rest) := by
  cases items with
  | nil => rintro _ ⟨⟩; decide
  | cons item items => rintro _ ⟨⟩; decide

section Items

variable {α : Type} {write : α → List Char}

/-- Something is told from what is written of it, whatever follows, if that is not a digit. -/
def IsTold (write : α → List Char) (a : α) : Prop :=
  ∀ (b : α) (rest rest' : List Char), StartsNoDigit rest → StartsNoDigit rest' →
    write a ++ rest = write b ++ rest' → a = b ∧ rest = rest'

/-- Items and what comes behind them are known from what follows the first item. -/
theorem following_append_inj {level : Nat} {closing : List Char} {items items' : List α}
    {rest rest' : List Char} (htold : ∀ a ∈ items, IsTold write a)
    (h : following level closing (items.map write) ++ rest =
      following level closing (items'.map write) ++ rest') : items = items' ∧ rest = rest' := by
  induction items generalizing items' with
  | nil =>
    cases items' with
    | nil => exact ⟨rfl, List.append_cancel_left h⟩
    | cons b items' => cases h
  | cons a items ih =>
    cases items' with
    | nil => cases h
    | cons b items' =>
      simp only [List.map_cons, following, List.cons_append, List.append_assoc, List.cons.injEq,
        true_and, List.append_cancel_left_eq] at h
      obtain ⟨rfl, hmore⟩ := htold a List.mem_cons_self b _ _ (startsNoDigit_following _ _ _ _)
        (startsNoDigit_following _ _ _ _) h
      obtain ⟨rfl, hrest⟩ := ih (fun c hc => htold c (List.mem_cons_of_mem _ hc)) hmore
      exact ⟨rfl, hrest⟩

/-- Items and what comes behind them are known from what is written between brackets. -/
theorem enclosed_append_inj {level : Nat} {bracket : Char} (hbracket : bracket ≠ '\n')
    {items items' : List α} {rest rest' : List Char} (htold : ∀ a ∈ items, IsTold write a)
    (h : enclosed level [bracket] (items.map write) ++ rest =
      enclosed level [bracket] (items'.map write) ++ rest') : items = items' ∧ rest = rest' := by
  cases items with
  | nil =>
    cases items' with
    | nil => exact ⟨rfl, (List.cons.inj h).2⟩
    | cons b items' => exact absurd (List.cons.inj h).1 hbracket
  | cons a items =>
    cases items' with
    | nil => exact absurd (List.cons.inj h).1.symm hbracket
    | cons b items' =>
      simp only [List.map_cons, enclosed, List.cons_append, List.append_assoc, List.cons.injEq,
        true_and, List.append_cancel_left_eq] at h
      obtain ⟨rfl, hmore⟩ := htold a List.mem_cons_self b _ _ (startsNoDigit_following _ _ _ _)
        (startsNoDigit_following _ _ _ _) h
      obtain ⟨rfl, hrest⟩ :=
        following_append_inj (fun c hc => htold c (List.mem_cons_of_mem _ hc)) hmore
      exact ⟨rfl, hrest⟩

end Items

/-! ## Documents -/

/-- The items of a list are written one by one. -/
theorem writeItems_eq_map (level : Nat) (items : List Json) :
    writeItems level items = items.map (write level) := by
  induction items with
  | nil => rfl
  | cons j items ih => rw [writeItems, ih, List.map_cons]

/-- A member of an object as it is written. -/
def writeMember (level : Nat) (m : String × Json) : Writing := some (quote m.1 ++ ": ") :: write level m.2

/-- The members of an object are written one by one. -/
theorem writeMembers_eq_map (level : Nat) (members : List (String × Json)) :
    writeMembers level members = members.map (writeMember level) := by
  induction members with
  | nil => rfl
  | cons m members ih => rw [writeMembers, ih, List.map_cons, writeMember]

/-- A list is written in full if all its items are. -/
theorem isComplete_write_list (level : Nat) (items : List Json) :
    (write level (list items)).isComplete = items.all fun j => (write (level + 1) j).isComplete := by
  rw [write, isComplete_block, writeItems_eq_map, List.all_map]
  rfl

/-- An object is written in full if the documents of all its members are. -/
theorem isComplete_write_object (level : Nat) (members : List (String × Json)) :
    (write level (object members)).isComplete = members.all fun m => (write (level + 1) m.2).isComplete := by
  rw [write, isComplete_block, writeMembers_eq_map, List.all_map]
  rfl

/-- A document as it is written, with marks. -/
def marked (level : Nat) (j : Json) : List Char := (write level j).marked

/-- A list is written between square brackets. -/
theorem marked_list (level : Nat) (items : List Json) :
    marked level (list items) = '[' :: enclosed level [']'] (items.map (marked (level + 1))) := by
  rw [marked, write, marked_block, writeItems_eq_map, List.map_map]
  rfl

/-- An object is written between curly brackets. -/
theorem marked_object (level : Nat) (members : List (String × Json)) :
    marked level (object members) =
      '\x7b' :: enclosed level ['\x7d'] (members.map fun m => (writeMember (level + 1) m).marked) := by
  have hopening : "\x7b".toList = ['\x7b'] := rfl
  have hclosing : "\x7d".toList = ['\x7d'] := rfl
  rw [marked, write, marked_block, writeMembers_eq_map, List.map_map, hopening, hclosing, List.singleton_append,
    Function.comp_def]

/-- The kind of the document whose first character is written. -/
def kindOf (c : Char) : Nat :=
  match c with
  | 'n' => null.ctorIdx
  | 't' | 'f' => (truth true).ctorIdx
  | '"' => (text "").ctorIdx
  | '[' => (list []).ctorIdx
  | '\x7b' => (object []).ctorIdx
  | '?' => unwritable.ctorIdx
  | _ => (number 0).ctorIdx

theorem kindOf_of_isDigit {c : Char} (h : c.isDigit = true) : kindOf c = (number 0).ctorIdx := by
  unfold kindOf
  split <;> first | rfl | exact absurd h (by decide)

/-- The first character tells the kind. -/
theorem head?_marked (level : Nat) (j : Json) :
    ∃ c, (marked level j).head? = some c ∧ kindOf c = j.ctorIdx := by
  cases j with
  | null => exact ⟨'n', by simp [marked, write], rfl⟩
  | truth b =>
    cases b with
    | true => exact ⟨'t', by simp [marked, write], rfl⟩
    | false => exact ⟨'f', by simp [marked, write], rfl⟩
  | number n =>
    obtain ⟨c, more, hdigits⟩ := List.exists_cons_of_ne_nil (isNumeral_digits n).1
    have hdigit : c.isDigit = true := (isNumeral_digits n).2 c (by simp [hdigits])
    refine ⟨c, ?_, kindOf_of_isDigit hdigit⟩
    rw [marked, write, Writing.marked_some, Nat.toList_repr, ← digits, hdigits]
    rfl
  | text s => exact ⟨'"', by rw [marked, write, Writing.marked_some, toList_quote]; rfl, rfl⟩
  | list items => exact ⟨'[', by rw [marked_list]; rfl, rfl⟩
  | object members => exact ⟨'\x7b', by rw [marked_object]; rfl, rfl⟩
  | unwritable => exact ⟨'?', by simp [marked, write], rfl⟩

/-- Documents that begin alike are of the same kind. -/
theorem ctorIdx_eq_of_marked {level : Nat} {j k : Json} {rest rest' : List Char}
    (h : marked level j ++ rest = marked level k ++ rest') : j.ctorIdx = k.ctorIdx := by
  obtain ⟨c, hc, hkind⟩ := head?_marked level j
  obtain ⟨d, hd, hkind'⟩ := head?_marked level k
  have hhead := congrArg List.head? h
  rw [List.head?_append, List.head?_append, hc, hd] at hhead
  rw [← hkind, ← hkind', Option.some.inj hhead]

/-- A member is told when its document is. -/
theorem isTold_writeMember {level : Nat} {m : String × Json} (h : IsTold (marked level) m.2) :
    IsTold (fun m => (writeMember level m).marked) m := by
  intro other rest rest' hrest hrest' heq
  simp only [writeMember, Writing.marked_some, String.toList_append, List.append_assoc] at heq
  obtain ⟨hname, hmore⟩ := quote_append_inj heq
  obtain ⟨hvalue, hrests⟩ := h other.2 rest rest' hrest hrest' (List.append_cancel_left hmore)
  exact ⟨Prod.ext hname hvalue, hrests⟩

/-- What holds of a list when it holds of its items, and of an object when it holds of its members, holds of
every document. -/
theorem forall_of_items {motive : Json → Prop} (null : motive null) (truth : ∀ b, motive (truth b))
    (number : ∀ n, motive (number n)) (text : ∀ s, motive (text s)) (unwritable : motive unwritable)
    (list : ∀ items, (∀ j ∈ items, motive j) → motive (list items))
    (object : ∀ members, (∀ m ∈ members, motive m.2) → motive (object members)) : ∀ j, motive j
  | .null => null
  | .truth b => truth b
  | .number n => number n
  | .text s => text s
  | .unwritable => unwritable
  | .list items =>
    list items fun j _ => forall_of_items null truth number text unwritable list object j
  | .object members =>
    object members fun m _ => forall_of_items null truth number text unwritable list object m.2
termination_by j => sizeOf j
decreasing_by
  · have := List.sizeOf_lt_of_mem ‹j ∈ items›
    rw [Json.list.sizeOf_spec]
    omega
  · have := List.sizeOf_lt_of_mem ‹m ∈ members›
    obtain ⟨name, j⟩ := m
    rw [Prod.mk.sizeOf_spec] at this
    change sizeOf j < _
    rw [Json.object.sizeOf_spec]
    omega

/-- Every document is told from what is written of it, with marks. -/
theorem isTold_marked (j : Json) : ∀ level, IsTold (marked level) j := by
  -- another document that begins with the same character is of the same kind
  induction j using forall_of_items with
  | null =>
    intro level k rest rest' hrest hrest' h
    cases k with
    | null => exact ⟨rfl, List.append_cancel_left h⟩
    | _ => cases ctorIdx_eq_of_marked h
  | truth b =>
    intro level k rest rest' hrest hrest' h
    cases k with
    | truth c => cases b <;> cases c <;> simp_all [marked, write]
    | _ => cases ctorIdx_eq_of_marked h
  | number n =>
    intro level k rest rest' hrest hrest' h
    cases k with
    | number m =>
      simp only [marked, write, Writing.marked_some, Writing.marked_nil, List.append_nil] at h
      obtain ⟨rfl, hrests⟩ := repr_append_inj hrest hrest' h
      exact ⟨rfl, hrests⟩
    | _ => cases ctorIdx_eq_of_marked h
  | text s =>
    intro level k rest rest' hrest hrest' h
    cases k with
    | text t =>
      simp only [marked, write, Writing.marked_some, Writing.marked_nil, List.append_nil] at h
      obtain ⟨rfl, hrests⟩ := quote_append_inj h
      exact ⟨rfl, hrests⟩
    | _ => cases ctorIdx_eq_of_marked h
  | unwritable =>
    intro level k rest rest' hrest hrest' h
    cases k with
    | unwritable => exact ⟨rfl, List.append_cancel_left h⟩
    | _ => cases ctorIdx_eq_of_marked h
  | list items ih =>
    intro level k rest rest' hrest hrest' h
    cases k with
    | list items' =>
      rw [marked_list, marked_list] at h
      obtain ⟨rfl, hrests⟩ := enclosed_append_inj (by decide)
        (fun j hj => ih j hj (level + 1)) (List.cons.inj h).2
      exact ⟨rfl, hrests⟩
    | _ => cases ctorIdx_eq_of_marked h
  | object members ih =>
    intro level k rest rest' hrest hrest' h
    cases k with
    | object members' =>
      rw [marked_object, marked_object] at h
      obtain ⟨rfl, hrests⟩ := enclosed_append_inj (by decide)
        (fun m hm => isTold_writeMember (ih m hm (level + 1))) (List.cons.inj h).2
      exact ⟨rfl, hrests⟩
    | _ => cases ctorIdx_eq_of_marked h

/-- What is really written of a document: all of it and a line feed, or what is before the first mark. -/
theorem pretty_cases (j : Json) :
    (j.isWritable = true ∧ j.pretty.toList = marked 0 j ++ ['\n']) ∨
    (j.isWritable = false ∧ ∃ more, marked 0 j ++ ['\n'] = j.pretty.toList ++ '?' :: more) := by
  have hlast : Writing.isComplete (write 0 j ++ [some "\n"]) = j.isWritable := by
    rw [Writing.isComplete_append, isWritable]
    exact Bool.and_true _
  have hmarked : Writing.marked (write 0 j ++ [some "\n"]) = marked 0 j ++ ['\n'] := by
    rw [Writing.marked_append, marked]
    rfl
  cases hwritable : j.isWritable with
  | true =>
    rw [hwritable] at hlast
    exact .inl ⟨rfl, by rw [pretty, Writing.toList_text_of_isComplete hlast, hmarked]⟩
  | false =>
    rw [hwritable] at hlast
    obtain ⟨more, hmore⟩ := Writing.exists_mark_of_not_isComplete hlast
    exact .inr ⟨rfl, more, by rw [pretty, ← hmore, hmarked]⟩

/-- An object is begun in any case. -/
theorem pretty_object_ne_empty (members : List (String × Json)) : (object members).pretty ≠ "" := by
  intro h
  rcases pretty_cases (object members) with ⟨-, hpretty⟩ | ⟨-, more, hpretty⟩
  · rw [h, marked_object] at hpretty
    cases hpretty
  · rw [h, marked_object] at hpretty
    cases hpretty

/-- No other document is written like one that can be written. -/
theorem pretty_eq_iff {j k : Json} (h : j.isWritable = true) : j.pretty = k.pretty ↔ k = j := by
  refine ⟨fun heq => ?_, fun heq => by rw [heq]⟩
  have hend (cs : List Char) : StartsNoDigit ('\n' :: cs) := by
    rintro _ ⟨⟩
    decide
  rcases pretty_cases j with ⟨-, hj⟩ | ⟨hj, -⟩
  case inr => cases h.symm.trans hj
  rcases pretty_cases k with ⟨-, hk⟩ | ⟨-, more, hk⟩
  · rw [← heq, hj] at hk
    exact ((isTold_marked j 0 k _ _ (hend []) (hend []) hk).1).symm
  · -- with a mark behind a whole document there would be more than a line feed
    rw [← heq, hj, List.append_assoc] at hk
    have hrest := (isTold_marked j 0 k _ _ (hend _) (hend []) hk.symm).2
    cases hrest

end Overdue.Json
