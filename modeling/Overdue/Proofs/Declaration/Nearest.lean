/-
The nearest declaration.

`Declaration.ownerOf` takes the first declaration of a list that covers a position, or else the first one
that starts after it. That is the nearest one because of how the list comes about: the declarations of a
source text stand in order (`Language.declarations_areLaid`) and within the text (`span_parseTree_le`), so at
most one of them covers a position, and the first one that starts after it has the smallest start.

What is nearest is said here without an order of search (`Declaration.Belongs`), and the main result is that
the search finds it, for every text that is read and every position. The tables are a parameter, and nothing
is asked of them for that. Only that each declaration covers some text needs something of the grammar: that
in a tree without errors names are not empty.
-/
import Overdue.Proofs.Declaration.Extraction
import Overdue.Proofs.Syntax.Reading

set_option autoImplicit false

namespace Overdue

open Overdue.Syntax

namespace Declaration

/-! ## What is nearest -/

/-- The name that a position belongs to: that of the one and only declaration that covers it; else that of
the declaration with the smallest start after it; else the name for positions that belong to none. -/
inductive Belongs (position : Nat) (ds : List Declaration) : String → Prop
  | inside {d : Declaration} (h : ds.filter (·.contains position) = [d]) : Belongs position ds d.name
  | before {d : Declaration} (h : ds.filter (·.contains position) = []) (hd : d ∈ ds)
      (hafter : position < d.start) (hfirst : ∀ e ∈ ds, position < e.start → d.start ≤ e.start) :
      Belongs position ds d.name
  | nowhere (h : ds.filter (·.contains position) = []) (hlast : ∀ e ∈ ds, e.start ≤ position) :
      Belongs position ds unknown

variable {position : Nat} {ds : List Declaration}

/-- A declaration covers the positions from its start to before its end. -/
theorem contains_iff (d : Declaration) (position : Nat) :
    d.contains position ↔ d.start ≤ position ∧ position < d.stop := by
  rw [contains, Bool.and_eq_true, decide_eq_true_eq, decide_eq_true_eq]

/-! ## Searching in order -/

/-- Of declarations in order, the first one that covers a position is the only one. -/
theorem filter_contains_of_find? (hpairs : ds.Pairwise fun d e => d.stop ≤ e.start) {d : Declaration}
    (h : ds.find? (·.contains position) = some d) : ds.filter (·.contains position) = [d] := by
  obtain ⟨hd, before, after, rfl, hbefore⟩ := List.find?_eq_some_iff_append.mp h
  obtain ⟨-, hafter, -⟩ := List.pairwise_append.mp hpairs
  have hstops := (List.pairwise_cons.mp hafter).1
  have hin := (contains_iff d position).mp hd
  have hnone : before.filter (·.contains position) = [] := by
    refine List.filter_eq_nil_iff.mpr fun e he hcontains => ?_
    have hout := hbefore e he
    rw [hcontains] at hout
    cases hout
  -- what comes later starts behind the one that is found, so it starts behind the position
  have hlate : after.filter (·.contains position) = [] := by
    refine List.filter_eq_nil_iff.mpr fun e he hcontains => ?_
    have hstop := hstops e he
    have hin' := (contains_iff e position).mp hcontains
    omega
  rw [List.filter_append, hnone, List.nil_append, List.filter_cons, if_pos hd, hlate]

/-- Of declarations in order, the first one that starts after a position has the smallest start. -/
theorem first_of_find? {start stop : Nat} (h : AreLaid start stop ds) {d : Declaration}
    (hfind : ds.find? (fun d => position < d.start) = some d) :
    d ∈ ds ∧ position < d.start ∧ ∀ e ∈ ds, position < e.start → d.start ≤ e.start := by
  obtain ⟨hd, before, after, rfl, hbefore⟩ := List.find?_eq_some_iff_append.mp hfind
  obtain ⟨-, hafter, -⟩ := List.pairwise_append.mp h.pairwise
  have hmem : d ∈ before ++ d :: after := List.mem_append_right _ List.mem_cons_self
  refine ⟨hmem, of_decide_eq_true hd, fun e he hlate => ?_⟩
  rcases List.mem_append.mp he with he | he
  · have hearly := hbefore e he
    rw [decide_eq_true hlate] at hearly
    cases hearly
  · rcases List.mem_cons.mp he with rfl | he
    · exact Nat.le_refl _
    · -- a declaration does not end before it starts, so starts are in order as well
      have hstop := (List.pairwise_cons.mp hafter).1 e he
      have hspan := h.of_mem hmem
      omega

/-- Among declarations in order, a position belongs to the one that is found. -/
theorem belongs_ownerOf {start stop : Nat} (h : AreLaid start stop ds) (position : Nat) :
    Belongs position ds (ownerOf position ds) := by
  rw [ownerOf]
  split
  · rename_i d hfind
    exact .inside (filter_contains_of_find? h.pairwise hfind)
  · rename_i hnone
    have hfilter : ds.filter (·.contains position) = [] :=
      List.filter_eq_nil_iff.mpr (List.find?_eq_none.mp hnone)
    split
    · rename_i d hfind
      obtain ⟨hd, hafter, hfirst⟩ := first_of_find? h hfind
      exact .before hfilter hd hafter hfirst
    · rename_i hlast
      -- none starts after the position
      refine .nowhere hfilter fun e he => ?_
      have hle := List.find?_eq_none.mp hlast e he
      rw [decide_eq_true_eq] at hle
      omega

end Declaration

/-! ## Texts that are read -/

/-- What is read from a text comes from a tree without errors that is laid over the text. -/
theorem Source.exists_tree_of_readWith {tables : Tables} {language : Language} {text : String}
    {source : Source} (h : readWith tables language text = .ok source) :
    ∃ root ∈ parse tables text, root.hasError = false ∧ root.IsLaid ∧ root.stop ≤ text.toUTF8.size ∧
      source = ofTree language text.toUTF8 root := by
  unfold readWith at h
  cases hparse : parse tables text with
  | none =>
    rw [hparse] at h
    cases h
  | some root =>
    rw [hparse] at h
    dsimp only at h
    split at h
    · cases h
    · rename_i herror
      cases h
      obtain ⟨tree, htree, hlaid, hstop⟩ := parse_eq_some hparse
      -- the tree knows extents and the declarations know bytes of the encoded text
      have hspan := span_parseTree_le htree
      rw [Extent.ofChars_bytes] at hspan
      exact ⟨root, rfl, eq_false_of_ne_true herror, hlaid, Nat.le_trans hstop hspan, rfl⟩

/-- The declarations of a text that is read stand within the text, one behind the other, and every position
is attributed to the one that it belongs to. Each covers some text if in a tree without errors names do. -/
theorem Source.declarations_nearest (tables : Tables) (language : Language) (text : String) (source : Source)
    (h : readWith tables language text = .ok source) :
    (∀ d ∈ source.declarations, d.start ≤ d.stop ∧ d.stop ≤ text.toUTF8.size) ∧
    ((∀ root ∈ parse tables text, root.hasError = false → root.SpellsNames) →
      ∀ d ∈ source.declarations, d.start < d.stop) ∧
    source.declarations.Pairwise (fun d e => d.stop ≤ e.start) ∧
    ∀ position, Declaration.Belongs position source.declarations
      (Declaration.ownerOf position source.declarations) := by
  obtain ⟨root, hparse, herror, hlaid, hstop, rfl⟩ := exists_tree_of_readWith h
  obtain ⟨hordered, hspelled⟩ := language.declarations_areLaid text.toUTF8 hlaid
  refine ⟨fun d hd => ?_, fun hnames => hspelled (hnames root hparse herror), hordered.pairwise,
    Declaration.belongs_ownerOf hordered⟩
  have hwithin : root.start ≤ d.start ∧ d.start ≤ d.stop ∧ d.stop ≤ root.stop := hordered.of_mem hd
  omega

/-- The value of a computation that has one. -/
theorem eq_ok_of_toOption {ε α : Type} {result : Except ε α} {value : α} (h : result.toOption = some value) :
    result = .ok value := by
  cases result with
  | error e => cases h
  | ok result => exact congrArg Except.ok (Option.some.inj h)

/-! ## A file of modules and a file of constants

A small part of the Rust grammar, written out as tables: a file holds two modules, and a module ends with a
semicolon or holds one module in turn. It is enough to see a container that is not listed beside its member. And a
small part of the Go grammar: a file holds two groups of two constants each. It is enough to see a group that goes by
its first member.
-/

namespace Modules

/-- The moves of a state of the automaton; only a blank is passed over. -/
def moves (targets : List (Char × Nat)) : Array (Option Advance) :=
  targets.foldl (fun acc x => acc.set! x.1.toNat (some ⟨x.2, x.1 == ' '⟩)) (Array.replicate 128 none)

def step (symbol : Symbol) (field : Option String) : Step := ⟨symbol, none, field, none, none⟩

def row (lex : Nat) (actions : List (Nat × Action)) (gotos : Array Nat) : Row :=
  { actions := actions.foldl (fun acc x => acc.set! x.1 [x.2]) (Array.replicate 6 [])
    gotos, ends := false, lex, scanned := .empty, stable := .empty }

/-- The row of a state in which a production is complete. -/
def reducing (production : Nat) : Row :=
  row 0 ([0, 2, 5].map fun token => (token, .reduce production)) #[]

def tables : Tables :=
  { tokens := #[⟨"end", false, false, none, 0⟩, ⟨"identifier", true, true, none, 0⟩] ++
      #["mod", ";", "\x7b", "\x7d"].map fun kind => ⟨kind, true, false, none, 0⟩
    rules := #["source_file", "mod_item", "declaration_list"].map fun kind =>
      ⟨kind, true, true, true, false, false, false⟩
    productions := #[default,
      ⟨1, [step (.token 2) none, step (.token 1) (some "name"), step (.token 3) none], 0⟩,
      ⟨1, [step (.token 2) none, step (.token 1) (some "name"), step (.rule 2) (some "body")], 0⟩,
      ⟨2, [step (.token 4) none, step (.rule 1) none, step (.token 5) none], 0⟩,
      ⟨0, [step (.rule 1) none, step (.rule 1) none], 0⟩]
    word := 6, scannerStart := 6, scanner := fun _ _ _ => none
    rows := #[row 0 [] #[], row 0 [(2, .shift 2 false)] #[11, 9], row 7 [(1, .shift 3 false)] #[],
      row 0 [(3, .shift 4 false), (4, .shift 5 false)] #[0, 0, 8], reducing 1,
      row 0 [(2, .shift 2 false)] #[0, 6], row 0 [(5, .shift 7 false)] #[], reducing 3, reducing 2,
      row 0 [(2, .shift 2 false)] #[0, 10], reducing 4, row 0 [(0, .accept)] #[]]
    alphabet := { starts := #[], classes := #[], basic := Array.range 128, count := 128, members := {} }
    lex := #[⟨none, true, moves [(' ', 0), ('m', 1), (';', 4), ('\x7b', 5), ('\x7d', 6)]⟩,
      ⟨none, false, moves [('o', 2)]⟩, ⟨none, false, moves [('d', 3)]⟩, ⟨some 2, false, #[]⟩,
      ⟨some 3, false, #[]⟩, ⟨some 4, false, #[]⟩, ⟨some 5, false, #[]⟩,
      ⟨none, false, moves [(' ', 7), ('m', 8), ('a', 8), ('b', 8)]⟩, ⟨some 1, false, #[]⟩]
    keywordLex := 0 }

/-- A module in a module, and one behind them. -/
def text : String := "mod m\x7bmod a;\x7dmod b;"

def source : Source := ⟨[⟨"a", 6, 12⟩, ⟨"b", 13, 19⟩], []⟩

theorem readWith_text : Source.readWith tables .rust text = .ok source :=
  eq_ok_of_toOption (by decide +kernel)

theorem spellsNames_text : ∀ root ∈ parse tables text, root.hasError = false → root.SpellsNames := by
  decide +kernel

end Modules

namespace Constants

open Modules (moves step row reducing)

def tables : Tables :=
  { tokens := #[⟨"end", false, false, none, 0⟩, ⟨"identifier", true, true, none, 0⟩] ++
      #["const", "(", ")", ";"].map fun kind => ⟨kind, true, false, none, 0⟩
    rules := #["source_file", "const_declaration", "const_spec"].map fun kind =>
      ⟨kind, true, true, true, false, false, false⟩
    productions := #[default,
      ⟨2, [step (.token 1) (some "name")], 0⟩,
      ⟨1, [step (.token 2) none, step (.token 3) none, step (.rule 2) none, step (.token 5) none,
        step (.rule 2) none, step (.token 5) none, step (.token 4) none], 0⟩,
      ⟨0, [step (.rule 1) none, step (.rule 1) none], 0⟩]
    word := 6, scannerStart := 6, scanner := fun _ _ _ => none
    rows := #[row 0 [] #[], row 0 [(2, .shift 2 false)] #[12, 10], row 0 [(3, .shift 3 false)] #[],
      row 9 [(1, .shift 4 false)] #[0, 0, 5], reducing 1, row 0 [(5, .shift 6 false)] #[],
      row 9 [(1, .shift 4 false)] #[0, 0, 7], row 0 [(5, .shift 8 false)] #[], row 0 [(4, .shift 9 false)] #[],
      reducing 2, row 0 [(2, .shift 2 false)] #[0, 11], reducing 3, row 0 [(0, .accept)] #[]]
    alphabet := { starts := #[], classes := #[], basic := Array.range 128, count := 128, members := {} }
    lex := #[⟨none, true, moves [(' ', 0), ('c', 1), ('(', 6), (')', 7), (';', 8)]⟩, ⟨none, false, moves [('o', 2)]⟩,
      ⟨none, false, moves [('n', 3)]⟩, ⟨none, false, moves [('s', 4)]⟩, ⟨none, false, moves [('t', 5)]⟩,
      ⟨some 2, false, #[]⟩, ⟨some 3, false, #[]⟩, ⟨some 4, false, #[]⟩, ⟨some 5, false, #[]⟩,
      ⟨none, false, moves [(' ', 9), ('a', 10), ('b', 10)]⟩, ⟨some 1, false, #[]⟩]
    keywordLex := 0 }

/-- Two groups with the same members. -/
def text : String := "const(a;b;)const(b;a;)"

def source : Source := ⟨[⟨"a", 0, 11⟩, ⟨"b", 11, 22⟩], []⟩

theorem readWith_text : Source.readWith tables .go text = .ok source :=
  eq_ok_of_toOption (by decide +kernel)

theorem spellsNames_text : ∀ root ∈ parse tables text, root.hasError = false → root.SpellsNames := by
  decide +kernel

end Constants

/-- The end of the outer module lies in no declaration, so it belongs to the one that follows. The second member of a
group lies in the declaration that goes by the first one. -/
theorem Source.declarations_nearest_modules :
    (readWith Modules.tables .rust Modules.text = .ok Modules.source ∧
      (∀ d ∈ Modules.source.declarations, d.start < d.stop) ∧
      Declaration.Belongs 12 Modules.source.declarations "b") ∧
    readWith Constants.tables .go Constants.text = .ok Constants.source ∧
    (∀ d ∈ Constants.source.declarations, d.start < d.stop) ∧
    Declaration.Belongs 8 Constants.source.declarations "a" := by
  obtain ⟨-, hspans, -, hbelongs⟩ :=
    declarations_nearest Modules.tables .rust Modules.text Modules.source Modules.readWith_text
  obtain ⟨-, hspans', -, hbelongs'⟩ :=
    declarations_nearest Constants.tables .go Constants.text Constants.source Constants.readWith_text
  exact ⟨⟨Modules.readWith_text, hspans Modules.spellsNames_text, hbelongs 12⟩,
    Constants.readWith_text, hspans' Constants.spellsNames_text, hbelongs' 8⟩

end Overdue
