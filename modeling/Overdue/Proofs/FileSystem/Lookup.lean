/-
Looking up the entries of a directory.

A directory that a path leads to lists its entries, and the path of such an entry leads to the entry. Some things
can come between: the path may be too long, the directory may refuse to be searched, the entry may not tell what
it is, and an entry that is a link is followed in turn (`resolve_join`). That links on the way to the directory are
followed makes no difference, because they are followed in the same way for the longer path (`follow_append`).
-/
import Overdue.Proofs.FileSystem.Paths

set_option autoImplicit false

namespace Overdue

open Overdue.Text

/-! ## Proper trees -/

namespace Entry

/-- Whether an entry is a directory, be it one that can be listed or not. -/
def isDirectory : Entry → Bool
  | directory _ _ _ => true
  | file _ _ | device _ | link _ _ | unknown _ _ => false

/-- Whether an entry is a link. -/
def isLink : Entry → Bool
  | link _ _ => true
  | file _ _ | device _ | directory _ _ _ | unknown _ _ => false

/-- Why an entry does not tell what it is. -/
def fault? : Entry → Option IoFault
  | unknown _ fault => some fault
  | file _ _ | device _ | link _ _ | directory _ _ _ => none

/-- A tree in which the entries of each directory have names, and no two of them the same. -/
inductive IsProper : Entry → Prop where
  | file (name : RawText) (content : Except IoFault ByteArray) : IsProper (.file name content)
  | device (name : RawText) : IsProper (.device name)
  | link (name target : RawText) : IsProper (.link name target)
  | unknown (name : RawText) (fault : IoFault) : IsProper (.unknown name fault)
  | directory (name : RawText) (refusals : Refusals) {entries : List Entry} :
      (entries.map Entry.name).Nodup → (∀ e ∈ entries, IsName e.name) → (∀ e ∈ entries, IsProper e) →
      IsProper (.directory name entries refusals)

/-- Where no two entries have the same name, each of them is found by its name. -/
theorem lookup?_eq_some_iff {entries : List Entry} (h : (entries.map Entry.name).Nodup) {name : RawText}
    {e : Entry} : lookup? entries name = some e ↔ e ∈ entries ∧ e.name = name := by
  induction entries with
  | nil => exact iff_of_false nofun (fun ⟨h, _⟩ => nomatch h)
  | cons other entries ih =>
    obtain ⟨hother, hentries⟩ := List.nodup_cons.mp h
    rw [lookup?, List.find?_cons]
    split
    · rename_i heq
      have hname : other.name = name := eq_of_beq heq
      constructor
      · rintro ⟨⟩
        exact ⟨List.mem_cons_self, hname⟩
      · rintro ⟨hmem, he⟩
        rcases List.mem_cons.mp hmem with rfl | hmem
        · rfl
        · exact absurd (List.mem_map.mpr ⟨e, hmem, he.trans hname.symm⟩) hother
    · rename_i hne
      rw [← lookup?, ih hentries, List.mem_cons]
      constructor
      · exact fun ⟨hmem, he⟩ => ⟨.inr hmem, he⟩
      · rintro ⟨rfl | hmem, he⟩
        · exact absurd (beq_iff_eq.mpr he) (by rw [hne]; exact Bool.false_ne_true)
        · exact ⟨hmem, he⟩

end Entry

namespace FileSystem

/-- A file system whose tree is proper. -/
def IsProper (fs : FileSystem) : Prop := fs.top.IsProper

/-! ## Entries by their names -/

/-- An entry that is looked up is one of the entries and has the name. -/
theorem mem_of_lookup? {entries : List Entry} {name : RawText} {e : Entry}
    (h : Entry.lookup? entries name = some e) : e ∈ entries ∧ e.name = name := by
  have hname := List.find?_some h
  exact ⟨List.mem_of_find?_eq_some h, by simpa using hname⟩

/-- Below a directory an entry is looked up name by name. -/
theorem entryAt_cons {name : RawText} {entries : List Entry} {refusals : Refusals} (first : RawText)
    (names : List RawText) :
    entryAt (.directory name entries refusals) (first :: names) =
      (Entry.lookup? entries first).bind (entryAt · names) := by
  rw [entryAt]
  split <;> rename_i hlookup <;> rw [hlookup] <;> rfl

/-- Names lead on only from directories. -/
theorem exists_directory_of_entryAt {e found : Entry} {first : RawText} {names : List RawText}
    (h : entryAt e (first :: names) = some found) :
    ∃ name entries refusals inner, e = .directory name entries refusals ∧
      Entry.lookup? entries first = some inner ∧ entryAt inner names = some found := by
  cases e with
  | directory name entries refusals =>
    rw [entryAt_cons] at h
    obtain ⟨inner, hlookup, hinner⟩ := Option.bind_eq_some_iff.mp h
    exact ⟨name, entries, refusals, inner, rfl, hlookup, hinner⟩
  | _ => cases h

/-- Names and one more name lead to an entry of the directory that the names lead to. -/
theorem entryAt_concat {e : Entry} {inner : List Entry} {name : RawText} {refusals : Refusals}
    {names : List RawText} (h : entryAt e names = some (.directory name inner refusals)) (last : RawText) :
    entryAt e (names ++ [last]) = Entry.lookup? inner last := by
  induction names generalizing e with
  | nil =>
    cases h
    rw [List.nil_append, entryAt_cons]
    exact Option.bind_fun_some _
  | cons first names ih =>
    obtain ⟨_, entries, _, next, rfl, hlookup, hnext⟩ := exists_directory_of_entryAt h
    rw [List.cons_append, entryAt_cons, hlookup, Option.bind_some, ih hnext]

/-- Everything in a proper tree is proper. -/
theorem isProper_of_entryAt {e found : Entry} {names : List RawText} (he : e.IsProper)
    (h : entryAt e names = some found) : found.IsProper := by
  induction names generalizing e with
  | nil =>
    cases h
    exact he
  | cons first names ih =>
    obtain ⟨_, entries, _, next, rfl, hlookup, hnext⟩ := exists_directory_of_entryAt h
    cases he with
    | directory _ _ _ _ hinner => exact ih (hinner next (mem_of_lookup? hlookup).1) hnext

/-! ## Following a path -/

/-- What a piece of a path does, from a directory given by the names that lead to it: the links that may
still be followed, the names that lead on, and the pieces of a link that have to be followed first. -/
def advance (fs : FileSystem) (links : Nat) (here : List RawText) (piece : RawText) :
    Except IoFault (Nat × List RawText × List RawText) :=
  match entryAt fs.top here with
  | some (.directory _ entries refusals) =>
    if piece = "" then .ok (links, here, [])
    else
      match refusals.search with
      | some fault => .error fault
      | none =>
        if piece = "." then .ok (links, here, [])
        else if piece = ".." then .ok (links, here.dropLast, [])
        else if nameLimit < piece.bytes.length then .error .nameTooLong
        else
          match Entry.lookup? entries piece with
          | none => .error .notFound
          | some (.unknown _ fault) => .error fault
          | some (.link _ target) =>
            match links with
            | 0 => .error .tooManyLinks
            | links + 1 =>
              .ok (links, if target.bytes.head? = some Path.slash then [] else here, steps target)
          | some _ => .ok (links, here ++ [piece], [])
  | some _ => .error .notADirectory
  | none => .error .notFound

section Follow

variable {fs : FileSystem}

/-- A path is followed by what its first piece does, and then on from there. -/
theorem follow_cons (links : Nat) (here : List RawText) (piece : RawText) (rest : List RawText) :
    fs.follow links here (piece :: rest) =
      match fs.advance links here piece with
      | .ok (links, here, pieces) => fs.follow links here (pieces ++ rest)
      | .error fault => .error fault := by
  rw [follow, advance]
  repeat' split
  all_goals simp_all

/-- A step that can be taken is taken, and what it leaves to be done comes before the rest. -/
theorem follow_of_advance {links links' : Nat} {here here' pieces : List RawText} {piece : RawText}
    (h : fs.advance links here piece = .ok (links', here', pieces)) (rest : List RawText) :
    fs.follow links here (piece :: rest) = fs.follow links' here' (pieces ++ rest) := by
  rw [follow_cons, h]

/-- A piece uses up a link, or it leaves no pieces behind. -/
theorem links_of_advance {links links' : Nat} {here here' pieces : List RawText} {piece : RawText}
    (h : fs.advance links here piece = .ok (links', here', pieces)) :
    links' < links ∨ links' = links ∧ pieces = [] := by
  unfold advance at h
  repeat' split at h
  all_goals cases h
  all_goals simp

/-- Paths are followed piece by piece. -/
theorem follow_induction (fs : FileSystem) {motive : Nat → List RawText → List RawText → Prop}
    (nil : ∀ links here, motive links here [])
    (cons : ∀ links here piece rest,
      (∀ links' here' pieces, fs.advance links here piece = .ok (links', here', pieces) →
        motive links' here' (pieces ++ rest)) → motive links here (piece :: rest))
    (links : Nat) (here pieces : List RawText) : motive links here pieces := by
  induction links using Nat.strongRecOn generalizing here pieces with
  | ind links ihLinks =>
    induction pieces generalizing here with
    | nil => exact nil links here
    | cons piece rest ih =>
      refine cons links here piece rest fun links' here' pieces h => ?_
      rcases links_of_advance h with hlt | ⟨rfl, rfl⟩
      · exact ihLinks links' hlt here' (pieces ++ rest)
      · exact ih here'

/-- What following a path leads to stands where the path ends. -/
theorem entryAt_of_follow {links : Nat} {here pieces there : List RawText} {e : Entry}
    (h : fs.follow links here pieces = .ok (there, e)) : entryAt fs.top there = some e := by
  induction links, here, pieces using follow_induction fs with
  | nil links here =>
    rw [follow] at h
    split at h
    · cases h
      assumption
    · cases h
  | cons links here piece rest ih =>
    rw [follow_cons] at h
    split at h
    · rename_i hstep
      exact ih _ _ _ hstep h
    · cases h

/-- A path is followed to its end, and then on from there. -/
theorem follow_append {links : Nat} {here pieces there : List RawText} {e : Entry}
    (h : fs.follow links here pieces = .ok (there, e)) :
    ∃ links', ∀ rest, fs.follow links here (pieces ++ rest) = fs.follow links' there rest := by
  induction links, here, pieces using follow_induction fs with
  | nil links here =>
    rw [follow] at h
    split at h
    · cases h
      exact ⟨links, fun rest => rfl⟩
    · cases h
  | cons links here piece rest ih =>
    rw [follow_cons] at h
    split at h
    · rename_i links₁ here₁ pieces hstep
      obtain ⟨links', hlinks⟩ := ih _ _ _ hstep h
      refine ⟨links', fun more => ?_⟩
      rw [List.cons_append, follow_of_advance hstep, ← hlinks more, List.append_assoc]
    · cases h

/-- Where there is no directory no piece leads on. -/
theorem advance_of_not_directory {here : List RawText}
    (h : ∀ name entries refusals, entryAt fs.top here ≠ some (.directory name entries refusals)) (links : Nat) :
    ∃ fault, ∀ piece, fs.advance links here piece = .error fault := by
  cases hentry : entryAt fs.top here with
  | none => exact ⟨.notFound, fun piece => by rw [advance, hentry]⟩
  | some e =>
    cases e with
    | directory name entries refusals => exact absurd hentry (h name entries refusals)
    | _ => exact ⟨.notADirectory, fun piece => by rw [advance, hentry]⟩

/-- An empty piece makes no difference in front of another one: both ask for a directory. -/
theorem follow_empty_cons (links : Nat) (here pieces : List RawText) (last : RawText) :
    fs.follow links here (pieces ++ [("" : RawText), last]) = fs.follow links here (pieces ++ [last]) := by
  induction links, here, pieces using follow_induction fs with
  | nil links here =>
    rw [List.nil_append, List.nil_append, follow_cons]
    -- an empty piece asks only for a directory, and so does the one that follows
    by_cases hdirectory : ∃ name entries refusals,
        entryAt fs.top here = some (.directory name entries refusals)
    · obtain ⟨name, entries, refusals, hdirectory⟩ := hdirectory
      have hempty : fs.advance links here "" = .ok (links, here, []) := by
        rw [advance, hdirectory]
        rfl
      rw [hempty]
      rfl
    · obtain ⟨fault, hfault⟩ :=
        advance_of_not_directory (fun name entries refusals h => hdirectory ⟨name, entries, refusals, h⟩) links
      rw [hfault, follow_cons, hfault]
  | cons links here piece rest ih =>
    rw [List.cons_append, List.cons_append, follow_cons, follow_cons]
    split
    · rename_i hstep
      rw [← List.append_assoc, ← List.append_assoc]
      exact ih _ _ _ hstep
    · rfl

end Follow

/-! ## Paths of entries -/

section Join

variable {fs : FileSystem} {p : Path} {name : RawText}

/-- A path is followed if it is a text that can be followed. -/
theorem locate_eq_ok_iff {found : List RawText × Entry} :
    fs.locate p = .ok found ↔
      p.bytes ≠ [] ∧ 0 ∉ p.bytes ∧ isTooLong p = false ∧
        fs.follow linkLimit (if p.isAbsolute then [] else fs.working) (steps p.raw) = .ok found := by
  rw [locate]
  split
  · rename_i hempty
    exact iff_of_false nofun fun h => h.1 hempty
  · rename_i hempty
    split
    · rename_i hnull
      exact iff_of_false nofun fun h => h.2.1 hnull
    · rename_i hnull
      split
      · rename_i hlong
        exact iff_of_false nofun fun h => Bool.false_ne_true (h.2.2.1.symm.trans hlong)
      · rename_i hlong
        exact ⟨fun h => ⟨hempty, hnull, Bool.not_eq_true _ ▸ hlong, h⟩, fun h => h.2.2.2⟩

/-- The path of an entry is followed to the directory, and then the name is looked up. -/
theorem locate_join {there : List RawText} {e : Entry} (h : fs.locate p = .ok (there, e))
    (hname : IsName name) :
    ∃ links, fs.locate (p.join name) =
      if isTooLong (p.join name) then .error .nameTooLong else fs.follow links there [name] := by
  obtain ⟨hp, hnull, -, hfollow⟩ := locate_eq_ok_iff.mp h
  obtain ⟨links, hlinks⟩ := follow_append hfollow
  refine ⟨links, ?_⟩
  have hnull' : 0 ∉ (p.join name).bytes := by
    intro hmem
    rcases Path.mem_join hp hmem with h | h | h
    · exact absurd h (by decide)
    · exact hnull h
    · exact hname.no_null h
  have hpieces : ∀ start, fs.follow linkLimit start (steps (p.join name).raw) =
      fs.follow linkLimit start (steps p.raw ++ [name]) := by
    intro start
    obtain ⟨pieces, hjoin, hsteps⟩ := Path.steps_join hp hname
    rcases hsteps with hsteps | hsteps
    · rw [hjoin, hsteps]
    · rw [hjoin, hsteps, List.append_assoc, List.singleton_append, follow_empty_cons]
  rw [locate, if_neg (Path.bytes_join_ne_nil hp), if_neg hnull', Path.isAbsolute_join hp, hpieces, hlinks]

/-- What is found when an entry of a directory is asked for that is no link. -/
def grant (refusals : Refusals) (e : Entry) : Except IoFault Entry :=
  match refusals.search.or e.fault? with
  | some fault => .error fault
  | none => .ok e

/-- A name that is not that of a link leads to the entry. -/
theorem follow_name {there : List RawText} {name' : RawText} {entries : List Entry} {refusals : Refusals}
    {e : Entry} (hthere : entryAt fs.top there = some (.directory name' entries refusals)) (hname : IsName name)
    (he : Entry.lookup? entries name = some e) (hlink : e.isLink = false) (links : Nat) :
    fs.follow links there [name] = (grant refusals e).map fun e => (there ++ [name], e) := by
  have hstep : fs.advance links there name = (grant refusals e).map fun _ => (links, there ++ [name], []) := by
    rw [advance, hthere, grant]
    dsimp only
    rw [if_neg hname.ne_empty]
    -- a refusal to be searched comes before all that the directory could tell
    cases refusals.search with
    | some fault => rfl
    | none =>
      dsimp only
      rw [if_neg hname.ne_current, if_neg hname.ne_parent, if_neg (Nat.not_lt.mpr hname.le_limit), he]
      cases e with
      | link => cases hlink
      | _ => rfl
  rw [follow_cons, hstep]
  cases hgrant : grant refusals e with
  | error fault => rfl
  | ok found =>
    have hfound : found = e := by
      unfold grant at hgrant
      split at hgrant <;> cases hgrant
      rfl
    dsimp only [Except.map]
    rw [List.nil_append, follow, entryAt_concat hthere, he, hfound]

/-- What a path leads to stands somewhere. -/
theorem exists_locate {e : Entry} (h : fs.resolve p = .ok e) : ∃ there, fs.locate p = .ok (there, e) := by
  rw [resolve] at h
  cases hlocate : fs.locate p with
  | error fault =>
    rw [hlocate] at h
    cases h
  | ok found =>
    rw [hlocate] at h
    cases h
    exact ⟨found.1, rfl⟩

/-- A path that leads to an entry is not empty, and the entry is proper. -/
theorem of_resolve (hfs : fs.IsProper) {e : Entry} (h : fs.resolve p = .ok e) :
    p.bytes ≠ [] ∧ e.IsProper := by
  obtain ⟨there, hlocate⟩ := exists_locate h
  obtain ⟨hp, -, -, hfollow⟩ := locate_eq_ok_iff.mp hlocate
  exact ⟨hp, isProper_of_entryAt hfs (entryAt_of_follow hfollow)⟩

/-- What the path of an entry that is no link leads to is the entry, unless the path is too long, the directory
cannot be searched or the entry does not tell what it is. -/
theorem resolve_join (hfs : fs.IsProper) {name' : RawText} {entries : List Entry} {refusals : Refusals}
    (h : fs.resolve p = .ok (.directory name' entries refusals)) {e : Entry} (he : e ∈ entries)
    (hlink : e.isLink = false) :
    fs.resolve (p.join e.name) =
      if isTooLong (p.join e.name) then .error .nameTooLong else grant refusals e := by
  obtain ⟨there, hlocate⟩ := exists_locate h
  have hthere := entryAt_of_follow (locate_eq_ok_iff.mp hlocate).2.2.2
  cases (of_resolve hfs h).2 with
  | directory _ _ hnodup hnames _ =>
    obtain ⟨links, hjoin⟩ := locate_join hlocate (hnames e he)
    rw [resolve, hjoin]
    split
    · rfl
    · have hlookup := (Entry.lookup?_eq_some_iff hnodup).mpr ⟨he, rfl⟩
      rw [follow_name hthere (hnames e he) hlookup hlink]
      cases grant refusals e <;> rfl

/-- A name that no entry of a directory has leads nowhere. -/
theorem resolve_join_of_lookup?_eq_none {name' : RawText} {entries : List Entry} {refusals : Refusals}
    (h : fs.resolve p = .ok (.directory name' entries refusals)) (hname : IsName name)
    (hnone : Entry.lookup? entries name = none) : ∃ fault, fs.resolve (p.join name) = .error fault := by
  obtain ⟨there, hlocate⟩ := exists_locate h
  have hthere := entryAt_of_follow (locate_eq_ok_iff.mp hlocate).2.2.2
  obtain ⟨links, hjoin⟩ := locate_join hlocate hname
  rw [resolve, hjoin]
  split
  · exact ⟨_, rfl⟩
  · rw [follow_cons, advance, hthere]
    dsimp only
    rw [if_neg hname.ne_empty]
    cases refusals.search with
    | some fault => exact ⟨fault, rfl⟩
    | none =>
      dsimp only
      rw [if_neg hname.ne_current, if_neg hname.ne_parent, if_neg (Nat.not_lt.mpr hname.le_limit), hnone]
      exact ⟨_, rfl⟩

/-- A name leads to the entry of that name in the working directory, if that can be searched. -/
theorem resolve_name {name' : RawText} {entries : List Entry} {refusals : Refusals} {e : Entry}
    (hworking : entryAt fs.top fs.working = some (.directory name' entries refusals)) (hname : IsName name)
    (he : Entry.lookup? entries name = some e) (hlink : e.isLink = false)
    (hgrant : grant refusals e = .ok e) : fs.resolve ⟨name⟩ = .ok e := by
  have hempty : name.bytes ≠ [] := fun h => hname.ne_empty (congrArg RawText.mk h)
  have hlong : isTooLong ⟨name⟩ = false := by
    refine decide_eq_false (Nat.not_lt.mpr ?_)
    exact hname.le_limit.trans (by decide)
  have hrelative : Path.isAbsolute ⟨name⟩ = false := by
    obtain ⟨b, bs, hbytes⟩ := List.exists_cons_of_ne_nil hempty
    have hslash : b ≠ Path.slash := fun h => hname.no_slash (by rw [hbytes, h]; exact List.mem_cons_self)
    rw [Path.isAbsolute_cons hbytes, beq_eq_false_iff_ne]
    exact hslash
  have hsteps : steps name = [name] := by
    rw [steps, splitOn_of_not_mem hname.no_slash, List.map_singleton]
  rw [resolve, locate, Path.bytes_mk, if_neg hempty, if_neg hname.no_null, hlong, hrelative]
  change (fs.follow linkLimit fs.working (steps name)).map _ = _
  rw [hsteps, follow_name hworking hname he hlink, hgrant]
  rfl

/-- A dot leads to the working directory, where that is the top of the tree. -/
theorem resolve_here (entries : List Entry) :
    (FileSystem.mk entries []).resolve ⟨"."⟩ = .ok (.directory "" entries) := by
  have hstep : (FileSystem.mk entries []).advance 40 [] "." = .ok (40, [], []) := rfl
  have hlocate : (FileSystem.mk entries []).locate ⟨"."⟩ = .ok ([], .directory "" entries) := by
    refine locate_eq_ok_iff.mpr ⟨by decide, by decide, by decide, ?_⟩
    change follow _ 40 [] [("." : RawText)] = _
    rw [follow_of_advance hstep, List.nil_append, follow]
    rfl
  rw [resolve, hlocate]
  rfl

end Join

/-! ## Listing -/

section List

variable {fs : FileSystem} {p : Path} {entries : List Entry}

/-- A path can be listed if it leads to a directory that does not refuse it. -/
theorem list_eq_ok_iff :
    fs.list p = .ok entries ↔
      ∃ name refusals, fs.resolve p = .ok (.directory name entries refusals) ∧ refusals.listing = none := by
  rw [list]
  split
  · rename_i name found refusals heq
    rw [heq]
    -- a directory, which may still refuse to be listed
    constructor
    · intro h
      split at h
      · cases h
      · rename_i hlisting
        cases h
        exact ⟨name, refusals, rfl, hlisting⟩
    · rintro ⟨_, _, h, hlisting⟩
      cases h
      rw [hlisting]
  · rename_i hdirectory heq
    rw [heq]
    constructor
    · intro h
      cases h
    · rintro ⟨_, _, h, -⟩
      exact absurd (Except.ok.inj h) (hdirectory _ _ _)
  · rename_i heq
    rw [heq]
    constructor
    · intro h
      cases h
    · rintro ⟨_, _, h, -⟩
      cases h

/-- A directory that can be listed has a path, and its entries have names of their own. -/
theorem of_list (hfs : fs.IsProper) (h : fs.list p = .ok entries) :
    p.bytes ≠ [] ∧ (entries.map Entry.name).Nodup ∧ ∀ e ∈ entries, IsName e.name := by
  obtain ⟨name, refusals, hresolve, -⟩ := list_eq_ok_iff.mp h
  obtain ⟨hp, hproper⟩ := of_resolve hfs hresolve
  cases hproper with
  | directory _ _ hnodup hnames _ => exact ⟨hp, hnodup, hnames⟩

end List

end FileSystem

end Overdue
