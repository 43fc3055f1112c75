import CommandShell.Proofs.Command.Listing
import CommandShell.Proofs.Command.Segments
import CommandShell.Proofs.Files.Resolution
import Mathlib.Data.List.Permutation
import Mathlib.Data.List.TakeWhile

/-!
# Which files are definition files

The definition files of a directory are the entries that are files, or links that lead to files, and
whose names have the configured extension after their last dot and something in front of that dot
(`Holds`). They are found in strictly ascending order of their names.

The system finds a file only at a path that is not too long and does not lead over too many links.
Where all definition files are **in reach**, the files along a search path are those that its
directories offer; otherwise they are those that the system finds there (`files_along`). Either way
this describes one list of names for each directory, so it does not depend on the order in which the
system enumerates a directory.
-/

namespace CommandShell

open CommandShell.Text
open CommandShell.Files

/-! ## Extensions -/

/-- **HasExtension** — what stands after the last dot of a name is the extension, and something
stands before it. -/
structure HasExtension (extension name : Bytes) : Prop where
  undotted : 0x2E ∉ extension
  ends : ∃ stem, stem ≠ [] ∧ name = stem ++ 0x2E :: extension

/-- A name with a dot has a last one. -/
theorem exists_last_dot {name : Bytes} (h : 0x2E ∈ name) :
    ∃ stem after, name = stem ++ 0x2E :: after ∧ 0x2E ∉ after := by
  obtain ⟨front, back, hreverse, hfront⟩ := List.eq_append_cons_of_mem (List.mem_reverse.mpr h)
  refine ⟨back.reverse, front.reverse, ?_, fun hdot => hfront (List.mem_reverse.mp hdot)⟩
  rw [← List.reverse_reverse name, hreverse, List.reverse_append, List.reverse_cons,
    List.append_assoc]
  rfl

/-- The characters that are taken from behind are those after the last dot. -/
theorem takeWhile_reverse_of_dot {stem after : Bytes} (h : 0x2E ∉ after) :
    ((stem ++ 0x2E :: after).reverse.takeWhile (· ≠ 0x2E)).reverse = after := by
  have hafter : ∀ b ∈ after.reverse, decide (b ≠ 0x2E) = true := by
    intro b hb
    rw [decide_eq_true_iff]
    rintro rfl
    exact h (List.mem_reverse.mp hb)
  rw [List.reverse_append, List.reverse_cons, List.append_assoc,
    List.takeWhile_append_of_pos hafter, List.singleton_append,
    List.takeWhile_cons_of_neg (by simp), List.append_nil, List.reverse_reverse]

/-- **extension?_eq_some_iff** — the extension of a name is what stands after its last dot, if
something stands before it. -/
theorem extension?_eq_some_iff {name extension : Bytes} (hname : name ≠ Path.above) :
    Path.extension? name = some extension ↔ HasExtension extension name := by
  unfold Path.extension?
  rw [if_neg hname]
  by_cases hdot : 0x2E ∈ name
  · obtain ⟨stem, after, rfl, hafter⟩ := exists_last_dot hdot
    have hlength : after.length ≠ (stem ++ 0x2E :: after).length := by
      rw [List.length_append, List.length_cons]
      omega
    have hstem : (stem ++ 0x2E :: after).take ((stem ++ 0x2E :: after).length - after.length - 1) =
        stem := by
      apply List.take_left'
      rw [List.length_append, List.length_cons]
      omega
    simp only [takeWhile_reverse_of_dot hafter, hstem, hlength, false_or]
    constructor
    · intro h
      split at h
      · cases h
      · rename_i hne
        obtain rfl := Option.some.inj h
        exact ⟨hafter, stem, hne, rfl⟩
    · rintro ⟨hextension, stem', hne, hends⟩
      -- A last dot is found from behind, so there is one only.
      have hsame : after = extension := by
        rw [← takeWhile_reverse_of_dot hafter, hends, takeWhile_reverse_of_dot hextension]
      subst hsame
      obtain rfl := List.append_cancel_right hends
      rw [if_neg hne]
  · have hall : (name.reverse.takeWhile (· ≠ 0x2E)).reverse = name := by
      have htaken : name.reverse.takeWhile (· ≠ 0x2E) = name.reverse := by
        rw [List.takeWhile_eq_self_iff]
        intro b hb
        rw [decide_eq_true_iff]
        rintro rfl
        exact hdot (List.mem_reverse.mp hb)
      rw [htaken, List.reverse_reverse]
    simp only [hall, true_or, if_true]
    constructor
    · intro h
      cases h
    · rintro ⟨_, stem, _, rfl⟩
      exact absurd (List.mem_append_right _ List.mem_cons_self) hdot

/-- The extension of a search path is the configured one without the dots in front. -/
theorem SearchPath.extension_ofConfig (text : String) (home : Option Path) (dots : Nat)
    {extension : String} (h : extension.toList.head? ≠ some '.') :
    (ofConfig text home (String.ofList (List.replicate dots '.') ++ extension)).extension =
      encode extension := by
  have hdots : ∀ c ∈ List.replicate dots '.', decide (c = '.') = true := by
    intro c hc
    rw [decide_eq_true_iff]
    exact List.eq_of_mem_replicate hc
  have hrest : extension.toList.dropWhile (· = '.') = extension.toList := by
    cases hextension : extension.toList with
    | nil => rfl
    | cons c cs =>
        rw [hextension] at h
        apply List.dropWhile_cons_of_neg
        rw [decide_eq_true_iff]
        rintro rfl
        exact h rfl
  unfold ofConfig
  rw [String.toList_append, String.toList_ofList, List.dropWhile_append_of_pos hdots, hrest,
    String.ofList_toList]

/-! ## The files of a directory -/

/-- **Holds** — the names of the definition files in a directory, among those that are offered. -/
structure Holds (offers : Path → Bytes → Prop) (extension : Bytes) (d : Path)
    (names : List Bytes) : Prop where
  /-- No name comes twice, and the order is that of the bytes. -/
  ascending : names.Pairwise (· < ·)
  matching : ∀ name, name ∈ names ↔ HasExtension extension name ∧ offers d name

/-- **InReach** — no definition file that the directory offers lies behind too many links or has too
long a path. -/
structure InReach (t : Tree) (extension : Bytes) (d : Path) : Prop where
  few : ∀ name links, HasExtension extension name → t.LeadsOver d name links →
    links ≤ Tree.linkLimit
  short : ∀ name, HasExtension extension name → t.Offers d name →
    (d.join name).bytes.length ≤ Tree.pathLimit

/-- **Along** — the files in directories, one directory after the other. -/
inductive Along (holds : Path → List Bytes → Prop) : List Path → List Path → Prop
  | none : Along holds [] []
  | next {d : Path} {ds files : List Path} {names : List Bytes} (here : holds d names)
      (others : Along holds ds files) : Along holds (d :: ds) (names.map d.join ++ files)

variable {t : Tree} {offers : Path → Bytes → Prop} {extension : Bytes} {d : Path}
  {names names' : List Bytes}

/-- What a directory holds is one list. -/
theorem Holds.unique (h : Holds offers extension d names) (h' : Holds offers extension d names') :
    names = names' := by
  have hnodup : ∀ {names : List Bytes}, names.Pairwise (· < ·) → names.Nodup := by
    intro names hnames
    apply hnames.imp
    rintro a _ hlt rfl
    exact List.lt_irrefl a hlt
  have hperm : names.Perm names' := by
    rw [List.perm_ext_iff_of_nodup (hnodup h.ascending) (hnodup h'.ascending)]
    intro name
    exact (h.matching name).trans (h'.matching name).symm
  apply List.Perm.eq_of_pairwise _ h.ascending h'.ascending hperm
  intro a b _ _ hab hba
  exact absurd (List.lt_trans hab hba) (List.lt_irrefl a)

theorem Along.unique {ds files files' : List Path} (h : Along (Holds offers extension) ds files)
    (h' : Along (Holds offers extension) ds files') : files = files' := by
  induction h generalizing files' with
  | none =>
      cases h' with
      | none => rfl
  | next here _ ih =>
      cases h' with
      | next here' others' => rw [here.unique here', ih others']

theorem Along.mono {holds holds' : Path → List Bytes → Prop} {ds files : List Path}
    (h : Along holds ds files) (hmono : ∀ d ∈ ds, ∀ names, holds d names → holds' d names) :
    Along holds' ds files := by
  induction h with
  | none => exact .none
  | next here _ ih =>
      obtain ⟨hd, hds⟩ := List.forall_mem_cons.mp hmono
      exact .next (hd _ here) (ih hds)

/-- What is in reach is found. -/
theorem InReach.finds_iff (h : InReach t extension d) {name : Bytes}
    (hname : HasExtension extension name) : t.Finds d name ↔ t.Offers d name := by
  constructor
  · rintro ⟨links, _, leads, _⟩
    exact ⟨links, leads⟩
  · rintro ⟨links, leads⟩
    exact ⟨links, h.few name links hname leads, leads, h.short name hname ⟨links, leads⟩⟩

theorem InReach.of_finds
    (h : ∀ name, HasExtension extension name → t.Offers d name → t.Finds d name) :
    InReach t extension d where
  few name links hname leads := by
    obtain ⟨links', few, leads', _⟩ := h name hname ⟨links, leads⟩
    exact leads.unique leads' ▸ few
  short name hname offered := by
    obtain ⟨_, _, _, short⟩ := h name hname offered
    exact short

theorem InReach.holds (h : InReach t extension d) (hd : Holds t.Finds extension d names) :
    Holds t.Offers extension d names where
  ascending := hd.ascending
  matching name := (hd.matching name).trans (and_congr_right h.finds_iff)

/-! ## The files of a search path -/

namespace SearchPath

variable {s : SearchPath} {fs : FileSystem}

theorem holds_of_unlisted {e : IoFault} (h : t.entries d = .error e) :
    Holds t.Finds extension d [] where
  ascending := .nil
  matching name := by
    constructor
    · intro hname
      cases hname
    · rintro ⟨_, _, _, ⟨m, l, _, hopens, inside, _⟩, _⟩
      rw [Tree.entries_eq_ok_iff.mpr ⟨m, l, hopens, inside, rfl⟩] at h
      cases h

/-- What is kept of a listing, in ascending order, is what the directory holds. -/
theorem holds_of_listed (ht : t.Proper) (hfs : t.Enumerates fs) {listing wanted : List Bytes}
    (hlisting : t.entries d = .ok listing) (hnames : names.Perm listing)
    (hwanted : wanted.Perm (names.filter fun name =>
      fs.isFile (d.join name) && Path.extension? name == some extension))
    (hascend : Ascend wanted) : Holds t.Finds extension d wanted := by
  obtain ⟨m₀, l₀, hopens₀, inside₀, rfl⟩ := Tree.entries_eq_ok_iff.mp hlisting
  have hnodup : wanted.Nodup := hwanted.nodup_iff.mpr
    ((hnames.nodup_iff.mpr (ht.nodup_namesIn l₀)).filter _)
  constructor
  · apply hascend.imp₂ _ hnodup
    intro a b hle hne
    by_contra hlt
    exact hne (List.le_antisymm hle (List.not_lt.mp hlt))
  · intro name
    rw [hwanted.mem_iff, List.mem_filter, hnames.mem_iff, Bool.and_eq_true, beq_iff_eq, hfs.isFile]
    constructor
    · rintro ⟨hmem, hfile, hextension⟩
      obtain ⟨named, hseparator, hzero⟩ := ht.named_of_mem hmem
      exact ⟨(extension?_eq_some_iff named.ne_above).mp hextension,
        (Tree.isFile_join_iff hopens₀.ne_nil named hseparator hzero).mp hfile⟩
    · rintro ⟨hextension, finds⟩
      obtain ⟨_, _, ⟨m, l, n, hopens, _, leads, _⟩, _⟩ := id finds
      -- The directory leads to one location only, so the entry is among those that are listed.
      obtain ⟨-, rfl⟩ := hopens.unique hopens₀
      have hmem : name ∈ t.namesIn l := leads.mem_namesIn
      obtain ⟨named, hseparator, hzero⟩ := ht.named_of_mem hmem
      exact ⟨hmem, (Tree.isFile_join_iff hopens.ne_nil named hseparator hzero).mpr finds,
        (extension?_eq_some_iff named.ne_above).mpr hextension⟩

theorem along_of_enumerates (ht : t.Proper) (hfs : t.Enumerates fs) (s : SearchPath) :
    Along (Holds t.Finds s.extension) s.directories (s.files fs) := by
  have hlists : s.Lists fs s.directories (s.files fs) := lists_iff.mpr rfl
  generalize s.directories = ds, s.files fs = files at hlists
  induction hlists with
  | none => exact .none
  | @unreadable d ds files e refused _ ih =>
      have hd : ∃ e', t.entries d = .error e' := by
        cases hentries : t.entries d with
        | error e' => exact ⟨e', rfl⟩
        | ok names =>
            obtain ⟨_, hlisted, _⟩ := hfs.listed d names hentries
            rw [refused] at hlisted
            cases hlisted
      obtain ⟨e', he'⟩ := hd
      exact .next (holds_of_unlisted he') ih
  | @readable d ds files names wanted listed wants ascend _ ih =>
      apply Along.next _ ih
      cases hentries : t.entries d with
      | error e =>
          obtain ⟨e', he'⟩ := hfs.unlisted d e hentries
          rw [listed] at he'
          cases he'
      | ok listing =>
          obtain ⟨names', hlisted, hperm⟩ := hfs.listed d listing hentries
          rw [listed] at hlisted
          obtain rfl := Except.ok.inj hlisted
          exact holds_of_listed ht hfs hentries hperm wants ascend

/-- **files_along** — where all definition files are in reach, the files of a search path in a tree
are, directory by directory, the files and links to files whose names have the configured extension,
by name. Those out of reach are left out. Whether or not there are such, the system cannot influence
the list by the order in which it enumerates directories. -/
theorem files_along (ht : t.Proper) (text : String) (home : Option Path) (dots : Nat)
    {extension : String} (hextension : extension.toList.head? ≠ some '.') :
    let s := ofConfig text home (String.ofList (List.replicate dots '.') ++ extension)
    (∀ fs, t.Enumerates fs → (∀ d ∈ s.directories, InReach t (encode extension) d) →
      Along (Holds t.Offers (encode extension)) s.directories (s.files fs)) ∧
    (∀ fs, t.Enumerates fs →
      Along (Holds t.Finds (encode extension)) s.directories (s.files fs)) ∧
    ∀ fs fs', t.Enumerates fs → t.Enumerates fs' → s.files fs = s.files fs' := by
  intro s
  have hs : s.extension = encode extension := extension_ofConfig text home dots hextension
  rw [← hs]
  have hfound : ∀ fs, t.Enumerates fs →
      Along (Holds t.Finds s.extension) s.directories (s.files fs) :=
    fun fs hfs => along_of_enumerates ht hfs s
  refine ⟨fun fs hfs reach => ?_, hfound, fun fs fs' hfs hfs' => ?_⟩
  · exact (hfound fs hfs).mono fun d hd names => (reach d hd).holds
  · exact (hfound fs hfs).unique (hfound fs' hfs')

/-- A directory with a file, a link to it, a link to nothing, a directory, and names that begin or
end with their dot. -/
def shelf : Tree where
  nodes :=
    [([encode "d"], .directory),
      ([encode "d", encode "b.json"], .file []),
      ([encode "d", encode "a.json"], .link (.ofString "../d/b.json")),
      ([encode "d", encode "c.json"], .link (.ofString "/none")),
      ([encode "d", encode "e.json"], .directory),
      ([encode "d", encode ".json"], .file []),
      ([encode "d", encode "f.json."], .file [])]
  start := [encode "home"]

/-- The directory of the shelf offers nothing that is out of reach. -/
theorem inReach_shelf : InReach shelf (encode "json") (.ofString "/d") := by
  have hd : shelf.resolve (.ofString "/d") = .ok [encode "d"] := by cbv
  obtain ⟨_, hopens₀⟩ := Tree.resolve_eq_ok_iff.mp hd
  have hnames : shelf.namesIn [encode "d"] = [encode "b.json", encode "a.json", encode "c.json",
    encode "e.json", encode ".json", encode "f.json."] := by decide
  have hc : shelf.node? [encode "d", encode "c.json"] = some (.link (.ofString "/none")) := by
    decide
  have he : shelf.node? [encode "d", encode "e.json"] = some .directory := by decide
  have hfound : ∀ {name : Bytes}, Path.IsName name → Path.separator ∉ name → 0 ∉ name →
      shelf.isFile ((Path.ofString "/d").join name) = true → shelf.Finds (.ofString "/d") name :=
    fun named hseparator hzero => (Tree.isFile_join_iff (by decide) named hseparator hzero).mp
  refine .of_finds fun name _ offered => ?_
  obtain ⟨_, _, _, n, hopens, _, leads, _⟩ := id offered
  obtain ⟨-, rfl⟩ := hopens.unique hopens₀
  have hmem := leads.mem_namesIn
  rw [hnames] at hmem
  simp only [List.mem_cons, List.not_mem_nil, or_false] at hmem
  obtain rfl | rfl | rfl | rfl | rfl | rfl := hmem
  · exact hfound (by decide) (by decide) (by decide) (by cbv)
  · exact hfound (by decide) (by decide) (by decide) (by cbv)
  · cases leads with
    | file found => cases hc.symm.trans found
    | link found leads =>
        cases hc.symm.trans found
        -- Nothing is at the target, however many links may be followed.
        have hnone : ∀ links, shelf.walk links [] [[], encode "none"] = .error .notFound := by
          intro links
          cbv
        have hsome := leads.walk (Nat.le_refl _)
        cases (hnone _).symm.trans hsome
  · cases leads with
    | file found => cases he.symm.trans found
    | link found => cases he.symm.trans found
  · exact hfound (by decide) (by decide) (by decide) (by cbv)
  · exact hfound (by decide) (by decide) (by decide) (by cbv)

theorem files_along_shelf :
    let s := ofConfig "/d;/none;/d" none "..json"
    let fs := { shelf with nodes := shelf.nodes.reverse : Tree }.system
    shelf.Proper ∧ "json".toList.head? ≠ some '.' ∧ shelf.Enumerates shelf.system ∧
      shelf.Enumerates fs ∧ (∀ d ∈ s.directories, InReach shelf (encode "json") d) ∧
      Along (Holds shelf.Offers (encode "json")) s.directories (s.files fs) ∧
      s.files fs = [.ofString "/d/a.json", .ofString "/d/b.json", .ofString "/d/a.json",
        .ofString "/d/b.json"] := by
  intro s fs
  have ht : shelf.Proper := ⟨by decide, by decide⟩
  have hreversed : shelf.Enumerates fs := ht.enumerates_of_perm (List.reverse_perm _) rfl
  have hext : "json".toList.head? ≠ some '.' := by decide
  have hdirectories : s.directories = [.ofString "/d", .ofString "/none", .ofString "/d"] := by
    decide
  have hnone : InReach shelf (encode "json") (.ofString "/none") := by
    refine .of_finds fun _ _ ⟨_, _, l, _, hopens, _⟩ => ?_
    have hmissing : shelf.resolve (.ofString "/none") = .error (.os .notFound) := by cbv
    cases hmissing.symm.trans (Tree.resolve_eq_ok_iff.mpr ⟨_, hopens⟩)
  have hreach : ∀ d ∈ s.directories, InReach shelf (encode "json") d := by
    rw [hdirectories]
    simp [inReach_shelf, hnone]
  obtain ⟨halong, -, hsame⟩ := files_along ht "/d;/none;/d" none 2 hext
  refine ⟨ht, hext, shelf.enumerates_system, hreversed, hreach, halong fs hreversed hreach, ?_⟩
  exact (hsame fs shelf.system hreversed shelf.enumerates_system).trans (by cbv)

/-! ## A file out of reach -/

/-- A directory with one definition file. -/
def plainShelf : Tree where
  nodes := [([encode "d"], .directory), ([encode "d", encode "a.json"], .file [])]
  start := []

/-- The path of the directory, with slashes behind it. -/
def slashedText (n : Nat) : String := String.ofList ('d' :: '/' :: List.replicate n '/')

theorem bytes_slashedText (n : Nat) :
    (Path.ofString (slashedText n)).bytes =
      encode "d" ++ Path.separator :: List.replicate n Path.separator := by
  have hslashes : (List.replicate n '/').flatMap String.utf8EncodeChar =
      List.replicate n Path.separator := by
    induction n with
    | zero => rfl
    | succ n ih =>
        rw [List.replicate_succ, List.flatMap_cons, ih]
        rfl
  rw [Path.ofString, slashedText, encode, String.toList_ofList, List.flatMap_cons,
    List.flatMap_cons, hslashes]
  rfl

theorem parts_slashedText (n : Nat) :
    Path.parts (Path.ofString (slashedText n)).bytes =
      encode "d" :: List.replicate (n + 1) [] := by
  have hslashes : Path.parts (List.replicate n Path.separator) = List.replicate (n + 1) [] := by
    induction n with
    | zero => rfl
    | succ n ih => exact (Path.parts_append [] _).trans (congrArg ([] :: ·) ih)
  rw [bytes_slashedText, Path.parts_append, hslashes]
  rfl

theorem length_slashedText (n : Nat) :
    (Path.ofString (slashedText n)).bytes.length = n + 2 := by
  rw [bytes_slashedText, List.length_append, List.length_cons, List.length_replicate]
  exact Nat.add_comm 1 (n + 1)

/-- Slashes behind a path lead nowhere else. -/
theorem opens_slashedText {n : Nat} (hn : n + 2 ≤ Tree.pathLimit) :
    plainShelf.Opens (.ofString (slashedText n)) 0 [encode "d"] where
  whole := by
    rw [bytes_slashedText]
    simp [Path.separator, show 0 ∉ encode "d" by decide]
  ne_nil := by
    rw [bytes_slashedText]
    exact List.append_ne_nil_of_left_ne_nil (by decide) _
  short := by rwa [length_slashedText]
  follows := by
    have hstay : plainShelf.Follows [encode "d"] (List.replicate (n + 1) []) 0 [encode "d"] := by
      induction n + 1 with
      | zero => exact .done _
      | succ k ih => exact .stay (by decide) (.inl rfl) ih
    have hstart : Tree.origin plainShelf.start (.ofString (slashedText n)) = [] := by
      unfold Tree.origin
      split <;> rfl
    have hfound : plainShelf.node? [encode "d"] = some .directory := rfl
    rw [parts_slashedText, hstart]
    exact .down (by decide) (by decide) hfound (fun _ => Node.noConfusion) hstay
  few := Nat.zero_le _

theorem directories_slashedText (n : Nat) :
    (ofConfig (slashedText n) none "json").directories = [.ofString (slashedText n)] := by
  have hchars : ∀ c ∈ (slashedText n).toList, c = 'd' ∨ c = '/' := by
    intro c hc
    rw [slashedText, String.toList_ofList] at hc
    rcases List.mem_cons.mp hc with rfl | hc
    · exact .inl rfl
    · exact .inr (List.eq_of_mem_replicate (n := n + 1) hc)
  have hsegment : IsSegment (slashedText n) :=
    { nonempty := by
        intro hempty
        have hnil := congrArg String.toList hempty
        rw [slashedText, String.toList_ofList] at hnil
        cases hnil
      trimmed := by
        intro c hc
        have hmem : c ∈ (slashedText n).toList := hc.elim List.mem_of_head? List.mem_of_getLast?
        rcases hchars c hmem with rfl | rfl <;> decide
      noSemicolon := fun hmem => by
        rcases hchars ';' hmem with h | h <;> exact absurd h (by decide) }
  have hpadded : Padded [slashedText n] ["" ++ slashedText n ++ ""] :=
    .segment (List.forall_mem_nil _) .none
  have htext : slashedText n = ";".intercalate ["" ++ slashedText n ++ ""] := by
    rw [String.empty_append, String.append_empty, String.intercalate_singleton]
  exact directories_padded hpadded (List.forall_mem_singleton.mpr hsegment) htext

/-- No path of a file with the extension is short enough behind many slashes. -/
theorem holds_slashedText {n : Nat} (hn : Tree.pathLimit < n + 8) :
    Holds plainShelf.Finds (encode "json") (.ofString (slashedText n)) [] where
  ascending := .nil
  matching name := by
    constructor
    · intro hname
      cases hname
    · rintro ⟨⟨-, stem, hstem, rfl⟩, _, _, _, short⟩
      have hlength : ∀ name : Bytes, (Path.ofString (slashedText n)).bytes.length + name.length ≤
          ((Path.ofString (slashedText n)).join name).bytes.length := by
        intro name
        unfold Path.join
        split <;> simp
      have hname := hlength (stem ++ 0x2E :: encode "json")
      have hpositive := List.length_pos_of_ne_nil hstem
      rw [length_slashedText, List.length_append, List.length_cons,
        show (encode "json").length = 4 by decide] at hname
      omega

/-- With many slashes behind it the directory can still be listed, but its file is left out. -/
theorem files_slashedText {n : Nat} (hshort : n + 2 ≤ Tree.pathLimit)
    (hlong : Tree.pathLimit < n + 8) :
    (ofConfig (slashedText n) none "json").files plainShelf.system = [] ∧
      ¬ Along (Holds plainShelf.Offers (encode "json"))
        (ofConfig (slashedText n) none "json").directories [] := by
  rw [directories_slashedText]
  constructor
  · have ht : plainShelf.Proper := ⟨by decide, by decide⟩
    have hfound := along_of_enumerates ht plainShelf.enumerates_system
      (ofConfig (slashedText n) none "json")
    rw [directories_slashedText] at hfound
    generalize (ofConfig (slashedText n) none "json").files plainShelf.system = files at hfound ⊢
    cases hfound with
    | next here others =>
        cases others
        rw [here.unique (holds_slashedText hlong)]
        rfl
  · intro halong
    have hextension : HasExtension (encode "json") (encode "a.json") :=
      ⟨by decide, encode "a", by decide, by decide⟩
    have hoffered : plainShelf.Offers (.ofString (slashedText n)) (encode "a.json") :=
      ⟨_, _, _, _, opens_slashedText hshort, by decide, .file rfl, rfl⟩
    generalize hfiles : ([] : List Path) = files at halong
    cases halong with
    | next here others =>
        obtain ⟨hnames, -⟩ := List.append_eq_nil_iff.mp hfiles.symm
        rw [List.map_eq_nil_iff.mp hnames] at here
        cases (here.matching _).mpr ⟨hextension, hoffered⟩

/-- The directory can be listed by a path of 4093 bytes, but its file is left out. -/
theorem slashedText_leaves_out :
    plainShelf.Proper ∧ plainShelf.Enumerates plainShelf.system ∧
      (ofConfig (slashedText 4091) none "json").files plainShelf.system = [] ∧
      ¬ Along (Holds plainShelf.Offers (encode "json"))
        (ofConfig (slashedText 4091) none "json").directories [] :=
  ⟨⟨by decide, by decide⟩, plainShelf.enumerates_system,
    files_slashedText (by decide) (by decide)⟩

end SearchPath

end CommandShell
