import CommandShell.Command.DefinitionFile
import CommandShell.Proofs.Command.Table
import CommandShell.Proofs.Text.ByteOrder
import CommandShell.Proofs.Text.Utf8
import Mathlib.Data.Finset.Card

/-!
# Tables that changes have built

A caller changes a table in three ways: a definition is inserted, a list of definitions is added, a
definition file is loaded. Whatever the order of such changes, a table that was empty at first is a
finite map from lists of words (`isMapOf_after`): a list of words stands for the last definition
with these words among those of the changes that succeeded, and for nothing if there is none.

A change succeeds if it brings definitions and none of their names is blank, and a change that fails
leaves the table as it was (`make_spec`). Both are facts about one change, so they hold at every
place in a sequence.
-/

namespace CommandShell

open CommandShell.Text
open CommandShell.Files

namespace Table

/-! ## Changes -/

/-- **Change** — what a caller can ask of a table. -/
inductive Change
  | insert (d : Definition)
  | extend (ds : List Definition)
  | load (files : FileSystem) (path : Path)

namespace Change

/-- **make** — what the caller of a change is told, and the table that is left. -/
def make : Change → Table → Except ShellError Unit × Table
  | insert d, t => t.register d
  | extend ds, t => t.registerAll ds
  | load files path, t => t.registerFile files path

/-- **Brings** — the definitions that a change has for the table. A file has some if it holds the
UTF-8 encoding of the text of a definition file. -/
inductive Brings : Change → List Definition → Prop
  | insert (d : Definition) : Brings (.insert d) [d]
  | extend (ds : List Definition) : Brings (.extend ds) ds
  | load {files : FileSystem} {path : Path} {text : String} {file : DefinitionFile}
      (content : files.opened path = .ok (.file (encode text)))
      (valid : DefinitionFile.parse text = .ok file) : Brings (.load files path) file.commands

/-- The definitions of a change, if it brings any. -/
def definitions? : Change → Option (List Definition)
  | insert d => some [d]
  | extend ds => some ds
  | load files path =>
    match files.readText path with
    | .error _ => none
    | .ok text =>
      match DefinitionFile.parse text with
      | .error _ => none
      | .ok file => some file.commands

/-- A file can be read as text if and only if it holds the encoding of the text. -/
theorem readText_eq_ok_iff {files : FileSystem} {path : Path} {text : String} :
    files.readText path = .ok text ↔ files.opened path = .ok (.file (encode text)) := by
  unfold FileSystem.readText
  split
  next e hopened => simp [hopened]
  next hopened => simp [hopened]
  next bytes hopened =>
    rw [hopened]
    split
    next hdecode =>
      constructor
      · intro h
        cases h
      · intro h
        rw [Except.ok.injEq, Opened.file.injEq] at h
        rw [decode?_eq_some_iff.mpr h] at hdecode
        cases hdecode
    next text' hdecode =>
      obtain rfl := decode?_eq_some_iff.mp hdecode
      rw [Except.ok.injEq, Except.ok.injEq, Opened.file.injEq]
      constructor
      · intro h
        rw [h]
      · intro h
        rw [decode?_eq_some_iff.mpr h] at hdecode
        exact (Option.some.inj hdecode).symm

theorem definitions?_eq_some_iff {c : Change} {ds : List Definition} :
    c.definitions? = some ds ↔ c.Brings ds := by
  constructor
  · intro h
    unfold definitions? at h
    split at h
    next d =>
      obtain rfl := Option.some.inj h
      exact .insert d
    next ds' =>
      obtain rfl := Option.some.inj h
      exact .extend ds'
    next files path =>
      split at h
      · cases h
      next text htext =>
        split at h
        · cases h
        next file hfile =>
          obtain rfl := Option.some.inj h
          exact .load (readText_eq_ok_iff.mp htext) hfile
  · intro h
    unfold definitions?
    cases h with
    | insert d => rfl
    | extend ds => rfl
    | load content valid =>
        dsimp only
        rw [readText_eq_ok_iff.mpr content]
        dsimp only
        rw [valid]

/-- A change registers the definitions that it brings. -/
theorem make_of_some {c : Change} {ds : List Definition} (h : c.definitions? = some ds)
    (t : Table) :
    c.make t = t.registerAll ds := by
  cases c with
  | insert d =>
      obtain rfl : [d] = ds := Option.some.inj h
      show t.register d = t.registerAll [d]
      by_cases hd : words d.name = []
      · rw [register_of_blank t hd]
        exact (if_pos (any_blank_iff.mpr ⟨d, List.mem_singleton_self d, hd⟩)).symm
      · rw [register_of_words t hd, registerAll_of_words t (List.forall_mem_singleton.mpr hd)]
        rfl
  | extend ds' =>
      obtain rfl : ds' = ds := Option.some.inj h
      rfl
  | load files path =>
      show t.registerFile files path = _
      unfold definitions? at h
      unfold registerFile
      dsimp only at h
      cases htext : files.readText path with
      | error e =>
          rw [htext] at h
          cases h
      | ok text =>
          rw [htext] at h
          dsimp only at h ⊢
          cases hfile : DefinitionFile.parse text with
          | error f =>
              rw [hfile] at h
              cases h
          | ok file =>
              rw [hfile] at h
              obtain rfl : file.commands = ds := Option.some.inj h
              rfl

/-- A change that brings no definitions fails. -/
theorem make_of_none {c : Change} (h : c.definitions? = none) (t : Table) :
    ∃ e, c.make t = (.error e, t) := by
  cases c with
  | insert d => cases h
  | extend ds => cases h
  | load files path =>
      show ∃ e, t.registerFile files path = (.error e, t)
      unfold definitions? at h
      unfold registerFile
      dsimp only at h
      cases htext : files.readText path with
      | error e => exact ⟨_, rfl⟩
      | ok text =>
          rw [htext] at h
          dsimp only at h ⊢
          cases hfile : DefinitionFile.parse text with
          | error f => exact ⟨_, rfl⟩
          | ok file =>
              rw [hfile] at h
              cases h

/-- **make_spec** — either a change brings definitions that all have words and they are all put into
the table in order, or it fails and the table stays as it was. -/
theorem make_spec (c : Change) (t : Table) :
    (∃ ds, c.definitions? = some ds ∧ (∀ d ∈ ds, words d.name ≠ []) ∧
        c.make t = (.ok (), ⟨ds.foldl (fun entries d => put d.key d entries) t.entries⟩)) ∨
      (¬∃ ds, c.definitions? = some ds ∧ ∀ d ∈ ds, words d.name ≠ []) ∧
        ∃ e, c.make t = (.error e, t) := by
  cases hds : c.definitions? with
  | none =>
      refine .inr ⟨?_, make_of_none hds t⟩
      rintro ⟨ds, h, -⟩
      cases h
  | some ds =>
      rw [make_of_some hds t]
      by_cases hblank : ∃ d ∈ ds, words d.name = []
      · refine .inr ⟨?_, _, registerAll_of_blank t hblank⟩
        rintro ⟨ds', h, hwords⟩
        obtain rfl := Option.some.inj h
        obtain ⟨d, hd, hnil⟩ := hblank
        exact hwords d hd hnil
      · have hwords : ∀ d ∈ ds, words d.name ≠ [] := fun d hd hnil => hblank ⟨d, hd, hnil⟩
        exact .inl ⟨ds, rfl, hwords, registerAll_of_words t hwords⟩

end Change

/-! ## Sequences of changes -/

/-- **after** — the table that changes make of an empty one. -/
def after (cs : List Change) : Table := cs.foldl (fun t c => (c.make t).2) empty

/-- **registered** — the definitions of the changes that succeed, in order, from a table on. -/
def registered : Table → List Change → List Definition
  | _, [] => []
  | t, c :: cs =>
    (match (c.make t).1 with
      | .ok _ => c.definitions?.getD []
      | .error _ => []) ++ registered (c.make t).2 cs

/-- Every registered definition has words, and the entries are those of all of them. -/
theorem registered_spec (cs : List Change) (t : Table) (ds : List Definition)
    (ht : t.entries = entriesOf ds) :
    (∀ d ∈ registered t cs, words d.name ≠ []) ∧
      (cs.foldl (fun t c => (c.make t).2) t).entries = entriesOf (ds ++ registered t cs) := by
  induction cs generalizing t ds with
  | nil =>
      refine ⟨List.forall_mem_nil _, ?_⟩
      show t.entries = entriesOf (ds ++ [])
      rw [List.append_nil, ht]
  | cons c cs ih =>
      rw [List.foldl_cons]
      unfold registered
      obtain ⟨new, hnew, hwords, hmake⟩ | ⟨-, e, hmake⟩ := c.make_spec t
      · rw [hmake, hnew]
        dsimp only [Option.getD]
        have hentries : new.foldl (fun entries d => put d.key d entries) t.entries
            = entriesOf (ds ++ new) := by
          rw [ht]
          exact List.foldl_append.symm
        obtain ⟨hrest, hlast⟩ := ih ⟨_⟩ (ds ++ new) hentries
        constructor
        · intro d hd
          obtain hd | hd := List.mem_append.mp hd
          · exact hwords d hd
          · exact hrest d hd
        · rw [hlast, List.append_assoc]
      · rw [hmake]
        exact ih t ds ht

/-! ## The finite map -/

/-- **IsMapOf** — a table holds, for every list of words that a definition of a list has for its
name, the last definition with these words, and nothing else. -/
structure IsMapOf (t : Table) (ds : List Definition) : Prop where
  /-- The entries are the last definitions, each under its words with single spaces. -/
  mem_entries_iff : ∀ name d, (name, d) ∈ t.entries ↔
    ∃ ws, ws ≠ [] ∧ name = unwords ws ∧ lastNamed ds ws = some d
  /-- What is found under a list of words is the last definition with them. -/
  get?_unwords : ∀ ws, (∀ w ∈ ws, IsWord w) → t.get? (unwords ws) = lastNamed ds ws
  /-- The names are those of the lists of words that occur, each list once. -/
  mem_names_iff : ∀ ws, ws ∈ t.names.map words ↔ ws ≠ [] ∧ ∃ d ∈ ds, words d.name = ws
  names_once : (t.names.map words).Nodup
  /-- A name is its words with single spaces between them. -/
  names_spaced : ∀ name ∈ t.names, name = unwords (words name)
  /-- The names ascend strictly, byte by byte. -/
  names_ascend : t.names.Pairwise fun a b => encode a < encode b
  /-- The size is the number of the lists of words that occur. -/
  size_eq : t.size = (ds.map fun d => words d.name).toFinset.card

variable {t : Table} {ds : List Definition}

theorem get?_eq_some_iff (h : Ascending t.entries) {key : String} {d : Definition} :
    t.get? key = some d ↔ (key, d) ∈ t.entries := by
  unfold get?
  generalize t.entries = entries at h ⊢
  induction entries with
  | nil => simp
  | cons e rest ih =>
      obtain ⟨hfirst, hrest⟩ := List.pairwise_cons.mp h
      by_cases hkey : e.1 = key
      · have hnot : (key, d) ∉ rest := by
          intro hmem
          exact key_ne_of_lt (hfirst (key, d) hmem) hkey
        rw [List.find?_cons_of_pos (by simpa using hkey), List.mem_cons, or_iff_left hnot]
        show some e.2 = some d ↔ _
        rw [Option.some.injEq, Prod.ext_iff]
        constructor
        · intro h
          exact ⟨hkey.symm, h.symm⟩
        · intro h
          exact h.2.symm
      · have hne : (key, d) ≠ e := by
          intro heq
          exact hkey (congrArg Prod.fst heq).symm
        rw [List.find?_cons_of_neg (by simpa using hkey), ih hrest, List.mem_cons,
          or_iff_right hne]

theorem mem_names_iff_entry {name : String} : name ∈ t.names ↔ ∃ d, (name, d) ∈ t.entries := by
  unfold names
  rw [List.mem_map]
  constructor
  · rintro ⟨e, he, rfl⟩
    exact ⟨e.2, he⟩
  · rintro ⟨d, hd⟩
    exact ⟨_, hd, rfl⟩

/-! ### The names in a table -/

/-- The names are the keys of the definitions. -/
theorem mem_names_entriesOf_iff {name : String} :
    name ∈ names ⟨entriesOf ds⟩ ↔ ∃ d ∈ ds, name = unwords (words d.name) := by
  rw [mem_names_iff_entry]
  constructor
  · rintro ⟨d, hd⟩
    obtain ⟨ws, rfl, hlast⟩ := (mem_entriesOf_iff ds).mp hd
    obtain ⟨hmem, hws⟩ := words_of_lastNamed hlast
    exact ⟨d, hmem, congrArg unwords hws.symm⟩
  · rintro ⟨d, hd, rfl⟩
    obtain ⟨d', hlast⟩ := exists_lastNamed hd
    exact ⟨d', (mem_entriesOf_iff ds).mpr ⟨_, rfl, hlast⟩⟩

theorem names_spaced_entriesOf {name : String} (h : name ∈ names ⟨entriesOf ds⟩) :
    name = unwords (words name) := by
  obtain ⟨d, -, rfl⟩ := mem_names_entriesOf_iff.mp h
  rw [words_unwords_words]

/-- The lists of words in the names are those of the definitions. -/
theorem mem_words_names_iff {ws : List String} :
    ws ∈ (names ⟨entriesOf ds⟩).map words ↔ ∃ d ∈ ds, words d.name = ws := by
  rw [List.mem_map]
  constructor
  · rintro ⟨name, h, rfl⟩
    obtain ⟨d, hd, rfl⟩ := mem_names_entriesOf_iff.mp h
    exact ⟨d, hd, (words_unwords_words d.name).symm⟩
  · rintro ⟨d, hd, rfl⟩
    exact ⟨_, mem_names_entriesOf_iff.mpr ⟨d, hd, rfl⟩, words_unwords_words d.name⟩

theorem names_ascend_entriesOf (ds : List Definition) :
    (names ⟨entriesOf ds⟩).Pairwise (· < ·) :=
  List.pairwise_map.mpr (ascending_entriesOf ds)

/-- Names that differ have different words, for a name is its words with single spaces. -/
theorem words_names_nodup (ds : List Definition) :
    ((names ⟨entriesOf ds⟩).map words).Nodup := by
  refine List.Nodup.map_on ?_ ((names_ascend_entriesOf ds).imp key_ne_of_lt)
  intro a ha b hb heq
  rw [names_spaced_entriesOf ha, names_spaced_entriesOf hb, heq]

/-- As many entries are left as there are lists of words. -/
theorem size_entriesOf (ds : List Definition) :
    size ⟨entriesOf ds⟩ = (ds.map fun d => words d.name).toFinset.card := by
  have hsame : ((names ⟨entriesOf ds⟩).map words).toFinset
      = (ds.map fun d => words d.name).toFinset := by
    refine Finset.ext fun ws => ?_
    rw [List.mem_toFinset, List.mem_toFinset, mem_words_names_iff, List.mem_map]
  rw [← hsame, List.toFinset_card_of_nodup (words_names_nodup ds), List.length_map]
  exact (List.length_map Prod.fst).symm

/-! ### What is found in a table -/

theorem get?_entriesOf {ws : List String} (hws : ∀ w ∈ ws, IsWord w) :
    get? ⟨entriesOf ds⟩ (unwords ws) = lastNamed ds ws := by
  refine Option.ext fun d => ?_
  rw [get?_eq_some_iff (t := ⟨entriesOf ds⟩) (ascending_entriesOf ds), mem_entriesOf_iff]
  constructor
  · rintro ⟨ws', (hkey : unwords ws = unwords ws'), (hlast : lastNamed ds ws' = some d)⟩
    obtain ⟨-, rfl⟩ := words_of_lastNamed hlast
    have hsame : ws = words d.name := by
      rw [← words_unwords hws, hkey, words_unwords_words]
    rw [hsame]
    exact hlast
  · intro hlast
    exact ⟨ws, rfl, hlast⟩

/-- The entries that definitions with words leave are a finite map. -/
theorem isMapOf_entriesOf (hwords : ∀ d ∈ ds, words d.name ≠ []) : IsMapOf ⟨entriesOf ds⟩ ds where
  mem_entries_iff := by
    intro name d
    rw [mem_entriesOf_iff]
    refine exists_congr fun ws => ⟨fun h => ⟨?_, h⟩, fun h => h.2⟩
    obtain ⟨hd, rfl⟩ := words_of_lastNamed h.2
    exact hwords d hd
  get?_unwords := fun ws hws => get?_entriesOf hws
  mem_names_iff := by
    intro ws
    rw [mem_words_names_iff]
    refine ⟨fun h => ⟨?_, h⟩, fun h => h.2⟩
    obtain ⟨d, hd, rfl⟩ := h
    exact hwords d hd
  names_once := words_names_nodup ds
  names_spaced := fun name h => names_spaced_entriesOf h
  names_ascend := (names_ascend_entriesOf ds).imp encode_lt_encode_iff.mpr
  size_eq := size_entriesOf ds

/-- **isMapOf_after** — the table that changes have built is a finite map from lists of words to the
last definitions of the changes that succeeded. The next change, whichever it is, succeeds if and
only if it brings definitions and none of their names is blank, and otherwise it leaves the table as
it is. -/
theorem isMapOf_after (cs : List Change) :
    (after cs).IsMapOf (registered empty cs) ∧
      ∀ c : Change,
        ((c.make (after cs)).1 = .ok () ↔
          ∃ ds, c.Brings ds ∧ ∀ d ∈ ds, ∃ x ∈ d.name.toList, isBlank x = false) ∧
        ((c.make (after cs)).1 ≠ .ok () → (c.make (after cs)).2 = after cs) := by
  constructor
  · obtain ⟨hwords, hentries⟩ := registered_spec cs empty [] rfl
    have htable : after cs = ⟨entriesOf (registered empty cs)⟩ := congrArg Table.mk hentries
    rw [htable]
    exact isMapOf_entriesOf hwords
  · intro c
    have hword : ∀ d : Definition,
        words d.name ≠ [] ↔ ∃ x ∈ d.name.toList, isBlank x = false := by
      intro d
      rw [Ne, words_eq_nil_iff]
      simp
    have hbrings : (∃ ds, c.Brings ds ∧ ∀ d ∈ ds, ∃ x ∈ d.name.toList, isBlank x = false) ↔
        ∃ ds, c.definitions? = some ds ∧ ∀ d ∈ ds, words d.name ≠ [] := by
      refine exists_congr fun ds => and_congr Change.definitions?_eq_some_iff.symm ?_
      exact forall₂_congr fun d _ => (hword d).symm
    rw [hbrings]
    obtain ⟨ds, hds, hwords, hmake⟩ | ⟨hnone, e, hmake⟩ := c.make_spec (after cs)
    · rw [hmake]
      exact ⟨iff_of_true rfl ⟨ds, hds, hwords⟩, fun h => absurd rfl h⟩
    · rw [hmake]
      refine ⟨iff_of_false ?_ hnone, fun _ => rfl⟩
      intro h
      cases h

end Table

end CommandShell
