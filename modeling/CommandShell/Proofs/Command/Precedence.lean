import CommandShell.Proofs.Command.Changes
import CommandShell.Proofs.Command.Directories
import CommandShell.Proofs.Command.Listing
import CommandShell.Proofs.Command.Lookup

/-!
# Later definitions win

When a table is loaded along a search path, a list of words stands for the last definition in the
last accepted file that has one for it (`Prevails`). A file is accepted if it is a definition file
and none of its commands is without a name; whether it is does not depend on what was loaded before.
So a line is looked up by its longest beginning that is defined in an accepted file, and neither
rejected files nor directories that cannot be listed have any influence (`lookup_loadAll`).

The accepted files, put one behind the other, are one list of definitions. The table keeps the last
definition of each name in that list (`state_loadAll`), which is the last one in the last file that
has any (`lastNamed_flatten_iff`).
-/

namespace CommandShell

open CommandShell.Text
open CommandShell.Files

/-! ## Accepted files -/

/-- **Accepts** — the file at a path is a definition file with these commands, and each of them has
a name. -/
structure Accepts (fs : FileSystem) (path : Path) (commands : List Definition) : Prop where
  valid : (Table.Change.load fs path).Brings commands
  named : ∀ d ∈ commands, ∃ c ∈ d.name.toList, isBlank c = false

/-- **AcceptedAmong** — those of the files that are accepted, with their commands. -/
inductive AcceptedAmong (fs : FileSystem) : List Path → List (Path × List Definition) → Prop
  | none : AcceptedAmong fs [] []
  | accepted {path : Path} {paths : List Path} {commands : List Definition}
      {others : List (Path × List Definition)} (accepts : Accepts fs path commands)
      (rest : AcceptedAmong fs paths others) :
      AcceptedAmong fs (path :: paths) ((path, commands) :: others)
  | rejected {path : Path} {paths : List Path} {others : List (Path × List Definition)}
      (rejects : ∀ commands, ¬Accepts fs path commands) (rest : AcceptedAmong fs paths others) :
      AcceptedAmong fs (path :: paths) others

variable {fs : FileSystem} {path : Path} {commands : List Definition}

theorem Accepts.definitions? (h : Accepts fs path commands) :
    (Table.Change.load fs path).definitions? = some commands :=
  Table.Change.definitions?_eq_some_iff.mpr h.valid

/-- An accepted file is registered, whatever the table holds. -/
theorem Accepts.registerFile (h : Accepts fs path commands) (t : Table) :
    t.registerFile fs path =
      (.ok (), ⟨commands.foldl (fun entries d => Table.put d.key d entries) t.entries⟩) := by
  have hmake := Table.Change.make_of_some h.definitions? t
  have hwords : ∀ d ∈ commands, words d.name ≠ [] := fun d hd => words_ne_nil_iff.mpr (h.named d hd)
  rw [Table.registerAll_of_words t hwords] at hmake
  exact hmake

/-- A rejected file leaves the table as it is. -/
theorem registerFile_of_rejected (h : ∀ commands, ¬Accepts fs path commands) (t : Table) :
    ∃ e, t.registerFile fs path = (.error e, t) := by
  rcases (Table.Change.load fs path).make_spec t with ⟨ds, hds, hwords, -⟩ | ⟨-, e, hmake⟩
  · have haccepts : Accepts fs path ds :=
      ⟨Table.Change.definitions?_eq_some_iff.mp hds, fun d hd => words_ne_nil_iff.mp (hwords d hd)⟩
    exact absurd haccepts (h ds)
  · exact ⟨e, hmake⟩

theorem exists_acceptedAmong (fs : FileSystem) (paths : List Path) :
    ∃ accepted, AcceptedAmong fs paths accepted := by
  induction paths with
  | nil => exact ⟨[], .none⟩
  | cons path paths ih =>
      obtain ⟨others, hothers⟩ := ih
      by_cases h : ∃ commands, Accepts fs path commands
      · obtain ⟨commands, haccepts⟩ := h
        exact ⟨_, .accepted haccepts hothers⟩
      · exact ⟨_, .rejected (not_exists.mp h) hothers⟩

/-! ## The last definition in the last file -/

/-- **Prevails** — in these files, a list of words stands for a definition: it is the last one with
these words in the last file that has one. -/
inductive Prevails (files : List (List Definition)) (ws : List String) : Definition → Prop
  | last {earlier later : List (List Definition)} {before after : List Definition} {d : Definition}
      (split : files = earlier ++ (before ++ d :: after) :: later) (name : words d.name = ws)
      (lastInFile : ∀ d' ∈ after, words d'.name ≠ ws)
      (lastFile : ∀ file ∈ later, ∀ d' ∈ file, words d'.name ≠ ws) : Prevails files ws d

namespace Table

variable {ds ds' : List Definition} {ws : List String} {d : Definition}

theorem lastNamed_append (ds ds' : List Definition) (ws : List String) :
    lastNamed (ds ++ ds') ws = (lastNamed ds' ws).or (lastNamed ds ws) := by
  unfold lastNamed
  rw [List.filter_append, List.getLast?_append]

theorem lastNamed_eq_none_iff : lastNamed ds ws = none ↔ ∀ d ∈ ds, words d.name ≠ ws := by
  unfold lastNamed
  rw [List.getLast?_eq_none_iff, List.filter_eq_nil_iff]
  simp

/-- The last definition with some words has none of them behind it. -/
theorem lastNamed_eq_some_iff :
    lastNamed ds ws = some d ↔
      ∃ before after, ds = before ++ d :: after ∧ words d.name = ws ∧
        ∀ d' ∈ after, words d'.name ≠ ws := by
  constructor
  · intro h
    induction ds using List.reverseRecOn with
    | nil => cases h
    | append_singleton ds d' ih =>
        rw [lastNamed_concat] at h
        split_ifs at h with hname
        · obtain rfl := Option.some.inj h
          exact ⟨ds, [], rfl, hname, List.forall_mem_nil _⟩
        · obtain ⟨before, after, rfl, hd, hafter⟩ := ih h
          refine ⟨before, after ++ [d'], by simp, hd, ?_⟩
          intro x hx
          rcases List.mem_append.mp hx with hx | hx
          · exact hafter x hx
          · rw [List.mem_singleton.mp hx]
            exact hname
  · rintro ⟨before, after, rfl, hd, hafter⟩
    have hsplit : before ++ d :: after = (before ++ [d]) ++ after := by simp
    rw [hsplit, lastNamed_append, lastNamed_eq_none_iff.mpr hafter, lastNamed_concat, if_pos hd]
    rfl

/-- **lastNamed_flatten_iff** — in files put one behind the other, the last definition with some
words is the last one in the last file that has any. -/
theorem lastNamed_flatten_iff {files : List (List Definition)} :
    lastNamed files.flatten ws = some d ↔ Prevails files ws d := by
  constructor
  · intro h
    induction files with
    | nil => cases h
    | cons file files ih =>
        rw [List.flatten_cons, lastNamed_append] at h
        cases hlater : lastNamed files.flatten ws with
        | some d' =>
            -- A later file has one, and it counts.
            rw [hlater] at h
            obtain rfl := Option.some.inj h
            obtain @⟨earlier, later, before, after, _, rfl, hname, hafter, hrest⟩ := ih hlater
            have whole : file :: (earlier ++ (before ++ d' :: after) :: later) =
                (file :: earlier) ++ (before ++ d' :: after) :: later := rfl
            exact .last whole hname hafter hrest
        | none =>
            -- No later file has one, so this file is the last that does.
            rw [hlater] at h
            obtain ⟨before, after, rfl, hname, hafter⟩ := lastNamed_eq_some_iff.mp h
            have whole : (before ++ d :: after) :: files =
                [] ++ (before ++ d :: after) :: files := rfl
            refine .last whole hname hafter ?_
            intro file hfile d' hd'
            exact lastNamed_eq_none_iff.mp hlater d' (List.mem_flatten_of_mem hfile hd')
  · rintro @⟨earlier, later, before, after, _, rfl, hname, hafter, hrest⟩
    have hlater : lastNamed later.flatten ws = none := by
      apply lastNamed_eq_none_iff.mpr
      intro d' hd'
      obtain ⟨file, hfile, hd'⟩ := List.mem_flatten.mp hd'
      exact hrest file hfile d' hd'
    rw [List.flatten_append, List.flatten_cons, lastNamed_append, lastNamed_append, hlater,
      lastNamed_eq_some_iff.mpr ⟨before, after, rfl, hname, hafter⟩]
    rfl

end Table

theorem Prevails.unique {files : List (List Definition)} {ws : List String} {d d' : Definition}
    (h : Prevails files ws d) (h' : Prevails files ws d') : d = d' := by
  have hd := Table.lastNamed_flatten_iff.mpr h
  rw [Table.lastNamed_flatten_iff.mpr h'] at hd
  exact (Option.some.inj hd).symm

/-! ## Loading along a search path -/

namespace SearchPath

open Table

/-- A pass over files leaves what the accepted ones put into the table. -/
theorem foldl_loadFile {files : List Path} {accepted : List (Path × List Definition)}
    (h : AcceptedAmong fs files accepted) (p : Pass Table) (ds : List Definition)
    (hp : p.state.entries = entriesOf ds) :
    (files.foldl (loadFile (tableLoader fs)) p).state.entries =
        entriesOf (ds ++ (accepted.map (·.2)).flatten) ∧
      (files.foldl (loadFile (tableLoader fs)) p).report.loaded =
        p.report.loaded ++ accepted.map (·.1) := by
  induction h generalizing p ds with
  | none => simpa using hp
  | @accepted path paths commands others haccepts rest ih =>
      have hload : tableLoader fs p.state path = _ := haccepts.registerFile p.state
      have hentries : commands.foldl (fun entries d => put d.key d entries) p.state.entries =
          entriesOf (ds ++ commands) := by
        rw [hp]
        exact List.foldl_append.symm
      rw [List.foldl_cons, loadFile, hload]
      obtain ⟨hstate, hloaded⟩ := ih
        { state := ⟨commands.foldl (fun entries d => put d.key d entries) p.state.entries⟩
          report := { p.report with loaded := p.report.loaded ++ [path] }
          events := p.events ++ [.logged (.definitionsLoaded path.shown)] }
        (ds ++ commands) hentries
      constructor
      · rw [hstate, List.map_cons, List.flatten_cons, List.append_assoc]
      · rw [hloaded, List.map_cons, List.append_assoc, List.singleton_append]
  | @rejected path paths others hrejects rest ih =>
      obtain ⟨e, hload⟩ := registerFile_of_rejected hrejects p.state
      have hload : tableLoader fs p.state path = _ := hload
      rw [List.foldl_cons, loadFile, hload]
      exact ih _ ds hp

/-- **state_loadAll** — the table that a pass leaves is the one of the accepted files put one behind
the other. -/
theorem state_loadAll {s : SearchPath} {files : List Path}
    {accepted : List (Path × List Definition)} (hfiles : s.Lists fs s.directories files)
    (haccepted : AcceptedAmong fs files accepted) :
    (s.loadAll fs (tableLoader fs) .empty).state.entries =
        entriesOf (accepted.map (·.2)).flatten ∧
      (s.loadAll fs (tableLoader fs) .empty).report.loaded = accepted.map (·.1) := by
  obtain rfl := lists_iff.mp hfiles
  have hsame := s.loadAll_foldl fs (tableLoader fs) .empty
  obtain ⟨hstate, hloaded⟩ := foldl_loadFile haccepted { state := .empty } [] rfl
  constructor
  · rw [hsame.state, hstate, List.nil_append]
  · rw [hsame.loaded, hloaded, List.nil_append]

/-- A line is looked up by what its words stand for in the accepted files. -/
theorem lookup_prevails {s : SearchPath} {files : List Path}
    {accepted : List (Path × List Definition)} (hfiles : s.Lists fs s.directories files)
    (haccepted : AcceptedAmong fs files accepted) (line : String) :
    LongestStanding (Prevails (accepted.map (·.2))) (words line)
      ((s.loadAll fs (tableLoader fs) .empty).state.lookup line) := by
  apply lookup_longest
  intro ws hws d
  have hentries := (state_loadAll hfiles haccepted).1
  have htable : (s.loadAll fs (tableLoader fs) .empty).state =
      ⟨entriesOf (accepted.map (·.2)).flatten⟩ := congrArg Table.mk hentries
  rw [htable, get?_entriesOf hws]
  exact lastNamed_flatten_iff

/-- **Reaches** — the files along a search path that are accepted, in order and with their
commands. -/
def Reaches (s : SearchPath) (fs : FileSystem) (accepted : List (Path × List Definition)) : Prop :=
  ∃ directories files, s.Leads directories ∧ s.Lists fs directories files ∧
    AcceptedAmong fs files accepted

/-- **Definitions further along the search path win, and bad files change nothing.** Every search
path reaches some accepted files, and these are the ones that are reported as loaded. A line is
looked up by its longest beginning that is defined in any of them, with the last definition of the
last one that defines it. Another search path in another file system, where the accepted files hold
the same, gives the same answers. -/
theorem lookup_loadAll (s : SearchPath) (fs : FileSystem) :
    (∃ accepted, s.Reaches fs accepted) ∧
      ∀ accepted, s.Reaches fs accepted →
        (s.loadAll fs (tableLoader fs) .empty).report.loaded = accepted.map (·.1) ∧
        (∀ line, LongestStanding (Prevails (accepted.map (·.2))) (words line)
          ((s.loadAll fs (tableLoader fs) .empty).state.lookup line)) ∧
        ∀ (s' : SearchPath) (fs' : FileSystem) accepted', s'.Reaches fs' accepted' →
          accepted'.map (·.2) = accepted.map (·.2) →
          ∀ line, (s'.loadAll fs' (tableLoader fs') .empty).state.lookup line =
            (s.loadAll fs (tableLoader fs) .empty).state.lookup line := by
  constructor
  · obtain ⟨accepted, haccepted⟩ := exists_acceptedAmong fs (s.filesAlong fs s.directories)
    exact ⟨accepted, _, _, leads_iff.mpr rfl, lists_iff.mpr rfl, haccepted⟩
  · rintro accepted ⟨directories, files, hleads, hfiles, haccepted⟩
    obtain rfl := leads_iff.mp hleads
    refine ⟨(state_loadAll hfiles haccepted).2, lookup_prevails hfiles haccepted, ?_⟩
    -- Both answers are the one for the same definitions.
    rintro s' fs' accepted' ⟨directories', files', hleads', hfiles', haccepted'⟩ hsame line
    obtain rfl := leads_iff.mp hleads'
    have hlookup := lookup_prevails hfiles' haccepted' line
    rw [hsame] at hlookup
    exact hlookup.unique (fun _ _ _ h h' => h.unique h') (lookup_prevails hfiles haccepted line)

end SearchPath

end CommandShell
