import CommandShell.Command.SearchPath
import Mathlib.Tactic.Common

/-!
# The definition files along a search path

The directories of a search path are gone through in order. One that cannot be listed adds nothing,
and the others add their definition files in ascending order of the names, byte by byte (`Lists`).
That order does not depend on the one in which the system keeps the names, so each search path lists
one sequence of files (`lists_iff`).

A pass hands this sequence to its loader, file after file (`loadAll_foldl`).
-/

namespace CommandShell

open CommandShell.Text
open CommandShell.Files

namespace SearchPath

variable {s : SearchPath} {fs : FileSystem}

/-! ## One directory -/

/-- **Ascend** — names that stand in ascending order, byte by byte. -/
def Ascend (names : List Bytes) : Prop := names.Pairwise fun a b => a ≤ b

theorem ascend_mergeSort (names : List Bytes) : Ascend (names.mergeSort precedes) := by
  have hle : ∀ a b : Bytes, precedes a b = true ↔ a ≤ b := by
    intro a b
    unfold precedes
    rw [Bool.not_eq_true', decide_eq_false_iff_not]
    exact List.not_lt
  have hsorted : (names.mergeSort precedes).Pairwise _ := List.pairwise_mergeSort
    (fun a b c hab hbc => (hle a c).mpr (List.le_trans ((hle a b).mp hab) ((hle b c).mp hbc)))
    (fun a b => by
      rw [Bool.or_eq_true, hle, hle]
      exact List.le_total a b)
    names
  exact hsorted.imp fun {a b} => (hle a b).mp

/-- Names in ascending order are known when it is known which there are, and how often. -/
theorem Ascend.eq_of_perm {names names' : List Bytes} (h : Ascend names) (h' : Ascend names')
    (hperm : names.Perm names') : names = names' :=
  List.Perm.eq_of_pairwise (fun _ _ _ _ => List.le_antisymm) h h' hperm

/-! ## All directories -/

/-- **Lists** — the definition files in directories, in the order in which they are loaded. -/
inductive Lists (s : SearchPath) (fs : FileSystem) : List Path → List Path → Prop
  | none : Lists s fs [] []
  /-- A directory that cannot be listed is passed over. -/
  | unreadable {d : Path} {ds files : List Path} {e : IoFault} (refused : fs.entries d = .error e)
      (others : Lists s fs ds files) : Lists s fs (d :: ds) files
  /-- The definition files are the regular files with the extension. -/
  | readable {d : Path} {ds files : List Path} {names wanted : List Bytes}
      (listed : fs.entries d = .ok names)
      (wants : wanted.Perm (names.filter fun name =>
        fs.isFile (d.join name) && Path.extension? name == some s.extension))
      (ascend : Ascend wanted) (others : Lists s fs ds files) :
      Lists s fs (d :: ds) (wanted.map d.join ++ files)

/-- The files in directories, as they are found. -/
def filesAlong (s : SearchPath) (fs : FileSystem) (directories : List Path) : List Path :=
  directories.flatMap fun directory =>
    match s.filesIn fs directory with
    | .ok files => files
    | .error _ => []

theorem filesIn_of_error {d : Path} {e : IoFault} (h : fs.entries d = .error e) :
    s.filesIn fs d = .error e := by
  unfold filesIn namesIn
  rw [h]
  rfl

theorem filesIn_of_ok {d : Path} {names : List Bytes} (h : fs.entries d = .ok names) :
    s.filesIn fs d = .ok (((names.filter (s.wants fs d)).mergeSort precedes).map d.join) := by
  unfold filesIn namesIn
  rw [h]
  rfl

/-- **lists_iff** — the files that directories list are those that are found. -/
theorem lists_iff {ds files : List Path} : s.Lists fs ds files ↔ files = s.filesAlong fs ds := by
  constructor
  · intro h
    induction h with
    | none => rfl
    | unreadable refused _ ih =>
        rw [filesAlong, List.flatMap_cons, filesIn_of_error refused]
        exact ih
    | readable listed wants ascend _ ih =>
        -- The names are the same ones and ascend, so they stand in the same order.
        have hwanted := ascend.eq_of_perm (ascend_mergeSort _)
          (wants.trans (List.mergeSort_perm _ precedes).symm)
        rw [filesAlong, List.flatMap_cons, filesIn_of_ok listed, ih, hwanted]
        rfl
  · rintro rfl
    induction ds with
    | nil => exact .none
    | cons d ds ih =>
        rw [filesAlong, List.flatMap_cons]
        cases hd : fs.entries d with
        | error e =>
            rw [filesIn_of_error hd]
            exact .unreadable hd ih
        | ok names =>
            rw [filesIn_of_ok hd]
            exact .readable hd (List.mergeSort_perm _ _) (ascend_mergeSort _) ih

/-! ## Loading -/

variable {σ : Type} {load : Loader σ}

/-- **SameSoFar** — passes that have come to the same state by the same files. Directories that were
passed over, and the log, do not count. -/
structure SameSoFar (p p' : Pass σ) : Prop where
  state : p.state = p'.state
  loaded : p.report.loaded = p'.report.loaded
  failed : p.report.failed = p'.report.failed

theorem SameSoFar.refl (p : Pass σ) : SameSoFar p p := ⟨rfl, rfl, rfl⟩

theorem SameSoFar.trans {p p' p'' : Pass σ} (h : SameSoFar p p') (h' : SameSoFar p' p'') :
    SameSoFar p p'' :=
  ⟨h.state.trans h'.state, h.loaded.trans h'.loaded, h.failed.trans h'.failed⟩

theorem SameSoFar.loadFile {p p' : Pass σ} (h : SameSoFar p p') (file : Path) :
    SameSoFar (loadFile load p file) (loadFile load p' file) := by
  unfold SearchPath.loadFile
  rw [h.state]
  split
  · exact ⟨rfl, congrArg (· ++ [file]) h.loaded, h.failed⟩
  · exact ⟨rfl, h.loaded, congrArg (· ++ [file]) h.failed⟩

theorem SameSoFar.loadFiles {p p' : Pass σ} (h : SameSoFar p p') (files : List Path) :
    SameSoFar (files.foldl (SearchPath.loadFile load) p)
      (files.foldl (SearchPath.loadFile load) p') := by
  induction files generalizing p p' with
  | nil => exact h
  | cons file files ih => exact ih (h.loadFile file)

/-- **loadAll_foldl** — a pass hands the files along the search path to its loader, one after the
other. -/
theorem loadAll_foldl (s : SearchPath) (fs : FileSystem) (load : Loader σ) (state : σ) :
    SameSoFar (s.loadAll fs load state)
      ((s.filesAlong fs s.directories).foldl (loadFile load) { state }) := by
  unfold loadAll
  generalize s.directories = ds
  generalize ({ state } : Pass σ) = p
  induction ds generalizing p with
  | nil => exact .refl p
  | cons d ds ih =>
      rw [List.foldl_cons, filesAlong, List.flatMap_cons, List.foldl_append]
      apply (ih _).trans
      apply SameSoFar.loadFiles
      unfold loadDirectory
      cases s.filesIn fs d with
      | error e => exact ⟨rfl, rfl, rfl⟩
      | ok files => exact .refl _

end SearchPath

end CommandShell
