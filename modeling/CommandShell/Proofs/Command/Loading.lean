import CommandShell.Proofs.Command.Listing

/-!
# A pass over the search path accounts for everything

A pass and the list of definition files are two walks along the same directories. To compare them,
the loader is watched: `watched` is a loader that does what the given one does and also writes down
which files it is handed and how it answers. Watching a loader changes nothing, since a pass looks
at its answers only.

What was written down at the end is the list of files, each once and in order, whatever was answered
before. The accepted and the rejected files are its two parts, and the directories that were passed
over are those that cannot be listed (`loadAll_handsOver`).
-/

namespace CommandShell

open CommandShell.Files

/-! ## Interleavings -/

/-- **Interleaves** — the third list consists of the first two, each of them in its order. -/
inductive Interleaves {α : Type} : List α → List α → List α → Prop
  | none : Interleaves [] [] []
  | left {x : α} {xs ys zs : List α} (rest : Interleaves xs ys zs) :
      Interleaves (x :: xs) ys (x :: zs)
  | right {y : α} {xs ys zs : List α} (rest : Interleaves xs ys zs) :
      Interleaves xs (y :: ys) (y :: zs)

namespace Interleaves

variable {α β : Type}

/-- The elements with a property and those without it make up a list. -/
theorem filter (p : α → Bool) (zs : List α) :
    Interleaves (zs.filter p) (zs.filter fun z => !p z) zs := by
  induction zs with
  | nil => exact .none
  | cons z zs ih =>
      cases hz : p z with
      | true =>
          rw [List.filter_cons_of_pos hz, List.filter_cons_of_neg (by simp [hz])]
          exact .left ih
      | false =>
          rw [List.filter_cons_of_neg (by simp [hz]), List.filter_cons_of_pos (by simp [hz])]
          exact .right ih

theorem map (f : α → β) {xs ys zs : List α} (h : Interleaves xs ys zs) :
    Interleaves (xs.map f) (ys.map f) (zs.map f) := by
  induction h with
  | none => exact .none
  | left _ ih => exact .left ih
  | right _ ih => exact .right ih

end Interleaves

/-! ## Watched loaders -/

/-- **Handed** — a file that a loader was handed, and what it answered. -/
structure Handed where
  file : Path
  answer : Except ShellError Unit

/-- Whether the loader took the file. -/
def Handed.accepted (c : Handed) : Bool := c.answer.isOk

/-- **watched** — a loader that also writes down what it is handed and how it answers. -/
def Loader.watched {σ : Type} (load : Loader σ) : Loader (σ × List Handed) :=
  fun state file =>
    ((load state.1 file).1, (load state.1 file).2, state.2 ++ [⟨file, (load state.1 file).1⟩])

namespace SearchPath

variable {σ : Type} {load : Loader σ}

/-- Whether a directory cannot be listed. -/
def unlisted (fs : FileSystem) (directory : Path) : Bool := !(fs.entries directory).isOk

/-- **HandsOver** — what a pass `p`, and the same pass `q` with its loader watched, have made of
files and of directories that cannot be listed. -/
structure HandsOver (load : Loader σ) (state : σ) (files skipped : List Path) (p : Pass σ)
    (q : Pass (σ × List Handed)) : Prop where
  /-- Watching the loader changes nothing. -/
  unnoticed : q.state.1 = p.state ∧ q.report = p.report ∧ q.events = p.events
  /-- The loader was handed each file once, in order. -/
  handed : q.state.2.map Handed.file = files
  /-- It was handed each file in the state in which it had answered the one before. -/
  state : p.state = files.foldl (fun state file => (load state file).2) state
  loaded : p.report.loaded = (q.state.2.filter Handed.accepted).map Handed.file
  failed : p.report.failed = (q.state.2.filter fun c => !c.accepted).map Handed.file
  skipped : p.report.skipped = skipped

namespace HandsOver

variable {state : σ} {handedOver skipped : List Path} {p : Pass σ} {q : Pass (σ × List Handed)}

theorem start (load : Loader σ) (state : σ) :
    HandsOver load state [] [] { state } { state := (state, []) } where
  unnoticed := ⟨rfl, rfl, rfl⟩
  handed := rfl
  state := rfl
  loaded := rfl
  failed := rfl
  skipped := rfl

/-- One more file is handed over. The walk goes on with either answer. -/
theorem file (h : HandsOver load state handedOver skipped p q) (file : Path) :
    HandsOver load state (handedOver ++ [file]) skipped (loadFile load p file)
      (loadFile load.watched q file) := by
  obtain ⟨⟨hstate, hreport, hevents⟩, handed, hfold, loaded, failed, hskipped⟩ := h
  have hnext : (load p.state file).2 =
      (handedOver ++ [file]).foldl (fun state file => (load state file).2) state := by
    rw [List.foldl_append, ← hfold]
    rfl
  have hcall : load.watched q.state file =
      ((load p.state file).1, (load p.state file).2,
        q.state.2 ++ [⟨file, (load p.state file).1⟩]) := by
    rw [← hstate]
    rfl
  have hhanded : ∀ answer, (q.state.2 ++ [Handed.mk file answer]).map Handed.file =
      handedOver ++ [file] := by
    intro answer
    rw [List.map_append, handed]
    rfl
  unfold loadFile
  rw [hcall]
  rcases hload : load p.state file with ⟨answer, after⟩
  rw [hload] at hnext
  cases answer with
  | ok _ =>
      constructor
      · exact ⟨rfl, by simp only [hreport], by simp only [hevents]⟩
      · exact hhanded _
      · exact hnext
      · show p.report.loaded ++ [file] = ((q.state.2 ++ [_]).filter _).map _
        rw [List.filter_append, List.map_append, ← loaded]
        rfl
      · show p.report.failed = ((q.state.2 ++ [_]).filter _).map _
        rw [List.filter_append, List.map_append, ← failed]
        exact (List.append_nil _).symm
      · exact hskipped
  | error e =>
      constructor
      · exact ⟨rfl, by simp only [hreport], by simp only [hevents]⟩
      · exact hhanded _
      · exact hnext
      · show p.report.loaded = ((q.state.2 ++ [_]).filter _).map _
        rw [List.filter_append, List.map_append, ← loaded]
        exact (List.append_nil _).symm
      · show p.report.failed ++ [file] = ((q.state.2 ++ [_]).filter _).map _
        rw [List.filter_append, List.map_append, ← failed]
        rfl
      · exact hskipped

theorem files (h : HandsOver load state handedOver skipped p q) (more : List Path) :
    HandsOver load state (handedOver ++ more) skipped (more.foldl (loadFile load) p)
      (more.foldl (loadFile load.watched) q) := by
  induction more generalizing handedOver p q with
  | nil =>
      rw [List.append_nil]
      exact h
  | cons file more ih =>
      have hnext := ih (h.file file)
      rw [List.append_assoc] at hnext
      exact hnext

/-- A directory is gone through, or passed over. -/
theorem directory (h : HandsOver load state handedOver skipped p q) (s : SearchPath)
    (fs : FileSystem) (d : Path) :
    HandsOver load state (handedOver ++ s.filesAlong fs [d]) (skipped ++ [d].filter (unlisted fs))
      (s.loadDirectory fs load p d) (s.loadDirectory fs load.watched q d) := by
  unfold loadDirectory filesAlong
  cases hd : fs.entries d with
  | error e =>
      have hunlisted : unlisted fs d = true := by
        unfold unlisted
        rw [hd]
        rfl
      obtain ⟨⟨hstate, hreport, hevents⟩, handed, hfold, loaded, failed, hskipped⟩ := h
      rw [List.flatMap_singleton, filesIn_of_error hd, List.filter_cons_of_pos hunlisted]
      constructor
      · exact ⟨hstate, by simp only [hreport], by simp only [hevents]⟩
      · simpa using handed
      · simpa using hfold
      · exact loaded
      · exact failed
      · exact congrArg (· ++ [d]) hskipped
  | ok names =>
      have hlisted : ¬unlisted fs d = true := by
        unfold unlisted
        rw [hd]
        simp [Except.isOk, Except.toBool]
      rw [List.flatMap_singleton, filesIn_of_ok hd, List.filter_cons_of_neg hlisted,
        List.filter_nil, List.append_nil]
      exact h.files _

theorem directories (h : HandsOver load state handedOver skipped p q) (s : SearchPath)
    (fs : FileSystem) (ds : List Path) :
    HandsOver load state (handedOver ++ s.filesAlong fs ds) (skipped ++ ds.filter (unlisted fs))
      (ds.foldl (s.loadDirectory fs load) p) (ds.foldl (s.loadDirectory fs load.watched) q) := by
  induction ds generalizing handedOver skipped p q with
  | nil =>
      show HandsOver load state (handedOver ++ []) (skipped ++ []) p q
      rw [List.append_nil, List.append_nil]
      exact h
  | cons d ds ih =>
      have hnext := ih (h.directory s fs d)
      rw [List.append_assoc, List.append_assoc, ← List.filter_append] at hnext
      unfold filesAlong at hnext ⊢
      rw [← List.flatMap_append] at hnext
      exact hnext

/-- What the loader took and what it rejected are all the files. -/
theorem complete (h : HandsOver load state handedOver skipped p q) :
    Interleaves p.report.loaded p.report.failed handedOver := by
  rw [h.loaded, h.failed, ← h.handed]
  exact (Interleaves.filter Handed.accepted q.state.2).map Handed.file

end HandsOver

/-- **loadAll_handsOver** — a pass hands its loader exactly the definition files along the search
path, in order and whatever the loader answers, and its report accounts for all files and
directories. -/
theorem loadAll_handsOver (s : SearchPath) (fs : FileSystem) (load : Loader σ) (state : σ) :
    HandsOver load state (s.files fs) (s.directories.filter (unlisted fs))
      (s.loadAll fs load state) (s.loadAll fs load.watched (state, [])) ∧
    Interleaves (s.loadAll fs load state).report.loaded (s.loadAll fs load state).report.failed
      (s.files fs) := by
  have h := (HandsOver.start load state).directories s fs s.directories
  rw [List.nil_append, List.nil_append] at h
  exact ⟨h, h.complete⟩

end SearchPath

end CommandShell
