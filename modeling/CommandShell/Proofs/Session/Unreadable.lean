import CommandShell.Proofs.Session.FileRun
import CommandShell.Proofs.Session.Matching

/-!
# A script that can be opened and not read

Whether a script can be read shows in two places: where it is opened, and where its first line is
read. A missing file fails in the first one, before anything is run. A directory passes it, and the
loop takes the failure of the first read for an end of input: four turns later the run completes
like that of an empty script (`Barren`). `runFile_of_unreadable` says which of the two happens; the
dispatcher is called in neither.
-/

namespace CommandShell

open CommandShell.Files
open CommandShell.Log

variable {ε : Type}

/-- **Unreadable** — no byte can be read at the path: it cannot be opened, or the first read of what
is opened fails. -/
def Unreadable (files : FileSystem) (path : Path) : Prop :=
  ∀ script, Source.openFile files path = .ok script →
    ∃ reason, script.stream.takeLine.result = .error reason

namespace Loop

variable {h : Host ε} {l : Loop ε} {k : Nat}

/-! ## A run without a line -/

/-- **Calm** — nothing has gone wrong, and nobody can ask the run to stop. -/
structure Calm (l : Loop ε) : Prop where
  state : l.state = .ready
  fatal : l.fatal = false
  deaf : l.cancellable = false
  cancelled : l.cancelled = false

/-- **Barren** — a run on a source that cannot be read has so many turns to go: it begins an
iteration, fails to read, leaves the source, and is over. -/
inductive Barren (h : Host ε) : Nat → Loop ε → Prop
  | begins {l : Loop ε} {script : Source} {below : List Source} {reason : IoFault} : l.Calm →
      l.next = .begin → l.stack.sources = script :: below → script.primordial = true →
      (h.interactive l.env script).result = .ok false →
      (h.read (h.interactive l.env script).env script).result = .ok (.failed reason) →
      Barren h 4 l
  | reads {l : Loop ε} {script : Source} {below : List Source} {reason : IoFault} : l.Calm →
      l.next = .read → l.stack.sources = script :: below → script.primordial = true →
      (h.read l.env script).result = .ok (.failed reason) → Barren h 3 l
  | leaves {l : Loop ε} {script : Source} {below : List Source} : l.Calm →
      l.next = .unwind → l.stack.sources = script :: below → script.primordial = true →
      Barren h 2 l
  | stops {l : Loop ε} : l.Calm → l.next = .stop → Barren h 1 l

/-- A barren run dispatches no line in its next turn. -/
theorem Barren.calls (hb : Barren h k l) {line : String} {depth : Nat} :
    .execute line depth ∉ l.calls h := by
  cases hb with
  | begins _ hn => simp [calls_of_other, hn]
  | reads _ hn hs => simp [calls_of_read hn hs]
  | leaves _ hn => simp [calls_of_other, hn]
  | stops _ hn => simp [calls_of_other, hn]

/-- **A barren run comes a turn closer to its end**, or completes. -/
theorem Barren.step (hc : h.Consumes) (hb : Barren h k l) :
    (k = 1 ∧ (l.step h).exit = some (.outcome .completed)) ∨
      ∃ k', k = k' + 1 ∧ (l.step h).exit = none ∧ Barren h k' (l.step h).loop := by
  cases hb with
  | @begins _ script _ _ hl hn hs hp hi hr =>
      have w : Way h l _ := .begins hn hl.cancelled hs hi
      have hstate : (l.inspected h script).state = .ready := hl.state
      rw [w.step_eq, goOn_loop, hstate]
      exact .inr ⟨3, rfl, rfl, .reads ⟨rfl, hl.fatal, hl.deaf, hl.cancelled⟩ rfl hs hp hr⟩
  | @reads _ script below _ hl hn hs hp hr =>
      have w : Way h l _ := .fails hn hs hr
      have hsources := received_sources h hs
      rw [hc.source_eq] at hsources
      rw [w.step_eq, goOn_loop]
      rw [received_loop] at hsources ⊢
      rw [hl.state]
      refine .inr ⟨2, rfl, rfl, .leaves ⟨rfl, hl.fatal, hl.deaf, ?_⟩ rfl hsources hp⟩
      simp [hl.cancelled, hl.deaf]
  | leaves hl hn hs hp =>
      have w : Way h l _ := .leaves hn
      rw [w.step_eq, unwind_primordial hs hp, goOn_loop, hl.state]
      exact .inr ⟨1, rfl, rfl, .stops ⟨rfl, hl.fatal, hl.deaf, hl.cancelled⟩ rfl⟩
  | stops hl hn =>
      have w : Way h l _ := .stops hn
      rw [w.step_eq]
      refine .inl ⟨rfl, ?_⟩
      rw [finish, leave_exit, outcome, hl.fatal, hl.state]
      rfl

theorem Barren.deaf (hb : Barren h k l) : l.cancellable = false := by
  cases hb with
  | begins hc => exact hc.deaf
  | reads hc => exact hc.deaf
  | leaves hc => exact hc.deaf
  | stops hc => exact hc.deaf

/-- **A barren run dispatches no line, and completes in time.** -/
theorem Barren.followAsked (hc : h.Consumes) (hb : Barren h k l) (asks : Nat → Nat) (n : Nat) :
    (∀ l' ∈ visits h asks n l, ∀ line depth, .execute line depth ∉ l'.calls h) ∧
      (k ≤ n → (followAsked h asks n l).exit = some (.outcome .completed)) := by
  induction n generalizing asks k l with
  | zero =>
      refine ⟨nofun, fun hk => ?_⟩
      obtain ⟨rfl, -⟩ | ⟨k', rfl, -⟩ := hb.step hc <;> omega
  | succ n ih =>
      unfold visits Loop.followAsked
      rw [askCancel_deaf hb.deaf]
      dsimp only
      obtain ⟨-, hexit⟩ | ⟨k', rfl, hexit, hnext⟩ := hb.step hc
      · rw [hexit]
        refine ⟨fun l' hl' => ?_, fun _ => rfl⟩
        rw [List.mem_singleton.mp hl']
        exact fun line depth => hb.calls
      · rw [hexit]
        obtain ⟨hcalls, hlast⟩ := ih hnext fun i => asks (i + 1)
        refine ⟨fun l' hl' => ?_, fun hk => hlast (by omega)⟩
        rcases List.mem_cons.mp hl' with rfl | hl'
        · exact fun line depth => hb.calls
        · exact hcalls l' hl'

end Loop

/-! ## Runs with a script -/

/-- A source that reads a file has its own stream, and nobody types its lines. -/
theorem owns_of_opened {files : FileSystem} {path : Path} {script : Source} (r : LineReader)
    (ho : Source.openFile files path = .ok script) :
    script.interactive = false ∧ r.Owns script := by
  unfold Source.openFile at ho
  split at ho
  · cases ho
  · obtain rfl := Except.ok.inj ho
    exact ⟨rfl, .inr rfl, nofun⟩

namespace Session

variable {δ : Type} {threads : Threads} {files : FileSystem} {turns : Nat} {path : Path}
variable {mode : RunMode} {script : Source} {s : Session (Console × δ)}

/-- The run on a script that cannot be read is barren. -/
theorem barren_enter (r : LineReader) (tty : Bool) (d : Dispatcher δ) (hopen : s.state ≠ .closing)
    (ho : Source.openFile files path = .ok script) {reason : IoFault}
    (hr : script.stream.takeLine.result = .error reason) :
    Loop.Barren (r.beside tty d) 4
      (enter (r.beside tty d) false (s.setPrimary script).1).1 := by
  obtain ⟨hi, hown⟩ := owns_of_opened r ho
  have hown' : r.Owns { script with primordial := true } := hown
  have hfails : (r.read s.env.1 { script with primordial := true }).result =
      .ok (.failed reason) := by
    rw [LineReader.read_own hown', hr]
    rfl
  exact .begins ⟨recover_of_open hopen, rfl, rfl, rfl⟩ rfl rfl rfl (congrArg Except.ok hi) hfails

/-- A run that begins barren dispatches no line, and completes in time. -/
theorem run_of_barren {ε : Type} {h : Host ε} {s : Session ε} {k : Nat} (hc : h.Consumes)
    (hopen : s.state ≠ .closing) (hb : Loop.Barren h k (s.enter h false).1) (turns : Nat) :
    (∀ line depth, .execute line depth ∉ s.calls h (fun _ => 0) turns false) ∧
      (k ≤ turns → (s.run h turns false).exit = some (.outcome .completed)) := by
  obtain ⟨hcalls, hexit⟩ := hb.followAsked hc (fun _ => 0) turns
  constructor
  · intro line depth hmem
    rw [calls, moments, if_neg hopen] at hmem
    obtain ⟨l, hl, hcall⟩ := List.mem_flatMap.mp hmem
    exact hcalls l hl line depth hcall
  · rw [← runAsked_none, runAsked_of_open _ _ _ _ hopen]
    exact hexit

/-- A run that came to an outcome gives its session back. -/
theorem ending_of_employ {ε : Type} {h : Host ε} {s : Session ε} (place : Place) {o : Outcome}
    (he : (s.run h turns false).exit = some (.outcome o)) :
    (s.employ h turns place none).ending = .completed (s.run h turns false).session o := by
  cases place <;> simp [employ, Place.dismiss, he]

/-- **Refused** — the script cannot be opened, or the thread cannot be made. -/
def Refused {ε : Type} (threads : Threads) (files : FileSystem) (path : Path) (mode : RunMode)
    (s : Session ε) : Prop :=
  (∃ e, Source.openFile files path = .error e) ∨
    ∃ reason, s.placeFor threads mode = .error (.fails reason)

/-- A run that cannot begin fails if it is refused, unless the session is closing. -/
theorem failed_iff_of_unbegun {ε : Type} {h : Host ε} {s : Session ε} (hopen : s.state ≠ .closing)
    (hu : s.Unbegun threads files path mode) :
    (∃ e, (s.runFile h threads files turns path mode).ending = .failed e s.env) ↔
      s.Refused threads files path mode := by
  cases ho : Source.openFile files path with
  | error e =>
      rw [runFile, takeScript_of_refused s ho]
      exact iff_of_true ⟨e, rfl⟩ (.inl ⟨e, ho⟩)
  | ok script =>
      have hnot : ¬∃ e, Source.openFile files path = .error e := by simp [ho]
      obtain ⟨refusal, hp⟩ := (hu.resolve_left hnot).resolve_left hopen
      have hp' : (s.setPrimary script).1.placeFor threads mode = .error refusal := hp
      rw [runFile, takeScript_of_opened s ho]
      simp only [runIn, hp']
      cases refusal with
      | fails reason => exact iff_of_true ⟨_, rfl⟩ (.inr ⟨reason, hp⟩)
      | panics p =>
          refine iff_of_false ?_ ?_
          · rintro ⟨e, he⟩
            cases he
          · rintro (he | ⟨reason, he⟩)
            · exact hnot he
            · rw [hp] at he
              cases he

/-- A run that begins has a script and a place. -/
theorem exists_place_of_begun {ε : Type} {s : Session ε} (hu : ¬s.Unbegun threads files path mode) :
    ∃ script place, Source.openFile files path = .ok script ∧
      s.placeFor threads mode = .ok place := by
  cases ho : Source.openFile files path with
  | error e => exact absurd (.inl ⟨e, ho⟩) hu
  | ok script =>
      cases hp : s.placeFor threads mode with
      | error refusal => exact absurd (.inr (.inr ⟨refusal, hp⟩)) hu
      | ok place => exact ⟨script, place, rfl, rfl⟩

/-- **A script that cannot be opened fails, and one that cannot be read completes.** No byte can be
read at the path, and the session is not closing. The dispatcher is never called. The run fails if
the path cannot be opened or the thread cannot be made; if it begins, it completes, like the run of
an empty script. -/
theorem runFile_of_unreadable (r : LineReader) (tty : Bool) (d : Dispatcher δ) (threads : Threads)
    (files : FileSystem) (turns : Nat) (path : Path) (mode : RunMode) (s : Session (Console × δ))
    (hopen : s.state ≠ .closing) (hu : Unreadable files path) (hturns : 4 ≤ turns) :
    let report := s.runFile (r.beside tty d) threads files turns path mode
    (∀ line depth, .execute line depth ∉
        (Operation.runFile (r.beside tty d) threads files path mode turns).calls s) ∧
      ((∃ e, report.ending = .failed e s.env) ↔ s.Refused threads files path mode) ∧
      (¬s.Unbegun threads files path mode →
        ∃ s', report.ending = .completed s' .completed ∧ s'.primary = none) := by
  intro report
  by_cases hbegun : s.Unbegun threads files path mode
  · obtain ⟨hcalls, -⟩ := runFile_of_unbegun (r.beside tty d) threads turns hbegun
    refine ⟨?_, failed_iff_of_unbegun hopen hbegun, (absurd hbegun ·)⟩
    rw [hcalls]
    exact fun line depth => List.not_mem_nil
  · obtain ⟨script, place, ho, hp⟩ := exists_place_of_begun hbegun
    obtain ⟨reason, hr⟩ := hu script ho
    have hp' : (s.setPrimary script).1.placeFor threads mode = .ok place := hp
    obtain ⟨hcalls, hexit⟩ := run_of_barren (s := (s.setPrimary script).1)
      (r.beside_consumes tty d) hopen (barren_enter r tty d hopen ho hr) turns
    have hrunIn : (s.setPrimary script).1.runIn (r.beside tty d) threads turns mode none =
        (s.setPrimary script).1.employ (r.beside tty d) turns place none := by rw [runIn, hp']
    have hending : ∃ s', report.ending = .completed s' .completed ∧ s'.primary = none := by
      obtain ⟨-, hending⟩ := trades_runFile (r.beside tty d) threads turns (s := s) ho hrunIn
      rw [ending_of_employ place (hexit hturns)] at hending
      exact ⟨_, hending, rfl⟩
    have hnot : ¬s.Refused threads files path mode := by
      rintro (he | ⟨reason, hp⟩)
      · exact hbegun (.inl he)
      · exact hbegun (.inr (.inr ⟨_, hp⟩))
    refine ⟨?_, iff_of_false ?_ hnot, fun _ => hending⟩
    · simp only [Operation.calls, Operation.launch?, takeScript_of_opened s ho, hp',
        Option.elim_some]
      exact hcalls
    · obtain ⟨s', hs', -⟩ := hending
      rintro ⟨e, he⟩
      rw [hs'] at he
      cases he

/-- A directory, and nothing else. -/
def onlyDirectory : Snapshot := { contents := [(.ofString "d", .ok .directory)] }

/-- A new session whose dispatcher would read a script. -/
def idleSession : Session (Console × Unit) := create 3 ({}, ())

theorem missing_fails :
    idleSession.state ≠ .closing ∧ Unreadable onlyDirectory.system (.ofString "m") ∧
      ∃ e, (idleSession.runFile
        (LineReader.beside {} false (.readingOn "a" (.ofText "x" false "b\n"))) (.ofMemory none)
        onlyDirectory.system 4 (.ofString "m") (.threaded {})).ending =
          .failed e idleSession.env := by
  have hu : Unreadable onlyDirectory.system (.ofString "m") := nofun
  obtain ⟨-, hfails, -⟩ := runFile_of_unreadable {} false
    (.readingOn "a" (.ofText "x" false "b\n")) (.ofMemory none) onlyDirectory.system 4
    (.ofString "m") (.threaded {}) idleSession nofun hu (Nat.le_refl 4)
  exact ⟨nofun, hu, hfails.mpr (.inl ⟨_, rfl⟩)⟩

/-- A directory can be opened, and no byte of it can be read; the run with it completes. -/
theorem directory_completes :
    idleSession.state ≠ .closing ∧ Unreadable onlyDirectory.system (.ofString "d") ∧
      ∃ s', (idleSession.runFile
        (LineReader.beside {} false (.readingOn "a" (.ofText "x" false "b\n"))) (.ofMemory none)
        onlyDirectory.system 4 (.ofString "d") .inline).ending = .completed s' .completed := by
  refine ⟨nofun, fun script hs => ?_, _, rfl⟩
  cases hs
  exact ⟨_, rfl⟩

end Session

end CommandShell
