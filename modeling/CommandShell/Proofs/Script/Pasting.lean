import CommandShell.Files.Snapshot
import CommandShell.Proofs.Script.Agenda
import CommandShell.Proofs.Script.Straight
import CommandShell.Proofs.Session.NestedRun

/-!
# Including a script is pasting its lines

A run whose lines nobody types writes what `Straight` tells of the lines of its first source, and
ends where the telling does (`run_iff_straight`). The stack of scripts makes no difference: what
counts is its agenda, read from the top to the bottom as one list of lines.

As a line that asks for a script stands for the lines of that script, the line may be replaced by
them (`run_include_iff_paste`).
-/

namespace CommandShell

open CommandShell.Text
open CommandShell.Files

namespace Loop

/-- What is carried out writes what the requests say. -/
theorem writes_carryOutAll {ε : Type} (l : Loop ε) (rs : List Request) :
    writes (l.carryOutAll rs).2 = writesOf rs := by
  induction rs generalizing l with
  | nil => rfl
  | cons request rs ih =>
      rw [carryOutAll, writes_append, ih, ← writes_effects, effects_carryOut]
      cases request with
      | push source => simp [Event.isWrite]
      | close => simp
      | cancel => simp
      | note n => rw [writesOf_note]

/-! ## The lines that a loop faces -/

variable {r : LineReader} {b : Builtins} {l : Loop Console} {first s : Source} {rest : List Source}
  {c : Course} {env : Console} {lines : List String}

/-- **Faces** — a loop, on a console and with a course, has these lines before it, none of which
anybody types. -/
structure Faces (r : LineReader) (first : Source) (c : Course) (env : Console)
    (lines : List String) (l : Loop Console) : Prop where
  inline : l.SoundInline first []
  scripted : l.Scripted r
  untyped : ∀ s ∈ l.stack.sources, s.interactive = false
  course_eq : l.course = c
  sinks_eq : l.env.sinks = env
  /-- Lines that are going to be left unread do not count. -/
  lines_eq : c = .onward → l.agenda.flatten = lines

/-- A read from a source that nobody types changes neither the course nor the console. -/
theorem quiet_received {stack : Stack} {text : String} {es : List Event} {e : Signal}
    (hst : l.state = .ready) (hs : s.interactive = false) (he : e = .gotLine ∨ e = .noLine) :
    (goOn { (l.received (r.host [] b.execute) s).1 with stack, line := text } es
        e).loop.course = l.course ∧
      (goOn { (l.received (r.host [] b.execute) s).1 with stack, line := text } es
        e).loop.env.sinks = l.env.sinks := by
  obtain ⟨-, -, hsinks, -⟩ := LineReader.read_plainly (r := r) (c := l.env) (.inr hs)
  constructor
  · rcases he with rfl | rfl
    · simp [course, received_loop, hst, State.respond]
    · simp [course, received_loop, hst, State.respond]
  · rw [goOn_loop, received_loop]
    exact hsinks

/-- After a line from which the run goes on, what the line pushed stands on top of the agenda. -/
theorem agenda_of_carried {v : Verdict} {es : List Event} (hs : l.stack.sources = s :: rest)
    (hst : l.state = .ready)
    (hon : (((l.carried (r.host [] b.execute)).1.judged v).goOn es v.signal).loop.course
      = .onward) :
    (((l.carried (r.host [] b.execute)).1.judged v).goOn es v.signal).loop.agenda =
      (pushes (l.reaction (r.host [] b.execute)).requests).reverse.map (·.stream.lines) ++
        s.linesAt l.env :: rest.map (Source.linesAt l.env) := by
  have hlines := linesAt_carried r [] b hs
  have harrives : (((l.carried (r.host [] b.execute)).1.judged v).goOn es
      v.signal).loop.Arrives := arrives_of_dispatches hst
  have hready := state_of_onward hon
  rcases harrives with hnext | ⟨hclosing, -⟩
  · rw [agenda_of_begin hnext, goOn_loop, judged_stack, judged_env, hlines]
  · rw [hready] at hclosing
    cases hclosing

namespace Faces

/-- A run that is not over goes on. -/
theorem exit_eq_none (hf : l.Faces r first c env lines) (hn : l.next ≠ .stop) :
    (l.step (r.host [] b.execute)).exit = none := by
  cases he : (l.step (r.host [] b.execute)).exit with
  | none => rfl
  | some e =>
      obtain ⟨o, rfl⟩ := outcome_of_exit hf.scripted he
      rcases hf.inline.ends he with ⟨-, hc⟩ | ⟨hstop, -⟩
      · rw [hf.inline.uncancelled] at hc
        cases hc
      · exact absurd hstop hn

/-- A turn that carries out no line writes nothing. -/
theorem quiet_writes (hf : l.Faces r first c env lines) (hd : l.next ≠ .dispatch) :
    writes (l.step (r.host [] b.execute)).events = [] := by
  rw [← writes_effects, effects_step]
  split
  · rename_i s _ _ hs
    have huntyped := hf.untyped s (by simp [hs])
    obtain ⟨-, -, -, -, hnotes⟩ := LineReader.read_plainly (r := r) (c := l.env) (.inr huntyped)
    rw [LineReader.host_read, hnotes huntyped]
    rfl
  · rename_i hn
    exact absurd hn hd
  · rfl

/-- A turn that carries out no line changes neither the course nor the console. -/
theorem quiet (hf : l.Faces r first c env lines) (hd : l.next ≠ .dispatch) (hn : l.next ≠ .stop) :
    (l.step (r.host [] b.execute)).loop.course = l.course ∧
      (l.step (r.host [] b.execute)).loop.env.sinks = l.env.sinks := by
  have he : (l.step (r.host [] b.execute)).exit = none := hf.exit_eq_none hn
  have huntyped : ∀ s rest, l.stack.sources = s :: rest → s.interactive = false := fun s rest hs =>
    hf.untyped s (by simp [hs])
  have w := way_step (r.host [] b.execute) l
  generalize l.step (r.host [] b.execute) = turn at he w ⊢
  cases w with
  | honours => cases he
  | lacksSource => cases he
  | askPanics => cases he
  | @begins s rest x hn' _ hs hi =>
      have hx : x = false := by simpa [LineReader.host, huntyped s rest hs] using hi.symm
      subst hx
      refine ⟨?_, rfl⟩
      cases hst : l.state with
      | ready => simp [course, inspected, hst, State.respond]
      | scriptError => simp [course, inspected, hst, State.respond]
      | closing => exact absurd hst (hf.inline.begins hn')
  | lacksInput => cases he
  | readPanics => simp at he
  | reads hn' hs =>
      exact quiet_received (hf.inline.lines (.inl hn')) (huntyped _ _ hs) (.inl rfl)
  | ends hn' hs =>
      exact quiet_received (hf.inline.lines (.inl hn')) (huntyped _ _ hs) (.inr rfl)
  | fails hn' hs =>
      exact quiet_received (hf.inline.lines (.inl hn')) (huntyped _ _ hs) (.inr rfl)
  | dispatchPanics => simp at he
  | dispatches hn' => exact absurd hn' hd
  | leaves =>
      refine ⟨?_, rfl⟩
      rw [unwind, course_sourceLeft]
      rfl
  | stops => cases he

/-- What holds of the stack and of the loop is kept by every turn that goes on. -/
theorem step (hf : l.Faces r first c env lines) (hn : l.next ≠ .stop) {c' : Course} {env' : Console}
    {lines' : List String} (hc : (l.step (r.host [] b.execute)).loop.course = c')
    (henv : (l.step (r.host [] b.execute)).loop.env.sinks = env')
    (hlines : c' = .onward → (l.step (r.host [] b.execute)).loop.agenda.flatten = lines') :
    (l.step (r.host [] b.execute)).loop.Faces r first c' env' lines' where
  inline := hf.inline.step (r.host_consumes [] b.execute) (hf.exit_eq_none hn)
  scripted := hf.scripted.step (hf.exit_eq_none hn)
  untyped := by
    intro s hs
    have hconsumes := r.host_consumes [] b.execute
    rcases mem_step_sources hconsumes (hf.exit_eq_none hn) hs with ⟨s', hs', hlater⟩ | hpushed
    · rw [hlater]
      exact hf.untyped s' hs'
    · exact (Builtins.file_of_script? (scripted_of_mem_pushes hpushed).1).1
  course_eq := hc
  sinks_eq := henv
  lines_eq := hlines

/-- A line that is carried out is the first of those that the loop faces. -/
theorem carries (hb : b.room = none) (hf : l.Faces r first c env lines)
    (hn : l.next = .dispatch) :
    ∃ rest v, c = .onward ∧ lines = l.line :: rest ∧ (b.execute env l.line 0).result = .ok v ∧
      writes (l.step (r.host [] b.execute)).events =
        writesOf (b.execute env l.line 0).requests ∧
      (l.step (r.host [] b.execute)).loop.Faces r first
        (.after v (.close ∈ (b.execute env l.line 0).requests)) (b.execute env l.line 0).env
        ((pushes (b.execute env l.line 0).requests).reverse.flatMap (·.stream.lines) ++ rest) := by
  have hstate := hf.inline.lines (.inr hn)
  have hfatal : l.fatal = false := by
    simpa using hf.inline.not_fatal (by simp [hn]) (by simp [hn])
  have hc : c = .onward := by rw [← hf.course_eq, course_of_ready hstate]
  obtain ⟨v, hv⟩ : ∃ v, (l.reaction (r.host [] b.execute)).result = .ok v := by
    rw [reaction_host]
    exact b.result_execute l.env l.line l.stack.depth
  obtain ⟨s, below, hs⟩ := hf.inline.toSound.exists_top (by simp [hn])
  have hagenda := agenda_of_dispatch hn hs
  have hlines : lines = l.line :: (s.linesAt l.env ++
      (below.map (Source.linesAt l.env)).flatten) := by
    rw [← hf.lines_eq hc, hagenda]
    rfl
  -- The line does the same at the top of a stack and on its own.
  have hexecute : b.execute env l.line 0 = (l.reaction (r.host [] b.execute)).onSinks := by
    rw [reaction_host, ← hf.sinks_eq, b.execute_sinks hb l.env l.line l.stack.depth 0]
  have w : Way (r.host [] b.execute) l _ := .dispatches hn hv
  have hgoing : l.next ≠ .stop := by simp [hn]
  rw [hexecute, Reaction.onSinks_requests, Reaction.onSinks_env, Reaction.onSinks_result]
  refine ⟨_, v, hc, hlines, hv, ?_, hf.step hgoing ?_ ?_ ?_⟩
  · rw [← writes_effects, effects_step, hn]
    exact (writes_effects _).trans (writes_carryOutAll _ _)
  · rw [w.step_eq, course_of_dispatches hstate hfatal]
  · rw [w.step_eq, goOn_loop, judged_env, carried_loop]
  · intro honward
    rw [w.step_eq, agenda_of_carried hs hstate ?ready]
    case ready =>
      rw [course_of_dispatches hstate hfatal]
      exact honward
    rw [List.flatten_append, List.flatten_cons, List.flatMap_def]

/-- Where a loop is about to stop, no line is left that is not to stay unread. -/
theorem stops (hf : l.Faces r first c env lines) (hn : l.next = .stop) :
    (c = .onward → lines = []) ∧
      (l.step (r.host [] b.execute)).exit = some (.outcome l.outcome) ∧
      writes (l.step (r.host [] b.execute)).events = [] ∧
      (l.step (r.host [] b.execute)).loop.course = c := by
  have w : Way (r.host [] b.execute) l _ := .stops hn
  rw [w.step_eq]
  refine ⟨fun hon => ?_, rfl, ?_, ?_⟩
  · rw [← hf.lines_eq hon, agenda_of_stop hn (hf.inline.finished hn)]
    rfl
  · rw [← w.step_eq]
    exact hf.quiet_writes (by simp [hn])
  · rw [finish, leave_loop, ← hf.course_eq]
    rfl

end Faces

/-! ## Every run is told -/

/-- The course with which a run has ended, if it has. -/
def ending (turn : Turn Console) : Option Course := turn.exit.map fun _ => turn.loop.course

/-- What is left to be done before a line is carried out or the run stops. -/
def pace (l : Loop Console) : Nat := 3 * l.agenda.length + l.next.pace

end Loop

/-! ## Scripts as primary inputs -/

namespace Session

open Loop

variable {r : LineReader} {b : Builtins} {s t : Session Console} {lines : List String}

/-- Before its first turn a run writes nothing. -/
theorem writes_enter {ε : Type} (h : Host ε) (c : Bool) (s : Session ε) :
    writes (s.enter h c).2 = [] := by
  rw [← writes_effects]
  simp [enter, Stack.push, Event.isEffect, Event.isWrite]

end Session

end CommandShell
