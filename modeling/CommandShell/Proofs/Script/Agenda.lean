import CommandShell.Proofs.Script.Commands
import CommandShell.Proofs.Session.NestedTold

/-!
# What is still to be carried out

The agenda of a run is the list of the lines that each source on its stack is still to give, the
top source first. A read takes no line off the agenda: the line read last stands on it until it is
carried out. A source that is being left gives no more.

`Advances` says how a turn changes the pending move and the agenda, and `advances_step` that every
turn that goes on does it in one of these ways. It holds of a stack that is **scripted**: the reader
lets nobody type the lines, and standard input is read by the first source of the run at most. The
scripts that lines ask for keep a stack so (`Scripted.step`).
-/

namespace CommandShell

theorem LineReader.host_read (r : LineReader) (terminals : List String)
    (execute : Console → String → Nat → Reaction Console) :
    (r.host terminals execute).read = r.read := rfl

/-! ## Scripted stacks -/

/-- **Scripted** — the reader lets nobody type the lines of the source, and standard input belongs
to the first source of a run. -/
def Source.Scripted (r : LineReader) (s : Source) : Prop :=
  r.Plainly s ∧ (s.primordial = false → s.origin ≠ .standardInput)

namespace Source

variable {r : LineReader} {s s' : Source}

/-- Reading from the top source makes it a later one, and nothing else on the stack. -/
theorem exists_isLater_of_mem {top : Source} {rest : List Source} {stream : Stream} {n : Nat}
    (hs : s ∈ { top with stream, linesRead := n } :: rest) : ∃ s' ∈ top :: rest, s.IsLater s' := by
  rcases List.mem_cons.mp hs with rfl | hs
  · exact ⟨top, by simp, (IsLater.refl top).advance stream n⟩
  · exact ⟨s, List.mem_cons_of_mem top hs, .refl s⟩

theorem Scripted.later (hs : s.Scripted r) (hl : s'.IsLater s) : s'.Scripted r := by
  rw [hl]
  exact hs

/-- A script that a line asks for is scripted. -/
theorem scripted_of_script? {b : Builtins} {line : String} (r : LineReader)
    (h : b.script? line = some s) : s.Scripted r := by
  obtain ⟨hi, ho, -⟩ := Builtins.file_of_script? h
  exact ⟨.inr hi, fun _ => by simp [ho]⟩

end Source

/-- Leaving a source puts none on the stack. -/
theorem Stack.mem_pop {st : Stack} {s : Source} (hs : s ∈ st.pop.1.sources) :
    s ∈ st.sources := by
  obtain ⟨k, -, hleft⟩ := st.pop_spec
  rw [hleft] at hs
  exact List.mem_of_mem_drop hs

namespace Loop

section

variable {ε : Type} {h : Host ε} {l : Loop ε} {s : Source}

/-- After a line the host is as the dispatcher left it. -/
theorem carried_env (h : Host ε) (l : Loop ε) : (l.carried h).1.env = (l.reaction h).env := by
  rw [carried_loop]

/-- A source on the stack after a turn was there before, or the line that was carried out pushed
it. -/
theorem mem_step_sources (hc : h.Consumes) (he : (l.step h).exit = none)
    (hs : s ∈ (l.step h).loop.stack.sources) :
    (∃ s' ∈ l.stack.sources, s.IsLater s') ∨ s ∈ pushes (l.reaction h).requests := by
  have w := way_step h l
  generalize l.step h = turn at he hs w
  cases w with
  | honours => cases he
  | lacksSource => cases he
  | askPanics => cases he
  | begins => exact .inl ⟨s, hs, .refl s⟩
  | lacksInput => cases he
  | readPanics => cases he
  | reads hn hsources =>
      rw [goOn_loop, Stack.sources_mapCurrent, received_sources h hsources, hc.source_eq] at hs
      rw [hsources]
      exact .inl (Source.exists_isLater_of_mem hs)
  | ends hn hsources =>
      rw [goOn_loop, received_sources h hsources, hc.source_eq] at hs
      rw [hsources]
      exact .inl (Source.exists_isLater_of_mem hs)
  | fails hn hsources =>
      rw [goOn_loop, received_sources h hsources, hc.source_eq] at hs
      rw [hsources]
      exact .inl (Source.exists_isLater_of_mem hs)
  | dispatchPanics => cases he
  | dispatches =>
      rw [goOn_loop] at hs
      simp only [judged_stack, carried_loop, Stack.sources_pushAll, List.mem_append,
        List.mem_reverse] at hs
      rcases hs with hs | hs
      · exact .inr hs
      · exact .inl ⟨s, hs, .refl s⟩
  | leaves =>
      rw [unwind, goOn_loop] at hs
      exact .inl ⟨s, Stack.mem_pop hs, .refl s⟩
  | stops => cases he

end

section

variable {r : LineReader} {terminals : List String} {b : Builtins} {l : Loop Console}
  {first s : Source} {rest : List Source}

/-- **Scripted** — every source on the stack is. -/
def Scripted (r : LineReader) (l : Loop Console) : Prop := ∀ s ∈ l.stack.sources, s.Scripted r

/-- What a line pushes is scripted. -/
theorem scripted_of_mem_pushes
    (hs : s ∈ pushes (l.reaction (r.host terminals b.execute)).requests) :
    b.script? l.line = some s ∧ s.Scripted r := by
  rw [reaction_host] at hs
  rcases b.pushes_execute l.env l.line l.stack.depth with hnone | ⟨source, hscript, hone⟩
  · rw [hnone] at hs
    cases hs
  · rw [hone] at hs
    obtain rfl := List.mem_singleton.mp hs
    exact ⟨hscript, Source.scripted_of_script? r hscript⟩

/-- Every turn that goes on keeps a stack scripted. -/
theorem Scripted.step (hl : l.Scripted r)
    (he : (l.step (r.host terminals b.execute)).exit = none) :
    (l.step (r.host terminals b.execute)).loop.Scripted r := by
  intro s hs
  have hconsumes := r.host_consumes terminals b.execute
  rcases mem_step_sources hconsumes he hs with ⟨s', hs', hlater⟩ | hpushed
  · exact (hl s' hs').later hlater
  · exact (scripted_of_mem_pushes hpushed).2

/-! ## The agenda -/

/-- **agenda** — the lines that each source is still to give, the top source first. The line read
last stands on it until it is carried out, and a source that is being left gives no more. -/
def agenda (l : Loop Console) : List (List String) :=
  match l.next, l.stack.sources.map (Source.linesAt l.env) with
  | .dispatch, lines :: rest => (l.line :: lines) :: rest
  | .unwind, _ :: rest => [] :: rest
  | _, all => all

theorem agenda_of_begin (hn : l.next = .begin) :
    l.agenda = l.stack.sources.map (Source.linesAt l.env) := by
  rw [agenda, hn]

theorem agenda_of_read (hn : l.next = .read) :
    l.agenda = l.stack.sources.map (Source.linesAt l.env) := by
  rw [agenda, hn]

theorem agenda_of_dispatch (hn : l.next = .dispatch) (hs : l.stack.sources = s :: rest) :
    l.agenda = (l.line :: s.linesAt l.env) :: rest.map (Source.linesAt l.env) := by
  rw [agenda, hn, hs]
  rfl

theorem agenda_of_unwind (hn : l.next = .unwind) (hs : l.stack.sources = s :: rest) :
    l.agenda = [] :: rest.map (Source.linesAt l.env) := by
  rw [agenda, hn, hs]
  rfl

theorem agenda_of_stop (hn : l.next = .stop) (hs : l.stack.sources = []) : l.agenda = [] := by
  rw [agenda, hn, hs]
  rfl

/-- A read from the top source leaves the lines of those below it alone. -/
theorem linesAt_below (hl : l.Sound first []) (hscripted : l.Scripted r) (hn : l.next = .read)
    (hs : l.stack.sources = s :: rest) :
    rest.map (Source.linesAt (r.read l.env s).env) = rest.map (Source.linesAt l.env) := by
  have hr : Rooted first [] (s :: rest) := hs ▸ hl.rooted (by simp [hn])
  obtain ⟨hplain, horigin⟩ := hscripted s (by simp [hs])
  -- Only a read from standard input changes the console, and then no source is below.
  cases hp : s.primordial with
  | true =>
      obtain ⟨rfl, -⟩ := hr.rest_eq hp
      rfl
  | false =>
      obtain ⟨-, -, -, henv, -⟩ := LineReader.read_plainly (c := l.env) hplain
      rw [henv (horigin hp)]

/-- A line that was read stood first on the agenda, and still does. -/
theorem agenda_after_line {text : String} {l' : Loop Console} (hl : l.Sound first [])
    (hscripted : l.Scripted r) (hn : l.next = .read) (hs : l.stack.sources = s :: rest)
    (hr : (r.read l.env s).result = .ok (.line text)) (hnext : l'.next = .dispatch)
    (hs' : l'.stack.sources = (r.read l.env s).source.countLine :: rest)
    (henv : l'.env = (r.read l.env s).env) (hline : l'.line = text) : l'.agenda = l.agenda := by
  obtain ⟨hplain, -⟩ := hscripted s (by simp [hs])
  rw [agenda_of_dispatch hnext hs', agenda_of_read hn, hs, List.map_cons,
    LineReader.linesAt_of_line hplain hr, henv, hline, linesAt_below hl hscripted hn hs]
  rfl

/-- A source of which no line was read has none on the agenda. -/
theorem agenda_after_noLine {s' : Source} {l' : Loop Console} (hl : l.Sound first [])
    (hscripted : l.Scripted r) (hn : l.next = .read) (hs : l.stack.sources = s :: rest)
    (hr : ∀ text, (r.read l.env s).result ≠ .ok (.line text)) (hnext : l'.next = .unwind)
    (hs' : l'.stack.sources = s' :: rest) (henv : l'.env = (r.read l.env s).env) :
    l'.agenda = l.agenda := by
  obtain ⟨hplain, -⟩ := hscripted s (by simp [hs])
  rw [agenda_of_unwind hnext hs', agenda_of_read hn, hs, List.map_cons,
    LineReader.linesAt_of_noLine hplain hr, henv, linesAt_below hl hscripted hn hs]

/-- What a line pushed stands before the other lines of its source. -/
theorem linesAt_carried (r : LineReader) (terminals : List String) (b : Builtins)
    (hs : l.stack.sources = s :: rest) :
    ((l.carried (r.host terminals b.execute)).1.stack.sources.map
        (Source.linesAt (l.carried (r.host terminals b.execute)).1.env)) =
      (pushes (l.reaction (r.host terminals b.execute)).requests).reverse.map (·.stream.lines) ++
        s.linesAt l.env :: rest.map (Source.linesAt l.env) := by
  have hunread : (l.carried (r.host terminals b.execute)).1.env.unread = l.env.unread := by
    rw [carried_env, reaction_host]
    exact b.unread_execute l.env l.line l.stack.depth
  have hlines : Source.linesAt (l.carried (r.host terminals b.execute)).1.env =
      Source.linesAt l.env := funext fun s => Source.linesAt_congr hunread s
  -- The lines of a file are its own at every console.
  have hpushed : ∀ s ∈ (pushes (l.reaction (r.host terminals b.execute)).requests).reverse,
      s.linesAt l.env = s.stream.lines := by
    intro s hs
    obtain ⟨hscript, -⟩ := scripted_of_mem_pushes (List.mem_reverse.mp hs)
    obtain ⟨-, ho, -⟩ := Builtins.file_of_script? hscript
    exact Source.linesAt_of_own l.env (by simp [ho])
  rw [hlines, carried_loop, Stack.sources_pushAll, hs, List.map_append, List.map_cons,
    List.map_congr_left hpushed]

/-! ## The agenda after a turn -/

/-- **Advances** — how a turn changes the pending move and the agenda, given the course before it,
the line read last, and the sources that this line pushes if it is carried out. -/
inductive Advances (c : Course) (line : String) (pushed : List Source) :
    Move → List (List String) → Move → List (List String) → Prop
  /-- A line is to be read. -/
  | begins {agenda : List (List String)} : Advances c line pushed .begin agenda .read agenda
  /-- After a line that failed, the source is to be left unread. -/
  | skips {lines : List String} {rest : List (List String)} : c ≠ .onward →
      Advances c line pushed .begin (lines :: rest) .unwind ([] :: rest)
  /-- A line was read. -/
  | reads {agenda : List (List String)} : Advances c line pushed .read agenda .dispatch agenda
  /-- No line was read. -/
  | ends {agenda : List (List String)} : Advances c line pushed .read agenda .unwind agenda
  /-- A line was carried out, and what it pushed comes before the other lines of its source. -/
  | carries {lines : List String} {rest : List (List String)} :
      Advances c line pushed .dispatch ((line :: lines) :: rest) .begin
        (pushed.reverse.map (·.stream.lines) ++ lines :: rest)
  /-- A line was carried out that shuts the session down. -/
  | closes {lines : List String} {rest : List (List String)} :
      Advances c line pushed .dispatch ((line :: lines) :: rest) .unwind
        ([] :: (pushed.reverse.map (·.stream.lines) ++ lines :: rest).tail)
  /-- A source was left. -/
  | leaves {rest : List (List String)} : Advances c line pushed .unwind ([] :: rest) .begin rest
  /-- A source was left while the session shuts down. -/
  | drops {lines : List String} {rest : List (List String)} : c ≠ .onward →
      Advances c line pushed .unwind ([] :: lines :: rest) .unwind ([] :: rest)
  /-- The first source was left. -/
  | finishes : Advances c line pushed .unwind [[]] .stop []

/-- An iteration begins. -/
theorem advances_of_begins {x : Bool} {es : List Event} {pushed : List Source}
    (hn : l.next = .begin) (hstate : l.state ≠ .closing) (hs : l.stack.sources = s :: rest) :
    Advances l.course l.line pushed .begin l.agenda (l.goOn es (.iteration x)).loop.next
      (l.goOn es (.iteration x)).loop.agenda := by
  rw [agenda_of_begin hn]
  cases hst : l.state with
  | ready =>
      have hnext : (l.goOn es (.iteration x)).loop.next = .read := by simp [hst, State.respond]
      rw [agenda_of_read hnext, hnext]
      exact .begins
  | scriptError =>
      cases x with
      | true =>
          have hnext : (l.goOn es (.iteration true)).loop.next = .read := by
            simp [hst, State.respond]
          rw [agenda_of_read hnext, hnext]
          exact .begins
      | false =>
          have hnext : (l.goOn es (.iteration false)).loop.next = .unwind := by
            simp [hst, State.respond]
          have hsources : (l.goOn es (.iteration false)).loop.stack.sources = s :: rest := hs
          rw [agenda_of_unwind hnext hsources, hnext, hs]
          exact .skips (by simp [course_of_scriptError hst])
  | closing => exact absurd hst hstate

/-- A line was read. -/
theorem advances_of_reads {text : String} {es : List Event} {pushed : List Source}
    (hl : l.Sound first []) (hscripted : l.Scripted r) (hn : l.next = .read)
    (hs : l.stack.sources = s :: rest) (hr : (r.read l.env s).result = .ok (.line text)) :
    Advances l.course l.line pushed .read l.agenda
      (goOn { (l.received (r.host terminals b.execute) s).1 with
        stack := (l.received (r.host terminals b.execute) s).1.stack.mapCurrent Source.countLine
        line := text } es .gotLine).loop.next
      (goOn { (l.received (r.host terminals b.execute) s).1 with
        stack := (l.received (r.host terminals b.execute) s).1.stack.mapCurrent Source.countLine
        line := text } es .gotLine).loop.agenda := by
  generalize hl' : (goOn { (l.received (r.host terminals b.execute) s).1 with
    stack := (l.received (r.host terminals b.execute) s).1.stack.mapCurrent Source.countLine
    line := text } es .gotLine).loop = l'
  have hnext : l'.next = .dispatch := by
    simp [← hl', received_loop, hl.lines (.inl hn), State.respond]
  have hsources : l'.stack.sources = (r.read l.env s).source.countLine :: rest := by
    rw [← hl', goOn_loop, Stack.sources_mapCurrent, received_sources _ hs]
    rfl
  have henv : l'.env = (r.read l.env s).env := by
    rw [← hl', goOn_loop, received_loop]
    rfl
  have hline : l'.line = text := by rw [← hl', goOn_loop]
  rw [hnext, agenda_after_line hl hscripted hn hs hr hnext hsources henv hline]
  exact .reads

/-- No line was read. -/
theorem advances_of_noLine {es : List Event} {pushed : List Source} (hl : l.Sound first [])
    (hscripted : l.Scripted r) (hn : l.next = .read) (hs : l.stack.sources = s :: rest)
    (hr : ∀ text, (r.read l.env s).result ≠ .ok (.line text)) :
    Advances l.course l.line pushed .read l.agenda
      ((l.received (r.host terminals b.execute) s).1.goOn es .noLine).loop.next
      ((l.received (r.host terminals b.execute) s).1.goOn es .noLine).loop.agenda := by
  generalize hl' : ((l.received (r.host terminals b.execute) s).1.goOn es .noLine).loop = l'
  have hnext : l'.next = .unwind := by
    simp [← hl', received_loop, hl.lines (.inl hn), State.respond]
  have hsources : l'.stack.sources = (r.read l.env s).source :: rest := by
    rw [← hl', goOn_loop, received_sources _ hs]
    rfl
  have henv : l'.env = (r.read l.env s).env := by
    rw [← hl', goOn_loop, received_loop]
    rfl
  rw [hnext, agenda_after_noLine hl hscripted hn hs hr hnext hsources henv]
  exact .ends

/-- A line was carried out. -/
theorem advances_of_dispatches {v : Verdict} {es : List Event} (hl : l.Sound first [])
    (hn : l.next = .dispatch) :
    Advances l.course l.line (pushes (l.reaction (r.host terminals b.execute)).requests)
      .dispatch l.agenda
      (((l.carried (r.host terminals b.execute)).1.judged v).goOn es v.signal).loop.next
      (((l.carried (r.host terminals b.execute)).1.judged v).goOn es v.signal).loop.agenda := by
  have hstate := hl.lines (.inr hn)
  obtain ⟨s, rest, hs⟩ := hl.exists_top (by simp [hn])
  have hlines := linesAt_carried r terminals b hs
  have harrives : (((l.carried (r.host terminals b.execute)).1.judged v).goOn es
      v.signal).loop.Arrives := arrives_of_dispatches hstate
  generalize hl' : (((l.carried (r.host terminals b.execute)).1.judged v).goOn es
    v.signal).loop = l' at harrives
  have hsources : l'.stack.sources = (l.carried (r.host terminals b.execute)).1.stack.sources := by
    rw [← hl', goOn_loop, judged_stack]
  have henv : l'.env = (l.carried (r.host terminals b.execute)).1.env := by
    rw [← hl', goOn_loop, judged_env]
  rw [← hsources, ← henv] at hlines
  rw [agenda_of_dispatch hn hs]
  rcases harrives with hnext | ⟨-, hnext⟩
  · rw [agenda_of_begin hnext, hnext, hlines]
    exact .carries
  · -- The top source is left without being read any more.
    have hne : l'.stack.sources ≠ [] := by
      intro hnil
      rw [hnil] at hlines
      simp at hlines
    obtain ⟨top, others, htop⟩ := List.exists_cons_of_ne_nil hne
    have htail := congrArg List.tail hlines
    rw [htop, List.map_cons, List.tail_cons] at htail
    rw [agenda_of_unwind hnext htop, hnext, htail]
    exact .closes

/-- A source was left. -/
theorem advances_of_leaves {pushed : List Source} (hl : l.Sound first []) (hn : l.next = .unwind) :
    Advances l.course l.line pushed .unwind l.agenda l.unwind.loop.next l.unwind.loop.agenda := by
  obtain ⟨s, rest, hs⟩ := hl.exists_top (by simp [hn])
  have hr : Rooted first [] (s :: rest) := hs ▸ hl.rooted (by simp [hn])
  rw [agenda_of_unwind hn hs]
  cases hp : s.primordial with
  | false =>
      obtain ⟨s', rest', rfl⟩ := List.exists_cons_of_ne_nil (hr.pop hl.primordial hp).ne_nil
      rw [unwind_nested hs hp (by simp)]
      have harrives := arrives_sourceLeft { l with stack := l.stack.below }
        [.logged (.sourcePopped s.name s.linesRead (s' :: rest').length), .released s]
      have hstack : l.stack.below.sources = s' :: rest' := by rw [Stack.sources_below, hs]; rfl
      rcases harrives with hnext | ⟨hclosing, hnext⟩
      · rw [agenda_of_begin hnext, hnext, goOn_loop, hstack]
        exact .leaves
      · have hstate : l.state = .closing := by simpa using hclosing
        have hc : l.course ≠ .onward := by simp [course_of_closing hstate]
        rw [agenda_of_unwind hnext hstack, hnext, goOn_loop, List.map_cons]
        exact .drops hc
  | true =>
      obtain ⟨rfl, -⟩ := hr.rest_eq hp
      rw [unwind_primordial hs hp]
      have hnext : (goOn { l with stack := .empty }
          ([.logged (.sourcePopped s.name s.linesRead ([] : List Source).length), .released s]
            ++ Stack.releaseAll []) (.sourceLeft false)).loop.next = .stop :=
        State.respond_stop_iff.mpr rfl
      rw [agenda_of_stop hnext rfl, hnext]
      exact .finishes

/-- No collaborator panics. -/
theorem outcome_of_exit {e : Exit} (hscripted : l.Scripted r)
    (he : (l.step (r.host terminals b.execute)).exit = some e) : ∃ o, e = .outcome o := by
  have w := way_step (r.host terminals b.execute) l
  generalize l.step (r.host terminals b.execute) = turn at he w
  cases w with
  | honours =>
      obtain rfl := Option.some.inj he
      exact ⟨_, rfl⟩
  | lacksSource =>
      obtain rfl := Option.some.inj he
      exact ⟨_, rfl⟩
  | askPanics _ _ _ hi => cases hi
  | begins => simp at he
  | lacksInput =>
      obtain rfl := Option.some.inj he
      exact ⟨_, rfl⟩
  | @readPanics s rest p _ hs hr =>
      obtain ⟨hplain, -⟩ := hscripted s (by simp [hs])
      obtain ⟨hresult, -⟩ := LineReader.read_plainly (c := l.env) hplain
      rw [LineReader.host_read, hresult] at hr
      cases hr
  | reads => simp at he
  | ends => simp at he
  | fails => simp at he
  | dispatchPanics _ hr =>
      obtain ⟨v, hv⟩ := b.result_execute l.env l.line l.stack.depth
      rw [reaction_host, hv] at hr
      cases hr
  | dispatches => simp at he
  | leaves => simp [unwind] at he
  | stops =>
      obtain rfl := Option.some.inj he
      exact ⟨_, rfl⟩

/-- After a line the run goes on with the stack as the line left it. -/
theorem step_of_dispatch (r : LineReader) (terminals : List String) (b : Builtins)
    (hn : l.next = .dispatch) :
    (l.step (r.host terminals b.execute)).exit = none ∧
      (l.step (r.host terminals b.execute)).loop.stack =
        (l.carried (r.host terminals b.execute)).1.stack := by
  obtain ⟨v, hv⟩ := b.result_execute l.env l.line l.stack.depth
  rw [← reaction_host r terminals] at hv
  have w : Way (r.host terminals b.execute) l _ := .dispatches hn hv
  rw [w.step_eq]
  exact ⟨rfl, judged_stack ..⟩

/-- **Every turn that goes on advances the agenda.** -/
theorem advances_step (hl : l.Sound first []) (hscripted : l.Scripted r)
    (he : (l.step (r.host terminals b.execute)).exit = none) :
    Advances l.course l.line (pushes (l.reaction (r.host terminals b.execute)).requests)
      l.next l.agenda
      (l.step (r.host terminals b.execute)).loop.next
      (l.step (r.host terminals b.execute)).loop.agenda := by
  have w := way_step (r.host terminals b.execute) l
  generalize l.step (r.host terminals b.execute) = turn at he w ⊢
  cases w with
  | honours => cases he
  | lacksSource => cases he
  | askPanics => cases he
  | begins hn _ hs =>
      rw [hn]
      exact advances_of_begins hn (hl.begins hn) hs
  | lacksInput => cases he
  | readPanics => simp at he
  | reads hn hs hr =>
      rw [hn]
      exact advances_of_reads hl hscripted hn hs hr
  | ends hn hs hr =>
      rw [hn]
      rw [LineReader.host_read] at hr
      exact advances_of_noLine hl hscripted hn hs (by simp [hr])
  | fails hn hs hr =>
      rw [hn]
      rw [LineReader.host_read] at hr
      exact advances_of_noLine hl hscripted hn hs (by simp [hr])
  | dispatchPanics => simp at he
  | dispatches hn =>
      rw [hn]
      exact advances_of_dispatches hl hn
  | leaves hn =>
      rw [hn]
      exact advances_of_leaves hl hn
  | stops => cases he

/-- The agenda is as long as the stack is deep. -/
theorem agenda_length (l : Loop Console) : l.agenda.length = l.stack.depth := by
  rw [l.stack.depth_eq, agenda]
  cases hsources : l.stack.sources with
  | nil => cases l.next <;> rfl
  | cons s rest => cases l.next <;> simp

end

end Loop

/-- What a move leaves to be done before a line is carried out, if it is made for one source. -/
def Move.pace : Move → Nat
  | .begin => 2
  | .read => 1
  | .dispatch | .unwind | .stop => 0

end CommandShell
