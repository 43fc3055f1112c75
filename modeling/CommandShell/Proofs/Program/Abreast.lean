import CommandShell.Proofs.Script.Blocks
import CommandShell.Proofs.Script.Pasting

/-!
# The same bytes from two first sources

Two runs whose first sources hold the same bytes, one in a file and one on standard input, do the
same. Their loops stay **abreast** turn by turn: they make the same moves in the same states, the
scripts on their stacks are the same, and their first sources still hold the same bytes
(`Abreast.step`). The name of the first source shows in the log only, so what they write is the same
(`abreast_follow`).
-/

namespace CommandShell

open CommandShell.Text

/-! ## Sources alike -/

/-- **Holds** — nobody types the lines of the source, and what is read of it at the console are the
bytes. -/
structure Source.Holds (s : Source) (c : Console) (bs : Bytes) : Prop where
  untyped : s.interactive = false
  carries : (s.supply c).Carries bs

/-- **Alike** — sources at one console and sources at another one: scripts, which are the same, on
first sources that hold the same bytes. -/
inductive Alike (c c' : Console) : List Source → List Source → Prop
  | none : Alike c c' [] []
  | first {s s' : Source} {bs : Bytes} : s.primordial = s'.primordial → s.Holds c bs →
      s'.Holds c' bs → Alike c c' [s] [s']
  | script {s : Source} {rest rest' : List Source} : s.interactive = false →
      s.origin ≠ .standardInput → Alike c c' rest rest' → Alike c c' (s :: rest) (s :: rest')

namespace Alike

variable {c c' d d' : Console} {ss ss' : List Source}

theorem length_eq (h : Alike c c' ss ss') : ss.length = ss'.length := by
  induction h with
  | none => rfl
  | first => rfl
  | script _ _ _ ih => exact congrArg (· + 1) ih

/-- Of a console only what nobody has read counts. -/
theorem congr (h : Alike c c' ss ss') (hd : d.unread = c.unread) (hd' : d'.unread = c'.unread) :
    Alike d d' ss ss' := by
  have hsupply : ∀ {e e' : Console} (s : Source), e'.unread = e.unread →
      s.supply e' = s.supply e := by
    intro e e' s he
    rw [Source.supply, Source.supply, he]
  induction h with
  | none => exact .none
  | first hp hs hs' =>
      exact .first hp ⟨hs.untyped, hsupply _ hd ▸ hs.carries⟩
        ⟨hs'.untyped, hsupply _ hd' ▸ hs'.carries⟩
  | script hi ho _ ih => exact .script hi ho ih

/-- Scripts that are pushed on both. -/
theorem append (h : Alike c c' ss ss') {pushed : List Source}
    (hp : ∀ s ∈ pushed, s.interactive = false ∧ s.origin ≠ .standardInput) :
    Alike c c' (pushed ++ ss) (pushed ++ ss') := by
  induction pushed with
  | nil => exact h
  | cons s pushed ih =>
      obtain ⟨hi, ho⟩ := hp s (List.mem_cons_self ..)
      exact .script hi ho (ih fun s' hs' => hp s' (List.mem_cons_of_mem s hs'))

end Alike

/-! ## Reading from them -/

namespace LineReader

variable {r : LineReader} {c c' : Console} {s s' : Source} {bs : Bytes}

/-- A read of a source that holds bytes gives their first line. -/
theorem read_holds (r : LineReader) (h : s.Holds c bs) :
    (r.read c s).result = .ok (.ofTaken (.ok (firstLine bs))) ∧
      (r.read c s).source.Holds (r.read c s).env (afterLine bs) ∧
      (r.read c s).env.sinks = c.sinks := by
  obtain ⟨hresult, hrest, hsinks, -, -⟩ := read_plainly (c := c) (r := r) (.inr h.untyped)
  obtain ⟨hline, hcarries⟩ := h.carries.takeLine
  rw [hresult, hline]
  refine ⟨rfl, ⟨?_, hrest ▸ hcarries⟩, hsinks⟩
  rw [read_source]
  exact h.untyped

/-- A read of a script is the same at every console. -/
theorem read_script (r : LineReader) (hi : s.interactive = false) (ho : s.origin ≠ .standardInput)
    (c c' : Console) :
    (r.read c s).result = (r.read c' s).result ∧ (r.read c s).source = (r.read c' s).source ∧
      (r.read c s).env = c := by
  have hresult : (r.read c s).result = (r.read c' s).result ∧
      (r.read c s).source = (r.read c' s).source := by
    obtain ⟨notes, hread, -⟩ := read_of_plainly (r := r) (c := c) (.inr hi)
    obtain ⟨notes', hread', -⟩ := read_of_plainly (r := r) (c := c') (.inr hi)
    rw [hread, hread', readStream, readStream]
    cases horigin : s.origin with
    | standardInput => exact absurd horigin ho
    | given => exact ⟨rfl, rfl⟩
    | file => exact ⟨rfl, rfl⟩
  exact ⟨hresult.1, hresult.2, (read_plainly (.inr hi)).2.2.2.1 ho⟩

end LineReader

namespace Alike

variable {c c' : Console} {s s' : Source} {rest rest' : List Source}

/-- Reads of the top sources find the same, change no sink, and leave the sources alike. -/
theorem read (r : LineReader) (h : Alike c c' (s :: rest) (s' :: rest')) :
    (r.read c s).result = (r.read c' s').result ∧
      (∃ found, (r.read c s).result = .ok found) ∧
      (r.read c s).env.sinks = c.sinks ∧ (r.read c' s').env.sinks = c'.sinks ∧
      Alike (r.read c s).env (r.read c' s').env ((r.read c s).source :: rest)
        ((r.read c' s').source :: rest') := by
  cases h with
  | first hp hs hs' =>
      obtain ⟨hresult, hholds, hsinks⟩ := r.read_holds hs
      obtain ⟨hresult', hholds', hsinks'⟩ := r.read_holds hs'
      have hp' : (r.read c s).source.primordial = (r.read c' s').source.primordial := by
        rw [r.read_source, r.read_source]
        exact hp
      exact ⟨hresult.trans hresult'.symm, ⟨_, hresult⟩, hsinks, hsinks', .first hp' hholds hholds'⟩
  | script hi ho hrest =>
      obtain ⟨hresult, hsource, henv⟩ := r.read_script hi ho c c'
      obtain ⟨-, -, henv'⟩ := r.read_script hi ho c' c
      have hfound := (LineReader.read_plainly (r := r) (c := c) (s := s) (.inr hi)).1
      rw [henv, henv', ← hsource]
      refine ⟨hresult, ⟨_, hfound⟩, rfl, rfl, ?_⟩
      rw [r.read_source]
      exact .script hi ho hrest

theorem untyped (h : Alike c c' (s :: rest) (s' :: rest')) :
    s.interactive = false ∧ s'.interactive = false := by
  cases h with
  | first hp hs hs' => exact ⟨hs.untyped, hs'.untyped⟩
  | script hi ho hrest => exact ⟨hi, hi⟩

/-- A line more is counted for the top sources. -/
theorem countLine (h : Alike c c' (s :: rest) (s' :: rest')) :
    Alike c c' (s.countLine :: rest) (s'.countLine :: rest') := by
  cases h with
  | first hp hs hs' => exact .first hp ⟨hs.untyped, hs.carries⟩ ⟨hs'.untyped, hs'.carries⟩
  | script hi ho hrest => exact .script hi ho hrest

end Alike

/-! ## Loops abreast -/

namespace Loop

/-- **Abreast** — two loops that make the same move next in the same state, where sources and sinks
are alike, and neither of which takes requests to cancel. -/
structure Abreast (l l' : Loop Console) : Prop where
  next : l'.next = l.next
  state : l'.state = l.state
  line : l'.line = l.line
  fatal : l'.fatal = l.fatal
  deaf : l.cancellable = false ∧ l'.cancellable = false
  uncancelled : l.cancelled = false ∧ l'.cancelled = false
  sinks : l'.env.sinks = l.env.sinks
  alike : Alike l.env l'.env l.stack.sources l'.stack.sources

namespace Abreast

variable {r : LineReader} {b : Builtins} {l l' : Loop Console} {es es' : List Event} {s s' : Source}
  {rest rest' : List Source}

theorem depth_eq (ha : l.Abreast l') : l'.stack.depth = l.stack.depth := by
  rw [l.stack.depth_eq, l'.stack.depth_eq, ha.alike.length_eq]

/-- The top sources are both there or both missing. -/
theorem exists_tops (ha : l.Abreast l') (hs : l.stack.sources = s :: rest) :
    ∃ s' rest', l'.stack.sources = s' :: rest' ∧ Alike l.env l'.env (s :: rest) (s' :: rest') := by
  have halike := ha.alike
  rw [hs] at halike
  cases hs' : l'.stack.sources with
  | nil =>
      rw [hs'] at halike
      cases halike
  | cons s' rest' => exact ⟨s', rest', rfl, hs' ▸ halike⟩

theorem sources_nil (ha : l.Abreast l') (hs : l.stack.sources = []) : l'.stack.sources = [] := by
  have hlength := ha.alike.length_eq
  rw [hs] at hlength
  exact List.length_eq_zero_iff.mp hlength.symm

/-- The same signal takes both further. -/
theorem goOn (ha : l.Abreast l') (e : Signal) :
    (l.goOn es e).loop.Abreast (l'.goOn es' e).loop where
  next := by
    rw [goOn_loop, goOn_loop, ha.state]
  state := by
    rw [goOn_loop, goOn_loop, ha.state]
  line := ha.line
  fatal := ha.fatal
  deaf := ha.deaf
  uncancelled := ha.uncancelled
  sinks := ha.sinks
  alike := ha.alike

/-- Both read from their top sources. -/
theorem received (ha : l.Abreast l') (hs : l.stack.sources = s :: rest)
    (hs' : l'.stack.sources = s' :: rest') (halike : Alike l.env l'.env (s :: rest) (s' :: rest')) :
    (l.received (r.host [] b.execute) s).1.Abreast (l'.received (r.host [] b.execute) s').1 := by
  obtain ⟨-, -, hsinks, hsinks', hread⟩ := halike.read r
  have hsources := received_sources (r.host [] b.execute) hs
  have hsources' := received_sources (r.host [] b.execute) hs'
  rw [received_loop] at hsources ⊢
  rw [received_loop] at hsources' ⊢
  exact
    { next := ha.next
      state := ha.state
      line := ha.line
      fatal := ha.fatal
      deaf := ha.deaf
      uncancelled := by
        dsimp only
        rw [ha.uncancelled.1, ha.uncancelled.2, ha.deaf.1, ha.deaf.2]
        exact ⟨rfl, rfl⟩
      sinks := hsinks'.trans (ha.sinks.trans hsinks.symm)
      alike := by
        rw [hsources, hsources']
        exact hread }

/-- Both count the line that they read. -/
theorem countLine (ha : l.Abreast l') (hs : l.stack.sources = s :: rest) (text : String) :
    Abreast { l with stack := l.stack.mapCurrent Source.countLine, line := text }
      { l' with stack := l'.stack.mapCurrent Source.countLine, line := text } := by
  obtain ⟨s', rest', hs', halike⟩ := ha.exists_tops hs
  refine ⟨ha.next, ha.state, rfl, ha.fatal, ha.deaf, ha.uncancelled, ha.sinks, ?_⟩
  dsimp only
  rw [Stack.sources_mapCurrent, Stack.sources_mapCurrent, hs, hs']
  exact halike.countLine

/-- The dispatchers answer both in the same way. -/
theorem reaction (ha : l.Abreast l') :
    (l'.reaction (r.host [] b.execute)).requests = (l.reaction (r.host [] b.execute)).requests ∧
      (l'.reaction (r.host [] b.execute)).result = (l.reaction (r.host [] b.execute)).result ∧
      (l'.reaction (r.host [] b.execute)).env.sinks =
        (l.reaction (r.host [] b.execute)).env.sinks := by
  have hsame : (b.execute l'.env l'.line l'.stack.depth).onSinks =
      (b.execute l.env l.line l.stack.depth).onSinks := by
    rw [← b.execute_onSinks, ← b.execute_onSinks, ha.sinks, ha.line, ha.depth_eq]
  rw [reaction_host, reaction_host]
  refine ⟨?_, ?_, ?_⟩
  · rw [← Reaction.onSinks_requests, hsame, Reaction.onSinks_requests]
  · rw [← Reaction.onSinks_result, hsame, Reaction.onSinks_result]
  · rw [← Reaction.onSinks_env, hsame, Reaction.onSinks_env]

/-- Both carry out the line. -/
theorem carried (ha : l.Abreast l') :
    (l.carried (r.host [] b.execute)).1.Abreast (l'.carried (r.host [] b.execute)).1 := by
  obtain ⟨hrequests, -, hsinks⟩ := ha.reaction (r := r) (b := b)
  have hunread : (l.reaction (r.host [] b.execute)).env.unread = l.env.unread := by
    rw [reaction_host]
    exact b.unread_execute ..
  have hunread' : (l'.reaction (r.host [] b.execute)).env.unread = l'.env.unread := by
    rw [reaction_host]
    exact b.unread_execute ..
  -- What a line pushes is a file.
  have hpushed : ∀ s ∈ (pushes (l.reaction (r.host [] b.execute)).requests).reverse,
      s.interactive = false ∧ s.origin ≠ .standardInput := by
    intro s hs
    obtain ⟨hscript, -⟩ := scripted_of_mem_pushes (List.mem_reverse.mp hs)
    obtain ⟨hi, ho, -⟩ := Builtins.file_of_script? hscript
    exact ⟨hi, by rw [ho]; exact Origin.noConfusion⟩
  rw [carried_loop, carried_loop]
  generalize l.reaction (r.host [] b.execute) = reaction at *
  generalize l'.reaction (r.host [] b.execute) = reaction' at *
  exact
    { next := ha.next
      state := by
        dsimp only
        rw [hrequests, ha.state]
      line := ha.line
      fatal := ha.fatal
      deaf := ha.deaf
      uncancelled := by
        dsimp only
        rw [ha.uncancelled.1, ha.uncancelled.2, ha.deaf.1, ha.deaf.2]
        exact ⟨rfl, rfl⟩
      sinks := hsinks
      alike := by
        dsimp only
        rw [hrequests, Stack.sources_pushAll, Stack.sources_pushAll]
        exact (ha.alike.congr hunread hunread').append hpushed }

theorem judged (ha : l.Abreast l') (v : Verdict) : (l.judged v).Abreast (l'.judged v) := by
  cases v with
  | fatal => exact { ha with fatal := rfl }
  | ok => exact ha
  | scriptError => exact ha

theorem unwind_eq (l : Loop Console) :
    l.unwind = Loop.goOn { l with stack := l.stack.pop.1 } l.stack.pop.2.2
      (.sourceLeft l.stack.pop.2.1) := rfl

/-- Both leave their top source, and go on with the one below it if there is one. -/
theorem pop (ha : l.Abreast l') :
    l'.stack.pop.2.1 = l.stack.pop.2.1 ∧
      Abreast { l with stack := l.stack.pop.1 } { l' with stack := l'.stack.pop.1 } := by
  suffices hpop : l'.stack.pop.2.1 = l.stack.pop.2.1 ∧
      Alike l.env l'.env l.stack.pop.1.sources l'.stack.pop.1.sources from
    ⟨hpop.1, { ha with alike := hpop.2 }⟩
  cases hs : l.stack.sources with
  | nil =>
      obtain ⟨hpop, hmore⟩ := Stack.pop_of_nil hs
      obtain ⟨hpop', hmore'⟩ := Stack.pop_of_nil (ha.sources_nil hs)
      rw [hpop, hpop', hmore, hmore']
      exact ⟨rfl, .none⟩
  | cons s rest =>
      obtain ⟨s', rest', hs', halike⟩ := ha.exists_tops hs
      obtain ⟨hpop, hmore⟩ := Stack.pop_of_cons hs
      obtain ⟨hpop', hmore'⟩ := Stack.pop_of_cons hs'
      rw [hpop, hpop', hmore, hmore']
      cases halike with
      | first hp =>
          rw [hp]
          refine ⟨rfl, ?_⟩
          rw [ite_self]
          exact .none
      | script hi ho hrest =>
          refine ⟨?_, ?_⟩
          · rw [Bool.eq_iff_iff]
            simp [← List.length_eq_zero_iff, hrest.length_eq]
          · split
            · exact .none
            · exact hrest

/-! ## Turns -/

/-- Both write the same in a turn. -/
theorem writes_step (ha : l.Abreast l') :
    writes (l'.step (r.host [] b.execute)).events =
      writes (l.step (r.host [] b.execute)).events := by
  rw [← writes_effects, ← writes_effects (l.step _).events, effects_step, effects_step, ha.next]
  cases hn : l.next with
  | begin => rfl
  | read =>
      cases hs : l.stack.sources with
      | nil => rw [ha.sources_nil hs]
      | cons s rest =>
          obtain ⟨s', rest', hs', halike⟩ := ha.exists_tops hs
          obtain ⟨hi, hi'⟩ := halike.untyped
          have hnone := (LineReader.read_plainly (r := r) (c := l.env) (.inr hi)).2.2.2.2 hi
          have hnone' := (LineReader.read_plainly (r := r) (c := l'.env) (.inr hi')).2.2.2.2 hi'
          rw [hs']
          dsimp only
          rw [LineReader.host_read, hnone, hnone']
  | dispatch =>
      dsimp only
      rw [writes_effects, writes_effects, Loop.carried, Loop.carried, writes_carryOutAll,
        writes_carryOutAll, (ha.reaction (r := r) (b := b)).1]
  | unwind => rfl
  | stop => rfl

/-- None of the collaborators panics. -/
theorem exit_ne_panicked (ha : l.Abreast l') (p : Panic) :
    (l.step (r.host [] b.execute)).exit ≠ some (.panicked p) := by
  have w := way_step (r.host [] b.execute) l
  generalize l.step (r.host [] b.execute) = t at w
  cases w with
  | askPanics _ _ _ hi => cases hi
  | readPanics _ hs hr =>
      obtain ⟨s', rest', -, halike⟩ := ha.exists_tops hs
      obtain ⟨-, ⟨found, hfound⟩, -⟩ := halike.read r
      rw [LineReader.host_read, hfound] at hr
      cases hr
  | dispatchPanics _ hr =>
      obtain ⟨v, hv⟩ := b.result_execute l.env l.line l.stack.depth
      rw [reaction_host, hv] at hr
      cases hr
  | _ => exact nofun

/-- **Loops that are abreast take the same turn**, and stay abreast if it goes on. -/
theorem step (ha : l.Abreast l') :
    (l'.step (r.host [] b.execute)).exit = (l.step (r.host [] b.execute)).exit ∧
      ((l.step (r.host [] b.execute)).exit = none →
        (l.step (r.host [] b.execute)).loop.Abreast (l'.step (r.host [] b.execute)).loop) := by
  have houtcome : l'.outcome = l.outcome := by rw [outcome, outcome, ha.fatal, ha.state]
  have hfinish : l'.finish.exit = l.finish.exit := by
    rw [finish, finish, leave_exit, leave_exit, houtcome]
  have hcalm := ha.exit_ne_panicked (r := r) (b := b)
  have w := way_step (r.host [] b.execute) l
  generalize l.step (r.host [] b.execute) = t at hcalm w
  cases w with
  | honours hn hc =>
      rw [ha.uncancelled.1] at hc
      cases hc
  | lacksSource hn _ hs =>
      have w' : Way (r.host [] b.execute) l' _ :=
        .lacksSource (ha.next.trans hn) ha.uncancelled.2 (ha.sources_nil hs)
      rw [w'.step_eq]
      exact ⟨hfinish, fun he => by cases he⟩
  | @askPanics _ _ p => exact absurd rfl (hcalm p)
  | @begins s rest i hn _ hs hi =>
      obtain ⟨s', rest', hs', halike⟩ := ha.exists_tops hs
      have hi' : ((r.host [] b.execute).interactive l'.env s').result = .ok i := by
        rw [← hi]
        exact congrArg (fun i => Except.ok (i || false))
          (halike.untyped.2.trans halike.untyped.1.symm)
      have w' : Way (r.host [] b.execute) l' _ :=
        .begins (ha.next.trans hn) ha.uncancelled.2 hs' hi'
      rw [w'.step_eq]
      exact ⟨rfl, fun _ => ha.goOn _⟩
  | lacksInput hn hs =>
      have w' : Way (r.host [] b.execute) l' _ :=
        .lacksInput (ha.next.trans hn) (ha.sources_nil hs)
      rw [w'.step_eq]
      exact ⟨hfinish, fun he => by cases he⟩
  | @readPanics _ _ p => exact absurd rfl (hcalm p)
  | reads hn hs hr =>
      obtain ⟨s', rest', hs', halike⟩ := ha.exists_tops hs
      have hr' := (halike.read r).1.symm.trans hr
      have w' : Way (r.host [] b.execute) l' _ := .reads (ha.next.trans hn) hs' hr'
      rw [w'.step_eq]
      refine ⟨rfl, fun _ => ?_⟩
      exact ((ha.received hs hs' halike).countLine (received_sources _ hs) _).goOn _
  | ends hn hs hr =>
      obtain ⟨s', rest', hs', halike⟩ := ha.exists_tops hs
      have hr' := (halike.read r).1.symm.trans hr
      have w' : Way (r.host [] b.execute) l' _ := .ends (ha.next.trans hn) hs' hr'
      rw [w'.step_eq]
      exact ⟨rfl, fun _ => (ha.received hs hs' halike).goOn _⟩
  | fails hn hs hr =>
      obtain ⟨s', rest', hs', halike⟩ := ha.exists_tops hs
      have hr' := (halike.read r).1.symm.trans hr
      have w' : Way (r.host [] b.execute) l' _ := .fails (ha.next.trans hn) hs' hr'
      rw [w'.step_eq]
      exact ⟨rfl, fun _ => (ha.received hs hs' halike).goOn _⟩
  | @dispatchPanics p => exact absurd rfl (hcalm p)
  | @dispatches v hn hr =>
      have hr' := (ha.reaction (r := r) (b := b)).2.1.trans hr
      have w' : Way (r.host [] b.execute) l' _ := .dispatches (ha.next.trans hn) hr'
      rw [w'.step_eq]
      refine ⟨by rw [goOn_exit, goOn_exit], fun _ => ?_⟩
      exact ((ha.carried (r := r) (b := b)).judged v).goOn v.signal
  | leaves hn =>
      have w' : Way (r.host [] b.execute) l' _ := .leaves (ha.next.trans hn)
      obtain ⟨hmore, hpop⟩ := ha.pop
      rw [w'.step_eq, unwind_eq, unwind_eq, hmore]
      exact ⟨rfl, fun _ => hpop.goOn _⟩
  | stops hn =>
      have w' : Way (r.host [] b.execute) l' _ := .stops (ha.next.trans hn)
      rw [w'.step_eq]
      exact ⟨hfinish, fun he => by cases he⟩

end Abreast

/-- **Loops that are abreast write the same and end in the same way**, after any number of turns,
and not in a panic. -/
theorem abreast_follow {r : LineReader} {b : Builtins} {l l' : Loop Console} (ha : l.Abreast l')
    (n : Nat) :
    (follow (r.host [] b.execute) n l').exit = (follow (r.host [] b.execute) n l).exit ∧
      (∀ p, (follow (r.host [] b.execute) n l).exit ≠ some (.panicked p)) ∧
      writes (follow (r.host [] b.execute) n l').events =
        writes (follow (r.host [] b.execute) n l).events := by
  induction n generalizing l l' with
  | zero => exact ⟨rfl, nofun, rfl⟩
  | succ n ih =>
      obtain ⟨hexit, hloop⟩ := ha.step (r := r) (b := b)
      have hwrites := ha.writes_step (r := r) (b := b)
      cases he : (l.step (r.host [] b.execute)).exit with
      | some e =>
          rw [follow_of_leaves n he, follow_of_leaves n (hexit.trans he)]
          exact ⟨rfl, he ▸ ha.exit_ne_panicked, hwrites⟩
      | none =>
          obtain ⟨hlater, hcalm, hmore⟩ := ih (hloop he)
          rw [follow_of_goesOn n he, follow_of_goesOn n (hexit.trans he)]
          dsimp only
          rw [writes_append, writes_append, hwrites, hmore]
          exact ⟨hlater, hcalm, rfl⟩

end Loop

end CommandShell
