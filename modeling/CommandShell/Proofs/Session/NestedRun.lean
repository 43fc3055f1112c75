import CommandShell.Proofs.Session.NestedTold

/-!
# The loop runs nested scripts

`run_acts_iff_nested`: what a run without cancellation does is what `Nested` tells of its first
source. Every number of turns gives a telling, every telling is reached after some number of turns,
and a run ends with an outcome exactly where the telling is done.

That the runs are told was shown before. That every telling is reached is shown here, by induction
on the telling: a loop that meets a task takes turns until the task is done (`reaches_of_nested`).
-/

namespace CommandShell

variable {ε : Type}

/-- Whether a task is about the first source of the run. -/
def Task.primordial : Task → Bool
  | .all .. => false
  | .enter _ s | .next s | .line s _ | .leave _ s => s.primordial

theorem primordial_countLine (s : Source) : s.countLine.primordial = s.primordial := rfl

/-- A source that is only consumed stays primordial or not. -/
theorem primordial_readBy {h : Host ε} (hc : h.Consumes) (s : Source) (env : ε) :
    (s.readBy h env).primordial = s.primordial := by
  rw [Source.readBy, hc.source_eq]

namespace Loop

variable {h : Host ε} {l : Loop ε} {first s : Source} {base rest : List Source}
  {t t₁ t₂ : List Event} {P Q : Loop ε → Prop}

/-! ## Reaching a loop -/

/-- **Reaches** — after some turns, which give the acts, the loop is one with a property. -/
def Reaches (h : Host ε) (l : Loop ε) (t : List Event) (Q : Loop ε → Prop) : Prop :=
  ∃ n, (follow h n l).exit = none ∧ acts (follow h n l).events = t ∧ Q (follow h n l).loop

theorem Reaches.refl (hq : Q l) : l.Reaches h [] Q := ⟨0, rfl, rfl, hq⟩

/-- A turn that goes on comes before the others. -/
theorem Reaches.step (he : (l.step h).exit = none) (hr : (l.step h).loop.Reaches h t Q) :
    l.Reaches h (acts (l.step h).events ++ t) Q := by
  obtain ⟨n, hexit, rfl, hq⟩ := hr
  refine ⟨n + 1, ?_, ?_, ?_⟩ <;> rw [follow_of_goesOn n he]
  · exact hexit
  · exact acts_append ..
  · exact hq

theorem Reaches.trans (hp : l.Reaches h t₁ P) (hq : ∀ l', P l' → l'.Reaches h t₂ Q) :
    l.Reaches h (t₁ ++ t₂) Q := by
  obtain ⟨m, hexit, rfl, hpm⟩ := hp
  obtain ⟨n, hexit', rfl, hqn⟩ := hq _ hpm
  refine ⟨m + n, ?_, ?_, ?_⟩ <;> rw [follow_add n hexit]
  · exact hexit'
  · exact acts_append ..
  · exact hqn

/-! ## From the telling to the loop -/

/-- The loop has arrived at sources with a course. -/
def ArrivesAt (c : Course) (sources : List Source) (l : Loop ε) : Prop :=
  l.Arrives ∧ l.course = c ∧ l.stack.sources = sources

/-- **Meets** — a task is under way, and the sources below wait for it. -/
def Meets (rest : List Source) (l : Loop ε) : Task → Prop
  | .all c sources => l.ArrivesAt c (sources ++ rest) ∧ ∀ s ∈ sources, s.primordial = false
  | .enter c s => l.ArrivesAt c (s :: rest)
  | .next s => l.next = .read ∧ l.stack.sources = s :: rest
  | .line s text => l.next = .dispatch ∧ l.line = text ∧ l.stack.sources = s :: rest
  | .leave c s => l.next = .unwind ∧ l.course = c ∧ l.stack.sources = s :: rest

/-- **Done** — a source is left, and the run goes on below it or is over. -/
def Done (primordial : Bool) (rest : List Source) (l : Loop ε) : Fate ε → Prop
  | .cut => True
  | .done c env =>
    l.env = env ∧ if primordial then l.course = c ∧ l.next = .stop else l.ArrivesAt c rest

theorem state_of_onward (hc : l.course = .onward) : l.state = .ready := by
  cases hs : l.state <;> simp [course, hs] at hc ⊢

theorem state_of_failed (hc : l.course = .failed) : l.state = .scriptError := by
  cases hs : l.state <;> simp [course, hs] at hc ⊢

theorem state_of_closing {fatal : Bool} (hc : l.course = .closing fatal) : l.state = .closing := by
  cases hs : l.state <;> simp [course, hs] at hc ⊢

/-- In a session that is not closing the source where the loop arrives has its turn. -/
theorem ArrivesAt.begins {c : Course} (ha : l.ArrivesAt c rest) (hs : l.state ≠ .closing) :
    l.next = .begin := by
  obtain ⟨hn | ⟨hclosing, _⟩, _, _⟩ := ha
  · exact hn
  · exact absurd hclosing hs

namespace Way

variable {turn : Turn ε}

theorem reaches (w : Way h l turn) (he : turn.exit = none) (hr : turn.loop.Reaches h t Q) :
    l.Reaches h (acts turn.events ++ t) Q := by
  rw [← w.step_eq] at he hr ⊢
  exact hr.step he

theorem soundInline (hc : h.Consumes) (w : Way h l turn) (hl : l.SoundInline first base)
    (he : turn.exit = none) : turn.loop.SoundInline first base := by
  rw [← w.step_eq] at he ⊢
  exact hl.step hc he

end Way

/-- The loop begins an iteration where it arrived. -/
theorem reaches_of_begins (hc : h.Consumes) {c : Course} {b : Bool} (hl : l.SoundInline first base)
    (ha : l.ArrivesAt c (s :: rest)) (hs : l.state ≠ .closing)
    (hi : (h.interactive l.env s).result = .ok b)
    (hlater : ∀ l' : Loop ε, l'.SoundInline first base → l' = { l.inspected h s with
        state := (l.state.respond (.iteration b)).1
        next := (l.state.respond (.iteration b)).2 } → l'.Reaches h t Q) :
    l.Reaches h t Q := by
  have w : Way h l _ := .begins (ha.begins hs) hl.uncancelled ha.2.2 hi
  have hreach := hlater _ (w.soundInline hc hl rfl) rfl
  simpa [Event.isAct] using w.reaches rfl hreach

/-- The loop reads a line. -/
theorem reaches_of_reads (hc : h.Consumes) {text : String} (hl : l.SoundInline first base)
    (hn : l.next = .read)
    (hs : l.stack.sources = s :: rest) (hr : (h.read l.env s).result = .ok (.line text))
    (hlater : ∀ l' : Loop ε, l'.SoundInline first base → l'.env = (h.read l.env s).env →
      l'.Meets rest (.line (s.readBy h l.env).countLine text) → l'.Reaches h t Q) :
    l.Reaches h (.lineRead s.name s.linesRead (some text) :: t) Q := by
  have hstate := hl.lines (.inl hn)
  have w : Way h l _ := .reads hn hs hr
  have hafter := received_sources h hs
  have hmeets := hlater _ (w.soundInline hc hl rfl) (by simp [received_loop])
    ⟨by simp [received_loop, hstate, State.respond], rfl, by
      rw [goOn_loop, Stack.sources_mapCurrent, hafter]
      rfl⟩
  simpa [Event.isAct] using w.reaches rfl hmeets

/-- The loop finds that its source has no more lines. -/
theorem reaches_of_noLine (hc : h.Consumes) {es : List Event} {act : Event}
    (hl : l.SoundInline first base)
    (hn : l.next = .read) (hs : l.stack.sources = s :: rest)
    (w : Way h l ((l.received h s).1.goOn es .noLine)) (hacts : acts es = [act])
    (hlater : ∀ l' : Loop ε, l'.SoundInline first base → l'.env = (h.read l.env s).env →
      l'.Meets rest (.leave .onward (s.readBy h l.env)) → l'.Reaches h t Q) :
    l.Reaches h (act :: t) Q := by
  have hstate := hl.lines (.inl hn)
  have hafter := received_sources h hs
  have hmeets := hlater _ (w.soundInline hc hl rfl) (by simp [received_loop])
    ⟨by simp [received_loop, hstate, State.respond],
      by simp [course, received_loop, hstate, State.respond], hafter⟩
  simpa [hacts] using w.reaches rfl hmeets

/-- The loop hands a line to the dispatcher. -/
theorem reaches_of_dispatches (hc : h.Consumes) {v : Verdict} (hl : l.SoundInline first base)
    (hn : l.next = .dispatch)
    (hs : l.stack.sources = s :: rest) (hr : (l.reaction h).result = .ok v)
    (hlater : ∀ l' : Loop ε, l'.SoundInline first base → l'.env = (l.reaction h).env →
      l'.Meets (s :: rest) (.all (.after v (.close ∈ (l.reaction h).requests))
        (pushes (l.reaction h).requests).reverse) → l'.Reaches h t Q) :
    l.Reaches h (.dispatched l.line v (rest.length + 1 + (pushes (l.reaction h).requests).length)
      :: t) Q := by
  have hstate := hl.lines (.inr hn)
  have hf : l.fatal = false := by simpa using hl.not_fatal (by simp [hn]) (by simp [hn])
  have w : Way h l _ := .dispatches hn hr
  have hdepth : (l.carried h).1.stack.depth =
      rest.length + 1 + (pushes (l.reaction h).requests).length := by
    rw [Stack.depth_eq, carried_loop, Stack.sources_pushAll, hs]
    simp [Nat.add_comm]
  have hsources : (((l.carried h).1.judged v).goOn ((l.carried h).2 ++
      .dispatched l.line v (l.carried h).1.stack.depth :: v.records (l.carried h).1)
      v.signal).loop.stack.sources
        = (pushes (l.reaction h).requests).reverse ++ s :: rest := by
    simp [carried_loop, hs]
  have hmeets := hlater _ (w.soundInline hc hl rfl) (by simp [carried_loop])
    ⟨⟨arrives_of_dispatches hstate, course_of_dispatches hstate hf, hsources⟩,
      fun s' hs' => primordial_of_mem_pushes (List.mem_reverse.mp hs')⟩
  simpa [Event.isAct, hdepth] using w.reaches rfl hmeets

/-- The loop leaves a source. -/
theorem reaches_of_leaves (hc : h.Consumes) {c : Course} (hl : l.SoundInline first base)
    (hm : l.Meets rest (.leave c s)) :
    l.Reaches h [s.leaving rest.length]
      fun l' => l'.SoundInline first base ∧ l'.Done s.primordial rest (.done c l.env) := by
  obtain ⟨hn, hcourse, hs⟩ := hm
  have hr : Rooted first base (s :: rest) := hs ▸ hl.rooted (by simp [hn])
  have w : Way h l _ := .leaves hn
  cases hp : s.primordial with
  | false =>
      have hnil : rest ≠ [] := (hr.pop hl.primordial hp).ne_nil
      rw [unwind_nested hs hp hnil] at w
      have hdone := Reaches.refl (h := h) (Q := fun l' : Loop ε => l'.SoundInline first base ∧
        l'.Done false rest (.done c l.env))
        ⟨w.soundInline hc hl rfl, rfl, arrives_sourceLeft _ _, by
          rw [course_sourceLeft]
          exact hcourse, by simp [hs]⟩
      simpa [Event.isAct, Source.leaving] using w.reaches rfl hdone
  | true =>
      obtain ⟨rfl, -⟩ := hr.rest_eq hp
      rw [unwind_primordial hs hp] at w
      have hdone := Reaches.refl (h := h) (Q := fun l' : Loop ε => l'.SoundInline first rest ∧
        l'.Done true rest (.done c l.env)) ⟨w.soundInline hc hl rfl, rfl, by
          rw [course_sourceLeft]
          exact hcourse, State.respond_stop_iff.mpr rfl⟩
      simpa [Event.isAct, Source.leaving] using w.reaches rfl hdone

/-- **A loop that meets a task takes turns until the task is done.** -/
theorem reaches_of_nested (hc : h.Consumes) {below : Nat} {task : Task} {env : ε} {r : Fate ε}
    (hN : Nested h below task env t r) (hl : l.SoundInline first base) (henv : l.env = env)
    (hlen : rest.length = below) (hm : l.Meets rest task) :
    l.Reaches h t fun l' => l'.SoundInline first base ∧ l'.Done task.primordial rest r := by
  -- In each case the loop takes the turn of the rule and meets the tasks of its premises.
  induction hN generalizing l rest with
  | cut => exact .refl ⟨hl, trivial⟩
  | none => exact .refl ⟨hl, henv, hm.1⟩
  | @first below c s ss env t₁ c' env' t₂ r _ _ ih₁ ih₂ =>
      obtain ⟨harr, hss⟩ := hm
      have hp : s.primordial = false := hss s (by simp)
      have hmeets : l.Meets (ss ++ rest) (.enter c s) := harr
      have hfirst := ih₁ hl henv (by simp [hlen, Nat.add_comm]) hmeets
      refine hfirst.trans ?_
      rintro l' ⟨hl', henv', hdone⟩
      simp only [Task.primordial, hp, Bool.false_eq_true, if_false] at hdone
      exact ih₂ hl' henv' hlen ⟨hdone, fun s' hs' => hss s' (List.mem_cons_of_mem s hs')⟩
  | @firstCut below c s ss env t _ ih =>
      have hmeets : l.Meets (ss ++ rest) (.enter c s) := hm.1
      have hfirst := ih hl henv (by simp [hlen, Nat.add_comm]) hmeets
      simpa [Done] using hfirst
  | goesOn hi _ ih =>
      have hstate := state_of_onward hm.2.1
      subst henv
      refine reaches_of_begins hc hl hm (by simp [hstate]) hi ?_
      rintro l' hl' rfl
      exact ih hl' rfl hlen ⟨by simp [hstate, State.respond], hm.2.2⟩
  | recovers hi _ ih =>
      have hstate := state_of_failed hm.2.1
      subst henv
      refine reaches_of_begins hc hl hm (by simp [hstate]) hi ?_
      rintro l' hl' rfl
      exact ih hl' rfl hlen ⟨by simp [hstate, State.respond], hm.2.2⟩
  | failsToo hi _ ih =>
      have hstate := state_of_failed hm.2.1
      subst henv
      refine reaches_of_begins hc hl hm (by simp [hstate]) hi ?_
      rintro l' hl' rfl
      refine ih hl' rfl hlen ⟨by simp [hstate, State.respond], ?_, hm.2.2⟩
      simp [course, hstate, State.respond]
  | @closes below fatal s env t r _ ih =>
      obtain ⟨hn | ⟨_, hn⟩, hcourse, hs⟩ := hm
      · exact absurd (state_of_closing hcourse) (hl.begins hn)
      · exact ih hl henv hlen ⟨hn, hcourse, hs⟩
  | @reads below s env text t r hr _ ih =>
      obtain ⟨hn, hs⟩ := hm
      subst henv
      refine reaches_of_reads hc hl hn hs hr fun l' hl' henv' hm' => ?_
      have hdone := ih hl' henv' hlen hm'
      rwa [Task.primordial, primordial_countLine, primordial_readBy hc] at hdone
  | @ends below s env t r hr _ ih =>
      obtain ⟨hn, hs⟩ := hm
      subst henv
      refine reaches_of_noLine hc hl hn hs (.ends hn hs hr) (by simp [Event.isAct]) ?_
      intro l' hl' henv' hm'
      have hdone := ih hl' henv' hlen hm'
      rwa [Task.primordial, primordial_readBy hc] at hdone
  | @fails below s env reason t r hr _ ih =>
      obtain ⟨hn, hs⟩ := hm
      subst henv
      refine reaches_of_noLine hc hl hn hs (.fails hn hs hr) (by simp [Event.isAct]) ?_
      intro l' hl' henv' hm'
      have hdone := ih hl' henv' hlen hm'
      rwa [Task.primordial, primordial_readBy hc] at hdone
  | @carries below s text env reaction v t₁ c env' t₂ r hreaction hr _ _ ih₁ ih₂ =>
      obtain ⟨hn, rfl, hs⟩ := hm
      subst henv hlen
      have hdepth : l.stack.depth = rest.length + 1 := by
        rw [l.stack.depth_eq, hs, List.length_cons]
      obtain rfl : l.reaction h = reaction := by rw [Loop.reaction, hdepth, hreaction]
      refine reaches_of_dispatches hc hl hn hs hr fun l' hl' henv' hm' => ?_
      -- Below the sources that were pushed wait the source of the line and all below it.
      refine (ih₁ hl' henv' rfl hm').trans ?_
      rintro l'' ⟨hl'', henv'', harr⟩
      exact ih₂ hl'' henv'' rfl harr
  | @carriesCut below s text env reaction v t hreaction hr _ ih =>
      obtain ⟨hn, rfl, hs⟩ := hm
      subst henv hlen
      have hdepth : l.stack.depth = rest.length + 1 := by
        rw [l.stack.depth_eq, hs, List.length_cons]
      obtain rfl : l.reaction h = reaction := by rw [Loop.reaction, hdepth, hreaction]
      refine reaches_of_dispatches hc hl hn hs hr fun l' hl' henv' hm' => ?_
      exact ih hl' henv' rfl hm'
  | leaves =>
      subst henv hlen
      exact reaches_of_leaves hc hl hm

/-! ## The end of a run -/

theorem course_state (l : Loop ε) : l.course.state = l.state := by
  cases hs : l.state <;> simp [course, hs, Course.state]

/-- The outcome of a steady loop is that of its course. -/
theorem course_outcome (hl : l.Steady) : l.course.outcome = l.outcome := by
  have hopen : l.state ≠ .closing → l.fatal = false := fun hs => by
    simpa using fun hf => hs (hl.closed hf)
  cases hs : l.state <;> simp [course, hs, Course.outcome, outcome, hopen]

/-- A run without cancellation that ends with an outcome ends with that of its course. -/
theorem outcome_of_follow {n : Nat} {o : Outcome} (hl : l.Inline)
    (he : (follow h n l).exit = some (.outcome o)) :
    o = (follow h n l).loop.course.outcome := by
  obtain ⟨m, hnone, hlast, heq⟩ := follow_last he
  have hlm := hl.follow hnone
  rcases hlm.ends hlast with ⟨-, hc⟩ | ⟨-, hfinish, ho⟩
  · rw [hlm.uncancelled] at hc
    cases hc
  · rw [ho, ← course_outcome hlm.toSteady, heq, hfinish]
    simp [finish, course]

/-- A run that may stop is over one turn later. -/
theorem follow_of_stop {n : Nat} (he : (follow h n l).exit = none)
    (hn : (follow h n l).loop.next = .stop) :
    follow h (n + 1) l = { (follow h n l).loop.finish with
      events := (follow h n l).events ++ (follow h n l).loop.finish.events } := by
  have w : Way h (follow h n l).loop _ := .stops hn
  have hexit : ((follow h n l).loop.step h).exit = some (.outcome (follow h n l).loop.outcome) := by
    rw [w.step_eq]
    rfl
  rw [follow_add 1 he, follow_of_leaves 0 hexit, w.step_eq]
  rfl

end Loop

namespace Session

open Loop

variable {h : Host ε} {s : Session ε} {n : Nat} {t : List Event} {r : Fate ε}

/-- Any number of turns of a new run gives a telling of its first source. -/
theorem nested_of_run (hc : h.Consumes) (n : Nat) (hs : s.state ≠ .closing) :
    ∃ r', Nested h s.stack.depth (.enter .onward (s.root h)) s.env
        (acts (follow h n (s.enter h false).1).events) r' ∧
      (fate (follow h n (s.enter h false).1) = .cut ∨
        fate (follow h n (s.enter h false).1) = r') := by
  have hstands : (s.enter h false).1.Stands s.stack.sources [s.root h] := by
    simp [Stands, enter, root]
  have hgoes := goes_follow hc (enter_soundInline h hs) hstands n
  have hcourse : (s.enter h false).1.course = .onward := course_of_ready (recover_of_open hs)
  have htask : (s.enter h false).1.task (s.root h) = .enter .onward (s.root h) := by
    rw [← hcourse]
    rfl
  rw [Goes, htask, ← Stack.depth_eq] at hgoes
  exact hgoes.alone

/-- Every telling of the first source is reached by a new run. -/
theorem reaches_of_root (hc : h.Consumes) (hs : s.state ≠ .closing)
    (hN : Nested h s.stack.depth (.enter .onward (s.root h)) s.env t r) :
    (s.enter h false).1.Reaches h t fun l =>
      l.SoundInline (s.root h) s.stack.sources ∧ l.Done true s.stack.sources r := by
  refine reaches_of_nested hc hN (enter_soundInline h hs) rfl s.stack.depth_eq.symm ?_
  exact ⟨.inl rfl, course_of_ready (recover_of_open hs), rfl⟩

/-- **The loop runs nested scripts.** The acts of a run are those that are told of its first source,
for any number of turns; and a run ends with an outcome exactly where the telling is done. The
reader is to leave the sources in their places: one that it puts there could be marked as the first.
-/
theorem run_acts_iff_nested (h : Host ε) (hc : h.Consumes) (s : Session ε)
    (hs : s.state ≠ .closing) :
    (∀ t, (∃ n, acts (s.run h n false).events = t) ↔
      ∃ r, Nested h s.stack.depth (.enter .onward (s.root h)) s.env t r) ∧
    ∀ t o st env,
      (∃ n, acts (s.run h n false).events = t ∧
        (s.run h n false).exit = some (.outcome o) ∧
        (s.run h n false).session.state = st ∧ (s.run h n false).session.env = env) ↔
      ∃ c, Nested h s.stack.depth (.enter .onward (s.root h)) s.env t (.done c env) ∧
        o = c.outcome ∧ st = c.state := by
  have hacts : ∀ n, acts (s.run h n false).events =
      acts (follow h n (s.enter h false).1).events := fun n => by
    rw [run_of_open h n false hs, acts_append, acts_enter, List.nil_append]
  refine ⟨fun t => ⟨?_, ?_⟩, fun t o st env => ⟨?_, ?_⟩⟩
  · rintro ⟨n, rfl⟩
    obtain ⟨r, hN, _⟩ := nested_of_run hc n hs
    exact ⟨r, hacts n ▸ hN⟩
  · rintro ⟨r, hN⟩
    obtain ⟨n, _, rfl, _⟩ := reaches_of_root hc hs hN
    exact ⟨n, hacts n⟩
  · rintro ⟨n, rfl, hexit, rfl, rfl⟩
    obtain ⟨r, hN, hr⟩ := nested_of_run hc n hs
    rw [hacts n, run_of_open h n false hs]
    have hfollow : (follow h n (s.enter h false).1).exit = some (.outcome o) := by
      rw [run_of_open h n false hs] at hexit
      exact hexit
    have hfate : fate (follow h n (s.enter h false).1) =
        .done (follow h n (s.enter h false).1).loop.course
          (follow h n (s.enter h false).1).loop.env := by
      rw [fate, hfollow]
    rw [hfate] at hr
    rcases hr with hr | rfl
    · cases hr
    · exact ⟨_, hN, outcome_of_follow (enter_inline h hs) hfollow, (course_state _).symm⟩
  · rintro ⟨c, hN, rfl, rfl⟩
    obtain ⟨n, hnone, rfl, hl, rfl, rfl, hn⟩ := reaches_of_root hc hs hN
    have hstop := follow_of_stop hnone hn
    refine ⟨n + 1, ?_⟩
    rw [hacts, run_of_open h (n + 1) false hs, hstop]
    refine ⟨?_, ?_, ?_, ?_⟩
    · simp [finish, Event.isAct]
    · rw [course_outcome hl.toSteady]
      rfl
    · simp [finish, ofLoop, course_state]
    · simp [finish, ofLoop]

/-- A person types `a`, which reads the scripts `x` and `y`, and then `b`. The line of `y` fails. -/
def failingInclude : Session Console :=
  { number := 0, env := {}, primary := some (.ofText "tty" true "a\nb\n") }

/-- What the lines of `failingInclude` do. -/
def failingIncludeHost : Host Console :=
  Playbook.host [
    ("a", { deeds := [.push (.ofText "x" false "c\n"), .push (.ofText "y" false "d\n")] }),
    ("d", { verdict := .scriptError })]

theorem nested_of_failingInclude :
    failingIncludeHost.Consumes ∧ failingInclude.state ≠ .closing ∧
      ∃ c, Nested failingIncludeHost 0 (.enter .onward (failingInclude.root failingIncludeHost)) {}
        [.lineRead "tty" 0 (some "a"), .dispatched "a" .ok 3,
          .lineRead "y" 0 (some "d"), .dispatched "d" .scriptError 3,
          .logged (.sourcePopped "y" 1 2), .logged (.sourcePopped "x" 0 1),
          .lineRead "tty" 1 (some "b"), .dispatched "b" .ok 1,
          .lineRead "tty" 2 none, .logged (.sourcePopped "tty" 2 0)] (.done c {}) ∧
        .completed = c.outcome ∧ .ready = c.state :=
  ⟨Playbook.host_consumes _, by decide,
    ((run_acts_iff_nested failingIncludeHost (Playbook.host_consumes _) failingInclude
      (by decide)).2 _ _ _ _).mp ⟨30, by decide⟩⟩

end Session

end CommandShell
