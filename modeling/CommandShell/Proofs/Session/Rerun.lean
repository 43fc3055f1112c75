import CommandShell.Proofs.Session.Closing
import CommandShell.Proofs.Session.Release
import CommandShell.Proofs.Session.Renumbered

/-!
# A run after other runs is the first run of a new session

A run leaves nothing behind in its session but the state of the host, and the closing state if it
comes to that. Whatever has been done with a session, its stack is empty between two runs
(`stack_of_life`); and after a run it has no primary input, for the run has taken it
(`primary_of_life`). What is left of a script error is forgotten where the next run begins.

So the next run enters the loop as a new session does (`enter_offered`). Only the number of the
session differs, and no turn depends on it: `rerun_as_new` compares the two runs event by event.
-/

namespace CommandShell

open CommandShell.Log

variable {ε : Type}

/-! ## What a run leaves in its session -/

namespace Operation

/-- **IsRun** — the operation is a run. -/
def IsRun : Operation ε → Prop
  | run .. | spawn .. | runFile .. => True
  | close | setPrimary _ | releasePrimary => False

/-- A place gives the session back only from a run that is over. -/
theorem exit_of_dismiss {place : Place} {t : Transcript} {r : Run ε} {s' : Session ε}
    (hs : (Reply.ofReport (place.dismiss t r)).session? = some s') : ∃ e, r.exit = some e := by
  obtain ⟨es, session, exit⟩ := r
  cases exit with
  | none => cases hs
  | some e => exact ⟨e, rfl⟩

/-- **launch_of_perform** — the session that a run gives back was left by the loop, or had its
primary input taken away after that. The loop began in the state and on the stack of the session. -/
theorem launch_of_perform {op : Operation ε} {s s' : Session ε} (hrun : op.IsRun)
    (hs : (op.perform s).session? = some s') :
    ∃ r : Launch ε, r.session.state = s.state ∧ r.session.stack = s.stack ∧
      (∃ e, r.run.exit = some e) ∧
      (s' = r.run.session ∨ s' = r.run.session.releasePrimary.1) := by
  cases op with
  | close => cases hrun
  | setPrimary source => cases hrun
  | releasePrimary => cases hrun
  | run h turns =>
      refine ⟨{ host := h, turns, session := s }, rfl, rfl, ?_⟩
      obtain ⟨e, hexit, rfl⟩ := Option.map_eq_some_iff.mp hs
      unfold Launch.run
      rw [Session.runAsked_none]
      exact ⟨⟨e, hexit⟩, .inl rfl⟩
  | spawn h threads config route asks turns =>
      refine ⟨{ host := h, asks, turns, cancellable := route.isSome, session := s }, rfl, rfl, ?_⟩
      rw [perform, Session.spawnAsked] at hs
      cases hp : s.placeFor threads (.threaded config) with
      | error refusal =>
          rw [hp] at hs
          cases (Session.turnAway_lost s refusal).session.symm.trans hs
      | ok place =>
          rw [hp] at hs
          exact ⟨exit_of_dismiss hs, .inl (session_of_dismiss hs)⟩
  | runFile h threads files path mode turns =>
      rw [perform, Session.runFile] at hs
      cases ho : Source.openFile files path with
      | error e =>
          rw [Session.takeScript_of_refused s ho] at hs
          cases hs
      | ok source =>
          rw [Session.takeScript_of_opened s ho] at hs
          refine ⟨{ host := h, turns, session := (s.setPrimary source).1 }, rfl, rfl, ?_⟩
          obtain ⟨s₀, hs₀, rfl⟩ := session_of_settle hs
          unfold Session.runIn at hs₀
          cases hp : (s.setPrimary source).1.placeFor threads mode with
          | error refusal =>
              simp only [hp] at hs₀
              cases (Session.turnAway_lost _ refusal).session.symm.trans hs₀
          | ok place =>
              simp only [hp] at hs₀
              unfold Launch.run
              rw [Session.runAsked_none]
              refine ⟨exit_of_dismiss hs₀, .inr ?_⟩
              rw [session_of_dismiss hs₀]
              rfl

/-- An operation on a session with an empty stack leaves the stack empty. -/
theorem stack_of_perform {op : Operation ε} {s s' : Session ε} (hstack : s.stack = .empty)
    (hs : (op.perform s).session? = some s') : s'.stack = .empty := by
  have hlaunch : op.IsRun → s'.stack = .empty := by
    intro hrun
    obtain ⟨r, -, hr, ⟨e, hexit⟩, rfl | rfl⟩ := launch_of_perform hrun hs
    · exact Session.stack_of_runAsked r.host r.asks r.turns r.cancellable (hr.trans hstack) hexit
    · exact Session.stack_of_runAsked r.host r.asks r.turns r.cancellable (hr.trans hstack) hexit
  cases op with
  | close =>
      obtain rfl := Option.some.inj hs
      exact hstack
  | setPrimary source =>
      obtain rfl := Option.some.inj hs
      exact hstack
  | releasePrimary =>
      obtain rfl := Option.some.inj hs
      exact hstack
  | run h turns => exact hlaunch trivial
  | spawn h threads config route asks turns => exact hlaunch trivial
  | runFile h threads files path mode turns => exact hlaunch trivial

/-- A run that does not leave its session closing has taken the primary input. -/
theorem primary_of_perform {op : Operation ε} {s s' : Session ε} (hrun : op.IsRun)
    (hs : (op.perform s).session? = some s') (hopen : s'.state ≠ .closing) : s'.primary = none := by
  have hbefore : s.state ≠ .closing := fun hclosing =>
    hopen ((op.perform_of_closing hclosing).2 s' hs)
  obtain ⟨r, hstate, -, -, rfl | rfl⟩ := launch_of_perform hrun hs
  · unfold Launch.run
    rw [Session.runAsked_of_open _ _ _ _ (hstate ▸ hbefore)]
    rfl
  · rfl

end Operation

/-! ## Between two runs -/

namespace Session

variable {s s' : Session ε} {ops : List (Operation ε)}

/-- **stack_of_life** — the stack is empty for all the life of a session that began with an empty
one. -/
theorem stack_of_life (hlife : Life s ops s') (hstack : s.stack = .empty) : s'.stack = .empty := by
  induction hlife with
  | nil => exact hstack
  | cons hop _ ih => exact ih (Operation.stack_of_perform hstack hop)

/-- **primary_of_life** — a session that is not closing has no primary input after a run. -/
theorem primary_of_life (hlife : Life s ops s') (hstart : ops = [] → s.primary = none)
    (hlast : ∀ op, ops.getLast? = some op → op.IsRun) (hopen : s'.state ≠ .closing) :
    s'.primary = none := by
  induction hlife with
  | nil => exact hstart rfl
  | @cons s s₁ s' op ops hop hrest ih =>
      cases ops with
      | nil =>
          cases hrest
          exact Operation.primary_of_perform (hlast op rfl) hop hopen
      | cons op' ops =>
          refine ih (fun hnil => absurd hnil (List.cons_ne_nil _ _)) ?_ hopen
          intro last hmem
          exact hlast last ((List.getLast?_cons_cons ..).trans hmem)

/-! ## The next run -/

/-- **offered** — the session with the source that the next run is to start with, if there is one.
-/
def offered (next : Option Source) (s : Session ε) : Session ε :=
  next.elim s fun source => (s.setPrimary source).1

@[simp] theorem offered_state (next : Option Source) (s : Session ε) :
    (s.offered next).state = s.state := by
  cases next <;> rfl

/-- **enter_offered** — the next run enters the loop as that of a new session does, but for the
number and the record that a script error is forgotten. -/
theorem enter_offered (h : Host ε) (c : Bool) (next : Option Source) (k : Nat)
    (hopen : s.state ≠ .closing) (hstack : s.stack = .empty) (hprimary : s.primary = none) :
    ((s.offered next).enter h c).1
        = (((create k s.env).offered next).enter h c).1.renumbered s.number ∧
      ((s.offered next).enter h c).2
        = Loop.transition s.state .ready ++ (((create k s.env).offered next).enter h c).2 := by
  obtain ⟨number, state, stack, primary, env⟩ := s
  obtain rfl : stack = .empty := hstack
  obtain rfl : primary = none := hprimary
  have hready : state.recover = .ready := recover_of_open hopen
  cases next with
  | none =>
      unfold enter offered
      dsimp only [Option.elim]
      rw [hready]
      exact ⟨rfl, rfl⟩
  | some source =>
      unfold enter offered
      dsimp only [Option.elim, setPrimary]
      rw [hready]
      exact ⟨rfl, rfl⟩

/-- The events of a new run name no session. -/
theorem map_enter (k : Nat) (h : Host ε) (c : Bool) (s : Session ε) :
    (s.enter h c).2.map (Event.ofSession k) = (s.enter h c).2 := by
  show (Loop.transition _ _ ++ _).map _ = Loop.transition _ _ ++ _
  rw [List.map_append, Loop.map_transition]
  rfl

/-- What a session reads, dispatches, pushes and puts out names no session. -/
theorem doings_ofSession (k : Nat) (es : List Event) :
    doings (es.map (Event.ofSession k)) = doings es := by
  have hdoing : ∀ e : Event, (e.ofSession k).isDoing = e.isDoing ∧
      (e.isDoing = true → e.ofSession k = e) := by
    intro e
    cases e with
    | logged r => cases r <;> simp [Event.ofSession, Record.ofSession, Event.isDoing]
    | _ => exact ⟨rfl, fun _ => rfl⟩
  induction es with
  | nil => rfl
  | cons e es ih =>
      unfold doings at ih ⊢
      rw [List.map_cons, List.filter_cons, List.filter_cons, (hdoing e).1, ih]
      split
      next he => rw [(hdoing e).2 he]
      · rfl

theorem releases_ofSession (k : Nat) (es : List Event) :
    releases (es.map (Event.ofSession k)) = releases es := by
  unfold releases
  rw [List.filterMap_map]
  refine congrArg (es.filterMap ·) (funext fun e => ?_)
  cases e <;> rfl

/-- **A run after other runs is the first run of a new session.** Let a session have any life that
ends with a run and has not closed it. Its next run, with or without a primary input and whenever it
is asked to stop, does the same as the first run of a new session whose collaborators are in the
same state: the same calls, reads, dispatches, pushes, outputs and releases, with the same exit and
the same session in the end. Its events are those of the new session under its own number, after the
record that a script error is forgotten. -/
theorem rerun_as_new {number : Nat} {env : ε} (hlife : Life (create number env) ops s)
    (hopen : s.state ≠ .closing) (hlast : ∀ op, ops.getLast? = some op → op.IsRun)
    (next : Option Source) (h : Host ε) (asks : Nat → Nat) (n : Nat) (c : Bool) (k : Nat) :
    let again := (s.offered next).runAsked h asks n c
    let first := ((create k s.env).offered next).runAsked h asks n c
    s.stack = .empty ∧ s.primary = none ∧
      again.exit = first.exit ∧ again.session = { first.session with number := s.number } ∧
      (s.offered next).calls h asks n c = ((create k s.env).offered next).calls h asks n c ∧
      doings again.events = doings first.events ∧ releases again.events = releases first.events ∧
      again.events =
        Loop.transition s.state .ready ++ first.events.map (Event.ofSession s.number) := by
  intro again first
  have hstack : s.stack = .empty := stack_of_life hlife rfl
  have hprimary : s.primary = none := primary_of_life hlife (fun _ => rfl) hlast hopen
  obtain ⟨hloop, henter⟩ := enter_offered h c next k hopen hstack hprimary
  have hagain : (s.offered next).state ≠ .closing := by
    rw [offered_state]
    exact hopen
  have hfirst : ((create k s.env).offered next).state ≠ .closing := by
    rw [offered_state]
    exact State.noConfusion
  have hquiet : doings (Loop.transition s.state .ready) = [] := by
    cases s.state <;> rfl
  -- Both runs take the same turns, but for the number.
  obtain ⟨hexit, hsession, hcalls, es, hes, hes'⟩ :=
    runAsked_renumbered hagain hfirst hloop asks n
  have hevents : again.events =
      Loop.transition s.state .ready ++ first.events.map (Event.ofSession s.number) := by
    rw [hes, hes', henter, List.map_append, map_enter, List.append_assoc]
  refine ⟨hstack, hprimary, hexit, hsession, hcalls, ?_, ?_, hevents⟩
  · rw [hevents, doings_append, doings_ofSession, hquiet, List.nil_append]
  · rw [hevents, releases_append, releases_ofSession, releases_transition, List.nil_append]

/-- A script that reads another one, whose line fails. -/
def brokenInclude : List (Operation Console) :=
  [.setPrimary (.ofText "main" false "a\nb\n"), .run brokenIncludeHost 20]
where
  /-- What the lines of the scripts do. -/
  brokenIncludeHost : Host Console :=
    Playbook.host [
      ("a", { deeds := [.push (.ofText "x" false "c\n")] }), ("c", { verdict := .scriptError })]

/-- The session after the script has failed. -/
def afterBrokenInclude : Session Console :=
  (((create 7 {}).setPrimary (.ofText "main" false "a\nb\n")).1.run
    brokenInclude.brokenIncludeHost 20 false).session

theorem afterBrokenInclude_rerun :
    Life (create 7 {}) brokenInclude afterBrokenInclude ∧
      afterBrokenInclude.state = .scriptError ∧
      ((afterBrokenInclude.offered (some (.ofText "next" false "x\ny\n"))).runAsked
        brokenInclude.brokenIncludeHost (fun _ => 0) 20 false).exit = some (.outcome .completed) ∧
      afterBrokenInclude.stack = .empty ∧ afterBrokenInclude.primary = none := by
  have hlife : Life (create 7 {}) brokenInclude afterBrokenInclude :=
    .cons rfl (.cons rfl .nil)
  have hlast : ∀ op, brokenInclude.getLast? = some op → op.IsRun := by
    intro op hop
    obtain rfl : Operation.run brokenInclude.brokenIncludeHost 20 = op := Option.some.inj hop
    trivial
  have hrerun := rerun_as_new hlife (by decide) hlast (some (.ofText "next" false "x\ny\n"))
    brokenInclude.brokenIncludeHost (fun _ => 0) 20 false 0
  refine ⟨hlife, by decide, ?_, hrerun.1, hrerun.2.1⟩
  rw [hrerun.2.2.1]
  decide

end Session

end CommandShell
