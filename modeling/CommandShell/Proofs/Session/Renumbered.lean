import CommandShell.Proofs.Session.Calls

/-!
# The number of a session matters only to the log

Sessions have numbers, so that the log can tell them apart. No decision of the loop looks at the
number: a loop that has another one takes the same turns, and the records of these turns name the
other number (`step_renumbered`). The same holds for any number of turns, however often the worker
is asked to stop (`followAsked_renumbered`), and the collaborators get the same calls
(`calls_renumbered`).
-/

namespace CommandShell

open CommandShell.Log

/-! ## Records and events -/

/-- **ofSession** — the record with another session in place of the one that it names. -/
def Log.Record.ofSession (k : Nat) : Record → Record
  | .loopNotStarted _ => .loopNotStarted k
  | .cancellationHonoured _ => .cancellationHonoured k
  | .releasingRest _ depth => .releasingRest k depth
  | .fatalLine _ => .fatalLine k
  | .loopFinished _ outcome => .loopFinished k outcome
  | .workerStarted _ => .workerStarted k
  | r => r

/-- The event with another session in its record. -/
def Event.ofSession (k : Nat) : Event → Event
  | .logged r => .logged (r.ofSession k)
  | e => e

/-- **renumbered** — the loop of a session with another number. -/
def Loop.renumbered {ε : Type} (k : Nat) (l : Loop ε) : Loop ε := { l with session := k }

/-- The turn of a session with another number. -/
def Turn.renumbered {ε : Type} (k : Nat) (t : Turn ε) : Turn ε where
  events := t.events.map (Event.ofSession k)
  loop := t.loop.renumbered k
  exit := t.exit

namespace Loop

variable {ε : Type} {h : Host ε} {l : Loop ε} {t : Turn ε}

/-! ## Parts of a turn -/

/-- The record of a change of state names no session. -/
theorem map_transition (k : Nat) (a b : State) :
    (transition a b).map (Event.ofSession k) = transition a b := by
  unfold transition
  split <;> rfl

theorem map_releaseAll (k : Nat) (sources : List Source) :
    (Stack.releaseAll sources).map (Event.ofSession k) = Stack.releaseAll sources := by
  unfold Stack.releaseAll
  rw [List.map_flatMap]
  rfl

theorem map_askCancel (k : Nat) (l : Loop ε) (n : Nat) :
    (l.askCancel n).2.map (Event.ofSession k) = (l.askCancel n).2 := by
  unfold askCancel
  split
  · rw [List.map_replicate]
    rfl
  · rfl

theorem map_release (k : Nat) (l : Loop ε) :
    l.release.2.map (Event.ofSession k) = (l.renumbered k).release.2 := by
  rw [release_events, release_events]
  show _ = if l.stack.isEmpty then [] else _
  split
  · rfl
  · rw [List.map_cons, map_releaseAll]
    rfl

theorem goOn_renumbered (k : Nat) (l : Loop ε) (es : List Event) (e : Signal) :
    (l.goOn es e).renumbered k = (l.renumbered k).goOn (es.map (Event.ofSession k)) e := by
  unfold Turn.renumbered
  rw [goOn_events, List.map_append, map_transition]
  rfl

theorem leave_renumbered (k : Nat) (l : Loop ε) (es : List Event) (e : Exit) :
    (l.leave es e).renumbered k = (l.renumbered k).leave (es.map (Event.ofSession k)) e := by
  have hevents : (l.leave es e).events.map (Event.ofSession k)
      = ((l.renumbered k).leave (es.map (Event.ofSession k)) e).events := by
    rw [leave_events, leave_events, List.map_append, map_release]
  have hloop : (l.leave es e).loop.renumbered k
      = ((l.renumbered k).leave (es.map (Event.ofSession k)) e).loop := by
    rw [leave_loop, leave_loop]
    rfl
  unfold Turn.renumbered
  rw [hevents, hloop]
  rfl

theorem finish_renumbered (k : Nat) (l : Loop ε) :
    l.finish.renumbered k = (l.renumbered k).finish := leave_renumbered k l _ _

theorem askCancel_renumbered (k : Nat) (l : Loop ε) (n : Nat) :
    (l.renumbered k).askCancel n = ((l.askCancel n).1.renumbered k, (l.askCancel n).2) := by
  unfold askCancel
  show (if l.cancellable then _ else _) = _
  split <;> rfl

theorem received_renumbered (k : Nat) (h : Host ε) (l : Loop ε) (s : Source) :
    (l.renumbered k).received h s
      = ((l.received h s).1.renumbered k, (l.received h s).2.map (Event.ofSession k)) := by
  have hnotes : ∀ notes : List Note,
      (notes.map Event.noted).map (Event.ofSession k) = notes.map Event.noted := by
    intro notes
    rw [List.map_map]
    rfl
  unfold received
  dsimp only
  rw [List.map_append, hnotes, map_askCancel]
  have hasked := askCancel_renumbered k { l with
    stack := l.stack.mapCurrent fun _ => (h.read l.env s).source
    env := (h.read l.env s).env } (h.read l.env s).cancels
  exact congrArg (fun asked : Loop ε × List Event =>
    (asked.1, (h.read l.env s).notes.map Event.noted ++ asked.2)) hasked

theorem carryOut_renumbered (k : Nat) (l : Loop ε) (r : Request) :
    (l.renumbered k).carryOut r
      = ((l.carryOut r).1.renumbered k, (l.carryOut r).2.map (Event.ofSession k)) := by
  cases r with
  | push source => rfl
  | close =>
      show (_, _) = (_, (transition l.state l.state.close).map (Event.ofSession k))
      rw [map_transition]
      rfl
  | cancel =>
      show _ = (_, (l.askCancel 1).2.map (Event.ofSession k))
      rw [map_askCancel]
      exact askCancel_renumbered k l 1
  | note n => rfl

theorem carryOutAll_renumbered (k : Nat) (l : Loop ε) (rs : List Request) :
    (l.renumbered k).carryOutAll rs
      = ((l.carryOutAll rs).1.renumbered k, (l.carryOutAll rs).2.map (Event.ofSession k)) := by
  induction rs generalizing l with
  | nil => rfl
  | cons r rs ih =>
      unfold carryOutAll
      dsimp only
      rw [carryOut_renumbered, ih, List.map_append]

theorem carried_renumbered (k : Nat) (h : Host ε) (l : Loop ε) :
    (l.renumbered k).carried h
      = ((l.carried h).1.renumbered k, (l.carried h).2.map (Event.ofSession k)) :=
  carryOutAll_renumbered k { l with env := (l.reaction h).env } (l.reaction h).requests

theorem map_pop (k : Nat) (s : Stack) : s.pop.2.2.map (Event.ofSession k) = s.pop.2.2 := by
  unfold Stack.pop
  split
  · rfl
  · split
    · rw [List.map_append, map_releaseAll]
      rfl
    · rfl

theorem unwind_renumbered (k : Nat) (l : Loop ε) :
    l.unwind.renumbered k = (l.renumbered k).unwind := by
  have hgoOn := goOn_renumbered k { l with stack := l.stack.pop.1 } l.stack.pop.2.2
    (.sourceLeft l.stack.pop.2.1)
  rw [map_pop] at hgoOn
  exact hgoOn

theorem map_records (k : Nat) (l : Loop ε) (v : Verdict) :
    (v.records l).map (Event.ofSession k) = v.records (l.renumbered k) := by
  cases v with
  | ok => rfl
  | scriptError =>
      show (scriptErrorRecord l.stack).map (Event.ofSession k) = scriptErrorRecord l.stack
      unfold scriptErrorRecord
      split <;> rfl
  | fatal => rfl

/-! ## Turns -/

/-- A way of a turn is one for the session with another number as well. -/
theorem Way.renumbered (k : Nat) (w : Way h l t) : Way h (l.renumbered k) (t.renumbered k) := by
  cases w with
  | honours hn hc =>
      rw [leave_renumbered]
      exact .honours hn hc
  | lacksSource hn hc hs =>
      rw [finish_renumbered]
      exact .lacksSource hn hc hs
  | askPanics hn hc hs hi =>
      rw [leave_renumbered]
      exact .askPanics hn hc hs hi
  | begins hn hc hs hi =>
      rw [goOn_renumbered]
      exact .begins hn hc hs hi
  | lacksInput hn hs =>
      rw [finish_renumbered]
      exact .lacksInput hn hs
  | @readPanics s rest p hn hs hr =>
      have w : Way h (l.renumbered k) _ := .readPanics hn hs hr
      rw [received_renumbered] at w
      rw [leave_renumbered]
      exact w
  | @reads s rest text hn hs hr =>
      have w : Way h (l.renumbered k) _ := .reads hn hs hr
      rw [received_renumbered] at w
      rw [goOn_renumbered, List.map_append]
      exact w
  | @ends s rest hn hs hr =>
      have w : Way h (l.renumbered k) _ := .ends hn hs hr
      rw [received_renumbered] at w
      rw [goOn_renumbered, List.map_append]
      exact w
  | @fails s rest reason hn hs hr =>
      have w : Way h (l.renumbered k) _ := .fails hn hs hr
      rw [received_renumbered] at w
      rw [goOn_renumbered, List.map_append]
      exact w
  | @dispatchPanics p hn hr =>
      have w : Way h (l.renumbered k) _ := .dispatchPanics hn hr
      rw [carried_renumbered] at w
      rw [leave_renumbered]
      exact w
  | @dispatches v hn hr =>
      have w : Way h (l.renumbered k) _ := .dispatches hn hr
      rw [carried_renumbered] at w
      have hjudged : ((l.carried h).1.renumbered k).judged v
          = ((l.carried h).1.judged v).renumbered k := by
        cases v <;> rfl
      rw [goOn_renumbered, List.map_append, List.map_cons, map_records, ← hjudged]
      exact w
  | leaves hn =>
      rw [unwind_renumbered]
      exact .leaves hn
  | stops hn =>
      rw [finish_renumbered]
      exact .stops hn

/-- **step_renumbered** — a loop with another number takes the same turn. -/
theorem step_renumbered (k : Nat) (h : Host ε) (l : Loop ε) :
    (l.renumbered k).step h = (l.step h).renumbered k :=
  ((way_step h l).renumbered k).step_eq

/-- **calls_renumbered** — a loop with another number makes the same calls. -/
theorem calls_renumbered (k : Nat) (h : Host ε) (l : Loop ε) :
    (l.renumbered k).calls h = l.calls h := by
  show ((l.unrecorded.renumbered k).step h.recording).loop.env.2 = _
  rw [step_renumbered]
  rfl

/-! ## Runs -/

/-- **followAsked_renumbered** — a loop with another number takes the same turns. -/
theorem followAsked_renumbered (k : Nat) (h : Host ε) (asks : Nat → Nat) (n : Nat) (l : Loop ε) :
    followAsked h asks n (l.renumbered k) = (followAsked h asks n l).renumbered k := by
  induction n generalizing asks l with
  | zero => rfl
  | succ n ih =>
      unfold followAsked
      rw [askCancel_renumbered]
      dsimp only
      rw [step_renumbered]
      cases hexit : ((l.askCancel (asks 0)).1.step h).exit with
      | some e =>
          simp only [Turn.renumbered, hexit, List.map_append, map_askCancel]
      | none =>
          have hlater := ih (fun i => asks (i + 1)) ((l.askCancel (asks 0)).1.step h).loop
          simp only [Turn.renumbered] at hlater ⊢
          simp only [hexit, hlater, List.map_append, map_askCancel]

/-- The loops visited are the same but for the number. -/
theorem visits_renumbered (k : Nat) (h : Host ε) (asks : Nat → Nat) (n : Nat) (l : Loop ε) :
    visits h asks n (l.renumbered k) = (visits h asks n l).map (renumbered k) := by
  induction n generalizing asks l with
  | zero => rfl
  | succ n ih =>
      unfold visits
      rw [askCancel_renumbered]
      dsimp only
      rw [step_renumbered]
      cases hexit : ((l.askCancel (asks 0)).1.step h).exit with
      | some e => simp only [Turn.renumbered, hexit, List.map_cons, List.map_nil]
      | none =>
          have hlater := ih (fun i => asks (i + 1)) ((l.askCancel (asks 0)).1.step h).loop
          simp only [Turn.renumbered, hexit, hlater, List.map_cons]

end Loop

/-- **runAsked_renumbered** — runs that enter the loop alike, but for the number, do the same: they
end in the same way and make the same calls, and their events in the loop are the same but for the
number. -/
theorem Session.runAsked_renumbered {ε : Type} {k : Nat} {h : Host ε} {c : Bool} {s s' : Session ε}
    (hopen : s.state ≠ .closing) (hopen' : s'.state ≠ .closing)
    (hloop : (s.enter h c).1 = (s'.enter h c).1.renumbered k) (asks : Nat → Nat) (n : Nat) :
    (s.runAsked h asks n c).exit = (s'.runAsked h asks n c).exit ∧
      (s.runAsked h asks n c).session = { (s'.runAsked h asks n c).session with number := k } ∧
      s.calls h asks n c = s'.calls h asks n c ∧
      ∃ es, (s'.runAsked h asks n c).events = (s'.enter h c).2 ++ es ∧
        (s.runAsked h asks n c).events = (s.enter h c).2 ++ es.map (Event.ofSession k) := by
  have hturns := Loop.followAsked_renumbered k h asks n (s'.enter h c).1
  rw [← hloop] at hturns
  rw [runAsked_of_open h asks n c hopen, runAsked_of_open h asks n c hopen']
  dsimp only
  rw [hturns]
  refine ⟨rfl, ?_, ?_, _, rfl, rfl⟩
  · rfl
  · unfold calls moments
    rw [if_neg hopen, if_neg hopen', hloop, Loop.visits_renumbered, List.flatMap_map]
    exact congrArg (List.flatMap · _) (funext (Loop.calls_renumbered k h))

end CommandShell
