import CommandShell.Command.Playbook
import CommandShell.Proofs.Session.Turn

/-!
# Taking turns

A run takes turns until one of them leaves the loop. `follow_add` splits a run in two. A worker may
be asked to stop at any moment, from outside as well as by its own collaborators: `followAsked`
takes turns and is told how often it was asked before each of them, and a run that nobody asks from
outside is the case where this is never (`followAsked_none`).

What every turn keeps is kept by every number of turns (`followAsked_induction`); this is the only
induction on turns that an invariant needs.
-/

namespace CommandShell

open CommandShell.Text
open CommandShell.Log

namespace Loop

variable {ε : Type} {h : Host ε} {l : Loop ε}

/-! ## Runs in two parts -/

theorem follow_of_goesOn (n : Nat) (he : (l.step h).exit = none) :
    follow h (n + 1) l = { follow h n (l.step h).loop with
      events := (l.step h).events ++ (follow h n (l.step h).loop).events } := by
  rw [follow_succ, he]

theorem follow_of_leaves {e : Exit} (n : Nat) (he : (l.step h).exit = some e) :
    follow h (n + 1) l = { l.step h with exit := some e } := by
  rw [follow_succ, he]

/-- A run that is not over by then goes on from where it is. -/
theorem follow_add {m : Nat} (n : Nat) (he : (follow h m l).exit = none) :
    follow h (m + n) l = { follow h n (follow h m l).loop with
      events := (follow h m l).events ++ (follow h n (follow h m l).loop).events } := by
  induction m generalizing l with
  | zero => simp [follow_zero]
  | succ m ih =>
      cases hs : (l.step h).exit with
      | some e =>
          rw [follow_of_leaves m hs] at he
          cases he
      | none =>
          rw [follow_of_goesOn m hs] at he ⊢
          rw [Nat.add_right_comm, follow_of_goesOn (m + n) hs, ih he]
          simp

/-- A run that is over was left by its last turn. -/
theorem follow_last {n : Nat} {e : Exit} (he : (follow h n l).exit = some e) :
    ∃ m, (follow h m l).exit = none ∧ ((follow h m l).loop.step h).exit = some e ∧
      follow h n l = { (follow h m l).loop.step h with
        events := (follow h m l).events ++ ((follow h m l).loop.step h).events } := by
  induction n generalizing l with
  | zero => cases he
  | succ n ih =>
      cases hs : (l.step h).exit with
      | some e' =>
          rw [follow_of_leaves n hs] at he ⊢
          exact ⟨0, rfl, hs.trans he, by simp [follow_zero, hs]⟩
      | none =>
          rw [follow_of_goesOn n hs] at he ⊢
          -- The last of the turns that follow the first one is the last of all.
          obtain ⟨m, hnone, hlast, heq⟩ := ih he
          refine ⟨m + 1, ?_⟩
          rw [follow_of_goesOn m hs]
          refine ⟨hnone, hlast, ?_⟩
          rw [heq, List.append_assoc]

/-! ## Requests to cancel from outside -/

/-- **followAsked** — takes up to `n` turns, where the worker is asked to stop `asks i` times from
outside before turn `i`. -/
def followAsked (h : Host ε) : (Nat → Nat) → Nat → Loop ε → Turn ε
  | _, 0, l => { events := [], loop := l }
  | asks, n + 1, l =>
    let (l, asked) := l.askCancel (asks 0)
    let turn := l.step h
    match turn.exit with
    | some e => { events := asked ++ turn.events, loop := turn.loop, exit := some e }
    | none =>
      let later := followAsked h (fun i => asks (i + 1)) n turn.loop
      { later with events := asked ++ turn.events ++ later.events }

theorem askCancel_zero (l : Loop ε) : l.askCancel 0 = (l, []) := by
  unfold askCancel
  split <;> simp

/-- A worker that is never asked from outside takes the turns of the loop. -/
theorem followAsked_none (h : Host ε) (n : Nat) (l : Loop ε) :
    followAsked h (fun _ => 0) n l = follow h n l := by
  induction n generalizing l with
  | zero => rfl
  | succ n ih =>
      rw [follow_succ, followAsked, askCancel_zero]
      cases hs : (l.step h).exit with
      | some e => simp [hs]
      | none => simp [hs, ih]

/-- The turn after `n` turns comes last. -/
theorem followAsked_turn {asks : Nat → Nat} {n : Nat} (he : (followAsked h asks n l).exit = none) :
    followAsked h asks (n + 1) l =
      { ((followAsked h asks n l).loop.askCancel (asks n)).1.step h with
        events := (followAsked h asks n l).events
          ++ ((followAsked h asks n l).loop.askCancel (asks n)).2
          ++ (((followAsked h asks n l).loop.askCancel (asks n)).1.step h).events } := by
  induction n generalizing l asks with
  | zero => cases hs : ((l.askCancel (asks 0)).1.step h).exit <;> simp [followAsked, hs]
  | succ n ih =>
      cases hs : ((l.askCancel (asks 0)).1.step h).exit with
      | some e => simp [followAsked, hs] at he
      | none =>
          simp only [followAsked, hs] at he
          have hlater := ih he
          rw [followAsked, followAsked]
          simp [hs, hlater]

/-- A run that is over stays as it is. -/
theorem followAsked_over {asks : Nat → Nat} {n : Nat} {e : Exit} (k : Nat)
    (he : (followAsked h asks n l).exit = some e) :
    followAsked h asks (n + k) l = followAsked h asks n l := by
  induction n generalizing l asks with
  | zero => cases he
  | succ n ih =>
      rw [Nat.add_right_comm, followAsked, followAsked]
      cases hs : ((l.askCancel (asks 0)).1.step h).exit with
      | some e' => simp [hs]
      | none =>
          simp only [followAsked, hs] at he
          simp [hs, ih he]

theorem follow_turn {n : Nat} (he : (follow h n l).exit = none) :
    follow h (n + 1) l = { (follow h n l).loop.step h with
      events := (follow h n l).events ++ ((follow h n l).loop.step h).events } := by
  rw [← followAsked_none] at he ⊢
  rw [followAsked_turn he, followAsked_none, askCancel_zero, List.append_nil]

theorem follow_over {n : Nat} {e : Exit} (k : Nat) (he : (follow h n l).exit = some e) :
    follow h (n + k) l = follow h n l := by
  rw [← followAsked_none] at he
  rw [← followAsked_none, ← followAsked_none, followAsked_over k he]

/-- **visits** — the loops in which the turns are taken. -/
def visits (h : Host ε) : (Nat → Nat) → Nat → Loop ε → List (Loop ε)
  | _, 0, _ => []
  | asks, n + 1, l =>
    let l := (l.askCancel (asks 0)).1
    let turn := l.step h
    match turn.exit with
    | some _ => [l]
    | none => l :: visits h (fun i => asks (i + 1)) n turn.loop

/-- What requests from outside and turns that go on keep of the loops visited, the events so far and
the loop holds after any number of turns; what turns that leave make of it holds at the end of a
run. -/
theorem followAsked_induction (I : List (Loop ε) → List Event → Loop ε → Prop)
    (R : List (Loop ε) → List Event → Loop ε → Exit → Prop)
    (ask : ∀ seen past l n, I seen past l → I seen (past ++ (l.askCancel n).2) (l.askCancel n).1)
    (goOn : ∀ seen past l, I seen past l → (l.step h).exit = none →
      I (seen ++ [l]) (past ++ (l.step h).events) (l.step h).loop)
    (leave : ∀ seen past l e, I seen past l → (l.step h).exit = some e →
      R (seen ++ [l]) (past ++ (l.step h).events) (l.step h).loop e)
    (seen : List (Loop ε)) {past : List Event} (start : I seen past l) (asks : Nat → Nat)
    (n : Nat) :
    match (followAsked h asks n l).exit with
    | none => I (seen ++ visits h asks n l) (past ++ (followAsked h asks n l).events)
        (followAsked h asks n l).loop
    | some e => R (seen ++ visits h asks n l) (past ++ (followAsked h asks n l).events)
        (followAsked h asks n l).loop e := by
  induction n generalizing l seen past asks with
  | zero =>
      show I (seen ++ []) (past ++ []) l
      rwa [List.append_nil, List.append_nil]
  | succ n ih =>
      have hasked := ask seen past l (asks 0) start
      cases hs : ((l.askCancel (asks 0)).1.step h).exit with
      | some e =>
          have hleft := leave _ _ _ e hasked hs
          simpa [followAsked, visits, hs] using hleft
      | none =>
          have hlater := ih _ (goOn _ _ _ hasked hs) fun i => asks (i + 1)
          simpa [followAsked, visits, hs] using hlater

/-- The same of runs that are over. -/
theorem followAsked_exit (I : List (Loop ε) → List Event → Loop ε → Prop)
    (R : List (Loop ε) → List Event → Loop ε → Exit → Prop)
    (ask : ∀ seen past l n, I seen past l → I seen (past ++ (l.askCancel n).2) (l.askCancel n).1)
    (goOn : ∀ seen past l, I seen past l → (l.step h).exit = none →
      I (seen ++ [l]) (past ++ (l.step h).events) (l.step h).loop)
    (leave : ∀ seen past l e, I seen past l → (l.step h).exit = some e →
      R (seen ++ [l]) (past ++ (l.step h).events) (l.step h).loop e)
    (past : List Event) (start : I [] past l) {asks : Nat → Nat} {n : Nat} {e : Exit}
    (he : (followAsked h asks n l).exit = some e) :
    R (visits h asks n l) (past ++ (followAsked h asks n l).events) (followAsked h asks n l).loop
      e := by
  have hrun := followAsked_induction I R ask goOn leave [] start asks n
  rw [he] at hrun
  exact hrun

end Loop

namespace Session

variable {ε : Type}

/-- **runAsked** — a run that is asked to stop `asks i` times from outside before turn `i`. -/
def runAsked (h : Host ε) (asks : Nat → Nat) (turns : Nat) (cancellable : Bool) (s : Session ε) :
    Run ε :=
  if s.state = .closing then s.run h turns cancellable
  else
    let (loop, events) := s.enter h cancellable
    let turn := loop.followAsked h asks turns
    { events := events ++ turn.events, session := ofLoop turn.loop, exit := turn.exit }

theorem run_of_open {s : Session ε} (h : Host ε) (n : Nat) (c : Bool) (hs : s.state ≠ .closing) :
    s.run h n c =
      { events := (s.enter h c).2 ++ (Loop.follow h n (s.enter h c).1).events
        session := ofLoop (Loop.follow h n (s.enter h c).1).loop
        exit := (Loop.follow h n (s.enter h c).1).exit } := by
  rw [run, if_neg hs]

theorem runAsked_of_open {s : Session ε} (h : Host ε) (asks : Nat → Nat) (n : Nat) (c : Bool)
    (hs : s.state ≠ .closing) :
    s.runAsked h asks n c =
      { events := (s.enter h c).2 ++ (Loop.followAsked h asks n (s.enter h c).1).events
        session := ofLoop (Loop.followAsked h asks n (s.enter h c).1).loop
        exit := (Loop.followAsked h asks n (s.enter h c).1).exit } := by
  rw [runAsked, if_neg hs]

/-- A closing session starts no run. -/
theorem runAsked_of_closing {s : Session ε} (h : Host ε) (asks : Nat → Nat) (n : Nat) (c : Bool)
    (hs : s.state = .closing) :
    s.runAsked h asks n c =
      { events := [.logged (.loopNotStarted s.number)], session := s,
        exit := some (.outcome .completed) } := by
  rw [runAsked, if_pos hs, run, if_pos hs]

/-- A run that nobody asks from outside to stop. -/
theorem runAsked_none (h : Host ε) (n : Nat) (c : Bool) (s : Session ε) :
    s.runAsked h (fun _ => 0) n c = s.run h n c := by
  by_cases hs : s.state = .closing
  · rw [runAsked, if_pos hs]
  · rw [runAsked_of_open h _ n c hs, run_of_open h n c hs, Loop.followAsked_none]

end Session

/-! ## Hosts to try a session on -/

/-- A source of text at hand. -/
def Source.ofText (name : String) (interactive : Bool) (text : String) : Source :=
  { name, interactive, stream := .ofBytes (encode text) }

/-- A playbook whose lines are read from the sources themselves. -/
def Playbook.host (plays : List (String × Play)) : Host Console :=
  LineReader.host {} [] (execute { files := .empty, plays })

/-- **taking** — a host whose reader takes every source that it is handed away, keeps it, and puts
an empty one in its place. The first one has a line, the others have none. -/
def Host.taking : Host (List Source) where
  standardInput := .ofText "main" false ""
  interactive taken _ := ⟨taken, .ok false⟩
  read taken source :=
    { source := .ofText "other" false "", env := taken ++ [source],
      result := .ok (if taken.isEmpty then .line "a" else .endOfInput) }
  execute taken _ _ := { env := taken, result := .ok .ok }

theorem Playbook.host_consumes (plays : List (String × Play)) : (Playbook.host plays).Consumes :=
  LineReader.host_consumes {} [] _

end CommandShell
