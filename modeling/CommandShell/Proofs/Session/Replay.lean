import CommandShell.Proofs.Session.LogView
import CommandShell.Proofs.Session.FileRun
import CommandShell.Proofs.Session.Rerun

/-!
# The log replays the session

All that is told of a session in its life, by whatever runs and calls (`Session.history`), is read
without fault from the view of a new session on, and leads to the view of the session as it is
(`replays`). So does what is told up to any point of the next run: between two turns, in the middle
of what a dispatcher asks for, and where the run is left (`Session.Passes`).

A run is read turn by turn (`reads_step`). Where it takes place adds records of workers and scripts,
which do not tell of sources or of the state (`tidings_during`).
-/

namespace CommandShell

open CommandShell.Files
open CommandShell.Log

variable {ε : Type}

namespace Session

open Loop

/-- The view of a session between two runs. -/
def view (f : String → String) (s : Session ε) : View := ⟨s.stack.names f, s.state⟩

/-! ## Points of a run -/

/-- **Comes** — a run of a session comes between two turns to a loop, after events. It may be asked
to stop at any time. -/
inductive Comes (h : Host ε) (c : Bool) (s : Session ε) : List Event → Loop ε → Prop
  | starts (opened : s.state ≠ .closing) : Comes h c s (s.enter h c).2 (s.enter h c).1
  | asked {es : List Event} {l : Loop ε} (n : Nat) (before : Comes h c s es l) :
      Comes h c s (es ++ (l.askCancel n).2) (l.askCancel n).1
  | goesOn {es : List Event} {l : Loop ε} (before : Comes h c s es l)
      (stays : (l.step h).exit = none) : Comes h c s (es ++ (l.step h).events) (l.step h).loop

/-- **Passes** — the points of a run: between two turns, within the requests of a dispatcher, and
after any turn, also one that leaves the loop. -/
inductive Passes (h : Host ε) (c : Bool) (s : Session ε) : List Event → Loop ε → Prop
  | between {es : List Event} {l : Loop ε} (before : Comes h c s es l) : Passes h c s es l
  | within {es : List Event} {l : Loop ε} {done rest : List Request} (before : Comes h c s es l)
      (dispatches : l.next = .dispatch) (requests : (l.reaction h).requests = done ++ rest) :
      Passes h c s (es ++ ({ l with env := (l.reaction h).env }.carryOutAll done).2)
        ({ l with env := (l.reaction h).env }.carryOutAll done).1
  | after {es : List Event} {l : Loop ε} (before : Comes h c s es l) :
      Passes h c s (es ++ (l.step h).events) (l.step h).loop

variable {f : String → String} {h : Host ε} {c : Bool} {s s' : Session ε} {es : List Event}
  {l : Loop ε}

theorem reads_enter (h : Host ε) (c : Bool) (hopen : s.state ≠ .closing) :
    (s.view f).Reads f (s.enter h c).2 ((s.enter h c).1.view f) := by
  have hrecover : View.Reads f (s.view f) (transition s.state s.state.recover)
      ⟨s.stack.names f, s.state.recover⟩ :=
    View.reads_transition _ fun hclosing => absurd hclosing hopen
  exact hrecover.append (s.stack.reads_push (s.firstSource h) true s.state.recover)

/-- Between two turns all that has happened was told. -/
theorem Comes.reads (hk : h.Keeps f) (hp : s.Comes h c es l) :
    (s.view f).Reads f es (l.view f) := by
  induction hp with
  | starts opened => exact reads_enter h c opened
  | asked n _ ih => exact ih.append (reads_askCancel _ n)
  | goesOn _ _ ih => exact ih.append (reads_step hk _)

/-- At every point all that has happened was told. -/
theorem Passes.reads (hk : h.Keeps f) (hp : s.Passes h c es l) :
    (s.view f).Reads f es (l.view f) := by
  cases hp with
  | between before => exact before.reads hk
  | @within es l done _ before =>
      exact (before.reads hk).append
        (reads_carryOutAll { l with env := (l.reaction h).env } done)
  | after before => exact (before.reads hk).append (reads_step hk _)

/-- A run comes by its points, and is left after a turn. -/
theorem passes_followAsked (h : Host ε) (c : Bool) (asks : Nat → Nat) (n : Nat)
    (hopen : s.state ≠ .closing) :
    s.Passes h c ((s.enter h c).2 ++ (followAsked h asks n (s.enter h c).1).events)
      (followAsked h asks n (s.enter h c).1).loop := by
  have hrun := @followAsked_induction _ h _ (fun _ past l => s.Comes h c past l)
    (fun _ past l _ => s.Passes h c past l)
    (fun _ _ _ k hl => hl.asked k) (fun _ _ _ hl hexit => hl.goesOn hexit)
    (fun _ _ _ _ hl _ => .after hl) [] _ (.starts hopen) asks n
  split at hrun
  · exact .between hrun
  · exact hrun

/-- All that a run does is told. -/
theorem reads_runAsked (hk : h.Keeps f) (asks : Nat → Nat) (n : Nat) (c : Bool) (s : Session ε) :
    (s.view f).Reads f (s.runAsked h asks n c).events
      ((s.runAsked h asks n c).session.view f) := by
  by_cases hopen : s.state = .closing
  · rw [runAsked_of_closing h asks n c hopen]
    exact View.reads_of_none _ rfl
  · rw [runAsked_of_open h asks n c hopen]
    exact (passes_followAsked h c asks n hopen).reads hk

end Session

/-! ## Where a run takes place -/

theorem tidings_giveUp (waiting : Option Source) : tidings (Session.giveUp waiting) = [] := by
  cases waiting <;> rfl

/-- A session with an empty stack tells nothing more at its end. -/
theorem tidings_discard {s : Session ε} (hs : s.stack = .empty) : tidings s.discard = [] := by
  rw [Session.discard_of_empty hs, tidings_giveUp]

/-- Asking a worker to stop tells nothing of its session. -/
theorem tidings_during (place : Place) (session : Nat) (route : Option CancelRoute)
    (es : List Event) :
    tidings (place.engage session ++ place.during route es : Transcript).events = tidings es := by
  have hengage : tidings (place.engage session).events = [] := by
    cases place <;> rfl
  have hduring : tidings (place.during route es).events = tidings es := by
    induction es with
    | nil => rfl
    | cons e es ih =>
        have hone : tidings (place.during route [e]).events = tidings [e] := by
          cases place with
          | caller => cases e <;> rfl
          | worker name =>
              cases e with
              | cancelAsked => rcases route with _ | _ | _ <;> rfl
              | _ => rfl
        have hsplit : place.during route (e :: es) =
            place.during route [e] ++ place.during route es := by
          unfold Place.during
          rw [← List.flatMap_append, List.singleton_append]
        rw [hsplit, Session.events_append, tidings_append, hone, ih, ← tidings_append,
          List.singleton_append]
  rw [Session.events_append, tidings_append, hengage, hduring, List.nil_append]

/-- The end of a run that leaves an empty stack tells nothing more, and the session that comes back
is the one that the run has left. -/
theorem tidings_dismiss (place : Place) (t : Transcript) {r : Run ε}
    (hstack : ∀ e, r.exit = some e → r.session.stack = .empty) :
    tidings (place.dismiss t r).transcript.events = tidings t.events := by
  have hlogged : ∀ (t : Transcript) (record : Record), View.tells record = false →
      tidings (t ++ [(.caller, .logged record)] : Transcript).events = tidings t.events := by
    intro t record hrecord
    rw [Session.events_append, tidings_append]
    show _ ++ [record].filter View.tells = _
    rw [List.filter_cons_of_neg (by simp [hrecord]), List.filter_nil, List.append_nil]
  have hdiscard : ∀ thread : Thread, r.session.stack = .empty →
      tidings (t ++ r.session.discard.map ((thread, ·)) : Transcript).events =
        tidings t.events := by
    intro thread hempty
    have hevents : Transcript.events (r.session.discard.map ((thread, ·))) = r.session.discard := by
      simp [Transcript.events, Function.comp_def]
    rw [Session.events_append, tidings_append, hevents, tidings_discard hempty, List.append_nil]
  obtain ⟨es, session, exit⟩ := r
  rcases exit with _ | o | p
  · rfl
  · cases place with
    | caller => rfl
    | worker name => exact hlogged t _ rfl
  · have hempty := hstack _ rfl
    cases place with
    | caller => exact hdiscard .caller hempty
    | worker name => exact (hlogged _ _ rfl).trans (hdiscard .worker hempty)

namespace Operation

open Session

/-- The reader that an operation works with keeps what is seen of the names. -/
def Keeps (f : String → String) : Operation ε → Prop
  | .run h _ | .spawn h .. | .runFile h .. => h.Keeps f
  | .close | .setPrimary _ | .releasePrimary => True

variable {f : String → String} {s : Session ε} {h : Host ε}

/-- **Told** — all that an operation does is told, and what was told leads to the session that it
gives back. -/
def Told (f : String → String) (s : Session ε) (r : Reply ε) : Prop :=
  ∃ v, (s.view f).Reads f r.events v ∧ ∀ s', r.session? = some s' → s'.view f = v

/-- A session that is lost before a run tells nothing. -/
theorem told_lose (hs : s.stack = .empty) (e : ShellError) :
    Told f s (.ofReport (lose [] s e)) := by
  refine ⟨s.view f, ?_, fun s' hs' => by cases hs'⟩
  apply View.reads_of_none
  show tidings (Transcript.events ([] ++ Transcript.ofCaller s.discard)) = []
  rw [List.nil_append, events_ofCaller, tidings_discard hs]

/-- Nor does one that gets no thread. -/
theorem told_turnAway (hs : s.stack = .empty) (refusal : Refusal) :
    Told f s (.ofReport (s.turnAway refusal)) := by
  cases refusal with
  | fails reason => exact told_lose hs _
  | panics p =>
      refine ⟨s.view f, ?_, fun s' hs' => by cases hs'⟩
      apply View.reads_of_none
      show tidings (Transcript.events (Transcript.ofCaller s.discard)) = []
      rw [events_ofCaller, tidings_discard hs]

/-- A run tells wherever it takes place what it does. -/
theorem told_dismiss (hs : s.stack = .empty) (hk : h.Keeps f) (asks : Nat → Nat) (turns : Nat)
    (place : Place) (route : Option CancelRoute) :
    Told f s (.ofReport (place.dismiss
      (place.engage s.number ++ place.during route (s.runAsked h asks turns route.isSome).events)
      (s.runAsked h asks turns route.isSome))) := by
  refine ⟨_, (reads_runAsked hk asks turns route.isSome s).congr ?_, ?_⟩
  · show tidings (Place.dismiss _ _ _).transcript.events = _
    rw [tidings_dismiss place _ fun e he => stack_of_runAsked h asks turns route.isSome hs he,
      tidings_during]
  · intro s' hs'
    rw [session_of_dismiss hs']

/-- Giving up primary inputs, before and after a run, tells nothing. -/
theorem tidings_settle (before : List Event) (r : Report ε) (hbefore : tidings before = []) :
    tidings ({ r with transcript := Transcript.ofCaller before ++ r.transcript } :
      Report ε).settle.transcript.events = tidings r.transcript.events := by
  rw [Report.settle_eq]
  show tidings (Transcript.ofCaller before ++ r.transcript ++ Transcript.ofCaller _).events = _
  rw [events_append, events_append, events_ofCaller, events_ofCaller, tidings_append,
    tidings_append, hbefore, tidings_giveUp, List.nil_append, List.append_nil]

theorem told_runFile (hs : s.stack = .empty) (hk : h.Keeps f) (threads : Threads)
    (files : FileSystem) (path : Path) (mode : RunMode) (turns : Nat) :
    Told f s ((runFile h threads files path mode turns).perform s) := by
  rw [perform, Session.runFile]
  cases ho : Source.openFile files path with
  | error e =>
      rw [takeScript_of_refused s ho]
      exact told_lose hs e
  | ok source =>
      rw [takeScript_of_opened s ho]
      have hrun : Told f (s.setPrimary source).1
          (.ofReport ((s.setPrimary source).1.runIn h threads turns mode none)) := by
        unfold runIn
        cases (s.setPrimary source).1.placeFor threads mode with
        | error refusal => exact told_turnAway (s := (s.setPrimary source).1) hs refusal
        | ok place =>
            show Told f _ (.ofReport (employ h turns place none _))
            unfold employ
            rw [← runAsked_none]
            exact told_dismiss (s := (s.setPrimary source).1) hs hk (fun _ => 0) turns place none
      obtain ⟨v, hreads, hback⟩ := hrun
      refine ⟨v, hreads.congr ?_, ?_⟩
      · apply tidings_settle
        show tidings (giveUp s.primary) = []
        exact tidings_giveUp s.primary
      · intro s' hs'
        obtain ⟨s₀, hs₀, rfl⟩ := session_of_settle hs'
        exact hback s₀ hs₀

/-- **told_perform** — all that an operation does with a session between two runs is told. -/
theorem told_perform (hs : s.stack = .empty) (op : Operation ε) (hk : op.Keeps f) :
    Told f s (op.perform s) := by
  cases op with
  | close =>
      refine ⟨s.close.1.view f, View.reads_transition _ fun _ => rfl, ?_⟩
      intro s' hs'
      rw [← Option.some.inj hs']
  | setPrimary source =>
      refine ⟨s.view f, View.reads_of_none _ (tidings_giveUp s.primary), ?_⟩
      intro s' hs'
      rw [← Option.some.inj hs']
      rfl
  | releasePrimary =>
      refine ⟨s.view f, View.reads_of_none _ (tidings_giveUp s.primary), ?_⟩
      intro s' hs'
      rw [← Option.some.inj hs']
      rfl
  | run h turns =>
      refine ⟨(s.run h turns false).session.view f, ?_, ?_⟩
      · have hreads := reads_runAsked hk (fun _ => 0) turns false s
        rw [runAsked_none] at hreads
        exact hreads
      · intro s' hs'
        obtain ⟨_, _, rfl⟩ := Option.map_eq_some_iff.mp hs'
        rfl
  | spawn h threads config route asks turns =>
      rw [perform, spawnAsked]
      cases s.placeFor threads (.threaded config) with
      | error refusal => exact told_turnAway hs refusal
      | ok place => exact told_dismiss hs hk asks turns place route
  | runFile h threads files path mode turns =>
      exact told_runFile hs hk threads files path mode turns

end Operation

/-! ## Lives -/

namespace Session

/-- **history** — all that operations do with a session, one after the other. -/
def history : Session ε → List (Operation ε) → List Event
  | _, [] => []
  | s, op :: ops =>
    (op.perform s).events ++ ((op.perform s).session?.elim [] fun s' => s'.history ops)

variable {f : String → String} {s s' : Session ε} {ops : List (Operation ε)}

theorem reads_history (hlife : Life s ops s') (hkeeps : ∀ op ∈ ops, op.Keeps f)
    (hstack : s.stack = .empty) : (s.view f).Reads f (s.history ops) (s'.view f) := by
  induction hlife with
  | nil => exact View.reads_of_none _ rfl
  | @cons s s₁ s₂ op ops hop _ ih =>
      obtain ⟨hkop, hkops⟩ := List.forall_mem_cons.mp hkeeps
      obtain ⟨v, hreads, hback⟩ := Operation.told_perform hstack op hkop
      obtain rfl := hback s₁ hop
      rw [history, hop]
      exact hreads.append (ih hkops (Operation.stack_of_perform hstack hop))

/-- **The log alone replays the session.** Whatever was done with a session since it was created,
by readers that keep what is seen of the names, the records of that are read from the view of a new
session on and give the names on its stack, of which there are none, and its state. All that another
such operation tells can be read behind them and gives the session that comes back, again with an
empty stack. And at every point of another run, what was told until then gives the names on the
stack and the state of the loop.

With `f` the identity, all of every name is compared, and readers that only consume their sources
are among those that keep it (`Host.Consumes.keeps`). With a constant `f` the names are not
compared, and every reader keeps what is seen of them (`Host.keeps_const`): the depths and the
chain of the states are replayed whatever the readers do. -/
theorem replays (f : String → String) {number : Nat} {env : ε}
    (hlife : Life (create number env) ops s) (hkeeps : ∀ op ∈ ops, op.Keeps f) :
    View.Reads f {} ((create number env).history ops) (s.view f) ∧ (s.view f).names = [] ∧
      (∀ op : Operation ε, op.Keeps f → ∃ v,
        View.Reads f {} ((create number env).history ops ++ (op.perform s).events) v ∧
        ∀ s', (op.perform s).session? = some s' → s'.view f = v ∧ v.names = []) ∧
      ∀ h c es l, h.Keeps f → s.Passes h c es l →
        View.Reads f {} ((create number env).history ops ++ es) (l.view f) := by
  have hstack : s.stack = .empty := stack_of_life hlife rfl
  have hhistory : View.Reads f {} ((create number env).history ops) (s.view f) :=
    reads_history hlife hkeeps rfl
  have hempty : ∀ {s : Session ε}, s.stack = .empty → (s.view f).names = [] := by
    intro s hs
    show s.stack.names f = []
    rw [hs]
    rfl
  refine ⟨hhistory, hempty hstack, ?_, ?_⟩
  · intro op hk
    obtain ⟨v, hreads, hback⟩ := Operation.told_perform hstack op hk
    refine ⟨v, hhistory.append hreads, ?_⟩
    intro s' hs'
    obtain rfl := hback s' hs'
    exact ⟨rfl, hempty (Operation.stack_of_perform hstack hs')⟩
  · intro h c es l hk hpasses
    exact hhistory.append (hpasses.reads hk)

/-- A script that reads another one, and whose line asks to stop after that. -/
def cancelledInside : Operation Console :=
  .spawn (Playbook.host [
      ("a", { deeds := [.push (.ofText "x" false "c\nd\n")] }), ("c", { deeds := [.cancel] })])
    (.ofMemory none) {} (some .token) (fun _ => 0) 30

/-- A run is left while a script is read in another one, a second one fails, and the session is
closed. -/
def cancelledFailedClosed : List (Operation Console) :=
  [.setPrimary (.ofText "main" false "a\nb\n"), cancelledInside,
    .setPrimary (.ofText "main" false "b\n"),
    .run (Playbook.host [("b", { verdict := .scriptError })]) 30, .close]

theorem cancelledFailedClosed_replays :
    ∃ s, Life (create 7 ({} : Console)) cancelledFailedClosed s ∧
      s.view id = { names := [], state := .closing } ∧
      (∀ op ∈ cancelledFailedClosed, op.Keeps id) ∧
      View.Reads id {} ((create 7 ({} : Console)).history cancelledFailedClosed) (s.view id) := by
  have hlife : Life (create 7 ({} : Console)) cancelledFailedClosed _ :=
    .cons rfl (.cons rfl (.cons rfl (.cons rfl (.cons rfl .nil))))
  have hkeeps : ∀ op ∈ cancelledFailedClosed, op.Keeps id := by
    simp [cancelledFailedClosed, cancelledInside, Operation.Keeps,
      (Playbook.host_consumes _).keeps id]
  exact ⟨_, hlife, rfl, hkeeps, (replays id hlife hkeeps).1⟩

/-- A reader that puts another source in the place of the one that it is handed breaks the replay:
the pop names a source that was never pushed. The depths and the states fit all the same. -/
theorem taking_replays :
    ((create 0 [] : Session (List Source)).run Host.taking 10 false).exit
        = some (.outcome .completed) ∧
      View.readAll id {} (records ((create 0 []).run Host.taking 10 false).events) = none ∧
      View.readAll (fun _ => "") {} (records ((create 0 []).run Host.taking 10 false).events)
        = some {} := by
  decide

end Session

end CommandShell
