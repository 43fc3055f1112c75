import CommandShell.Proofs.Session.Cancellation
import CommandShell.Proofs.Session.Life

/-!
# A closing session stays so

A session is closed from outside, or by a line that asks for shutdown or is fatal
(`Operation.Closes`). `closes_absorbs`: from then on, whatever is done with the session, nobody is
called any more, neither in the same run nor in a later one. The session that is given back stays
closing; its runs complete at once, even if they are asked to stop before they begin, push nothing,
and leave a primary input where it is; and a run with a script gives the script up.

Within a run this is an invariant of the turns: no signal leads out of the state (`step_closing`),
and a steady loop calls nobody in it. Between runs it is what the operations make of a closing
session (`AtRest`), and lives carry it on.
-/

namespace CommandShell

open CommandShell.Files
open CommandShell.Log

variable {ε : Type}

namespace Loop

variable {h : Host ε} {l : Loop ε}

/-! ## Within a run -/

/-- **Closes** — the next turn carries out a line that asks for shutdown or is fatal. -/
def Closes (h : Host ε) (l : Loop ε) : Prop :=
  l.next = .dispatch ∧
    (.close ∈ (l.reaction h).requests ∨ (l.reaction h).result = .ok .fatal)

/-- No turn leads out of the closing state. -/
theorem step_closing (hs : l.state = .closing) : (l.step h).loop.state = .closing := by
  have w := way_step h l
  generalize l.step h = turn at w
  cases w <;>
    simp [finish, unwind, inspected, received_loop, carried_loop, State.respond_closing, hs]

/-- A line that asks for shutdown or is fatal closes the session, even if it panics after that. -/
theorem Closes.step (hc : l.Closes h) : (l.step h).loop.state = .closing := by
  obtain ⟨hn, hc⟩ := hc
  cases hr : (l.reaction h).result with
  | error p =>
      -- A line that panics has no verdict, so it asked for shutdown before.
      have hclose : .close ∈ (l.reaction h).requests := by simpa [hr] using hc
      have w : Way h l _ := .dispatchPanics hn hr
      rw [w.step_eq, leave_loop, carried_loop]
      simp [hclose]
  | ok v =>
      have w : Way h l _ := .dispatches hn hr
      rw [w.step_eq, goOn_loop, judged_state, carried_loop]
      rcases hc with hclose | hfatal
      · simp [hclose, State.respond_closing]
      · rw [hr, Except.ok.injEq] at hfatal
        rw [hfatal]
        exact State.respond_closeAsked _

/-- A closing loop that is steady calls nobody. -/
theorem Steady.calls_of_closing (hl : l.Steady) (hs : l.state = .closing) :
    l.calls h = [] := by
  have hready : l.next = .read ∨ l.next = .dispatch → False := by
    intro hn
    rw [hl.lines hn] at hs
    cases hs
  exact calls_of_other (fun hn => hready (.inl hn)) (fun hn => hready (.inr hn))

/-- **Silenced** — where a line has closed the session, it is closing ever since. -/
def Silenced (h : Host ε) (seen : List (Loop ε)) (l : Loop ε) : Prop :=
  (∃ l' ∈ seen, l'.Closes h) → l.state = .closing

/-- A turn more keeps a loop silenced. -/
theorem Silenced.step {seen : List (Loop ε)} (hq : l.Silenced h seen) :
    (l.step h).loop.Silenced h (seen ++ [l]) := by
  rintro ⟨l', hmem, hc⟩
  rcases List.mem_append.mp hmem with hmem | hmem
  · exact step_closing (hq ⟨l', hmem, hc⟩)
  · rw [List.mem_singleton.mp hmem] at hc
    exact hc.step

/-- A silenced loop calls nobody after a line that closed the session. -/
theorem Silenced.pairwise {seen : List (Loop ε)} (hq : l.Silenced h seen) (hl : l.Steady)
    (hp : seen.Pairwise fun l l' => l.Closes h → l'.state = .closing ∧ l'.calls h = []) :
    (seen ++ [l]).Pairwise fun l l' => l.Closes h → l'.state = .closing ∧ l'.calls h = [] := by
  rw [List.pairwise_append]
  refine ⟨hp, List.pairwise_singleton _ _, ?_⟩
  intro l₁ hl₁ l₂ hl₂ hc
  rw [List.mem_singleton.mp hl₂]
  have hclosing := hq ⟨l₁, hl₁, hc⟩
  exact ⟨hclosing, hl.calls_of_closing hclosing⟩

end Loop

namespace Session

open Loop

variable {h : Host ε} {s : Session ε}

/-- After a line that closes the session nobody is called any more in the same run, and the session
is left closing. -/
theorem silenced_runAsked (h : Host ε) (asks : Nat → Nat) (n : Nat) (c : Bool) (s : Session ε) :
    ((s.moments h asks n c).Pairwise fun l l' =>
        l.Closes h → l'.state = .closing ∧ l'.calls h = []) ∧
      ((∃ l ∈ s.moments h asks n c, l.Closes h) →
        (s.runAsked h asks n c).session.state = .closing) := by
  rw [moments]
  split
  · exact ⟨.nil, by simp⟩
  · rename_i hopen
    rw [runAsked_of_open h asks n c hopen]
    -- A loop is silenced by any line seen so far; that it is steady makes it call nobody then.
    have hrun := @followAsked_induction _ h _
      (fun seen _ l => l.Steady ∧ l.Silenced h seen ∧
        seen.Pairwise fun l l' => l.Closes h → l'.state = .closing ∧ l'.calls h = [])
      (fun seen _ l _ => l.Silenced h seen ∧
        seen.Pairwise fun l l' => l.Closes h → l'.state = .closing ∧ l'.calls h = [])
      ?ask ?goOn ?leave [] [] ⟨enter_steady h c hopen, by simp [Silenced], .nil⟩ asks n
    case ask =>
      rintro seen _ l k ⟨hl, hq, hp⟩
      refine ⟨hl.askCancel k, ?_, hp⟩
      rw [askCancel_loop]
      exact hq
    case goOn =>
      rintro seen _ l ⟨hl, hq, hp⟩ hexit
      exact ⟨hl.step hexit, hq.step, hq.pairwise hl hp⟩
    case leave =>
      rintro seen _ l e ⟨hl, hq, hp⟩ _
      exact ⟨hq.step, hq.pairwise hl hp⟩
    rw [List.nil_append] at hrun
    split at hrun
    · exact ⟨hrun.2.2, hrun.2.1⟩
    · exact ⟨hrun.2, hrun.1⟩

end Session

/-! ## Between runs -/

namespace Operation

/-- **Closes** — the operation is to close the session, or it begins a run a line of which closes
it. -/
def Closes (op : Operation ε) (s : Session ε) : Prop :=
  op = close ∨ ∃ r, op.launch? s = some r ∧ ∃ l ∈ r.moments, l.Closes r.host

end Operation

/-- **AtRest** — the session is closing, and this is what becomes of operations on it. -/
structure AtRest (s : Session ε) : Prop where
  state : s.state = .closing
  /-- Nobody is called … -/
  calls : ∀ op : Operation ε, op.calls s = []
  /-- … nothing is read, dispatched, pushed or written … -/
  quiet : ∀ op : Operation ε, doings (op.perform s).events = []
  /-- … and the session that is given back is closing. -/
  kept : ∀ (op : Operation ε) s', (op.perform s).session? = some s' → s'.state = .closing
  /-- A run completes and changes nothing, on the thread of the caller … -/
  run : ∀ h turns, ((Operation.run h turns).perform s).session? = some s ∧
    ((Operation.run h turns).perform s).outcome? = some .completed
  /-- … and on a worker, if there can be one and whenever it is asked to stop. -/
  spawn : ∀ h threads config route asks turns, threads.refusal config = none →
    ((Operation.spawn h threads config route asks turns).perform s).session? = some s ∧
    ((Operation.spawn h threads config route asks turns).perform s).outcome? = some .completed
  /-- A run with a script that comes back has completed and leaves no primary input … -/
  runFile : ∀ h threads files path mode turns s',
    ((Operation.runFile h threads files path mode turns).perform s).session? = some s' →
    s'.primary = none ∧
    ((Operation.runFile h threads files path mode turns).perform s).outcome? = some .completed
  /-- … and it comes back if the script can be opened and the thread can be made. -/
  runFile_returns : ∀ h threads files path mode turns,
    (∃ source, Source.openFile files path = .ok source) →
    (∀ config, mode = .threaded config → threads.refusal config = none) →
    ∃ s', ((Operation.runFile h threads files path mode turns).perform s).session? = some s'

namespace Session

variable {s : Session ε}

/-- The run of a closing session. -/
def idleRun (s : Session ε) : Run ε :=
  { events := [.logged (.loopNotStarted s.number)], session := s,
    exit := some (.outcome .completed) }

/-- A closing session comes back from its run wherever that takes place. -/
theorem dismiss_idleRun (place : Place) (route : Option CancelRoute) (s : Session ε) :
    ∃ t, place.dismiss (place.engage s.number ++ place.during route s.idleRun.events) s.idleRun =
        { transcript := t, ending := .completed s .completed } ∧ doings t.events = [] := by
  cases place with
  | caller => exact ⟨_, rfl, rfl⟩
  | worker name => exact ⟨_, rfl, rfl⟩

end Session

/-- **Rests** — the reply gives a session back from a run that completed and did nothing. -/
structure Reply.Rests (r : Reply ε) (s : Session ε) : Prop where
  session : r.session? = some s
  outcome : r.outcome? = some .completed
  quiet : doings r.events = []

/-- **Lost** — the reply does not give the session back, and nothing was done. -/
structure Reply.Lost (r : Reply ε) : Prop where
  session : r.session? = none
  quiet : doings r.events = []

/-- **Idle** — nothing was done, and if the session is given back, it is closing. -/
def Reply.Idle (r : Reply ε) : Prop :=
  doings r.events = [] ∧ ∀ s, r.session? = some s → s.state = .closing

theorem Reply.Rests.idle {r : Reply ε} {s : Session ε} (hr : r.Rests s) (hs : s.state = .closing) :
    r.Idle := by
  refine ⟨hr.quiet, fun s' hs' => ?_⟩
  rw [← Option.some.inj (hr.session.symm.trans hs')]
  exact hs

theorem Reply.Lost.idle {r : Reply ε} (hr : r.Lost) : r.Idle := by
  refine ⟨hr.quiet, fun s' hs' => ?_⟩
  rw [hr.session] at hs'
  cases hs'

/-- Where no session comes back there is nothing to settle. -/
theorem Report.settle_of_lost {r : Report ε} (hr : (Reply.ofReport r).session? = none) :
    r.settle = r := by
  obtain ⟨t, ending⟩ := r
  cases ending with
  | completed s o => cases hr
  | _ => rfl

namespace Session

variable {s : Session ε}

theorem doings_giveUp (waiting : Option Source) : doings (giveUp waiting) = [] := by
  cases waiting <;> rfl

/-- The end of a session releases what it holds, and does nothing else. -/
theorem doings_discard (s : Session ε) : doings s.discard = [] := by
  rw [discard, doings_append, doings_giveUp, List.append_nil]
  exact (Loop.lacks_releaseAll (fun _ => rfl) (fun _ => rfl) s.stack.sources).filter_eq_nil

theorem events_append (t t' : Transcript) :
    (t ++ t' : Transcript).events = t.events ++ t'.events :=
  List.map_append

theorem events_ofCaller (es : List Event) : (Transcript.ofCaller es).events = es := by
  simp [Transcript.events, Transcript.ofCaller, Function.comp_def]

/-- Where nobody may cancel a run, its events are those of the place. -/
theorem events_during (place : Place) (es : List Event) : (place.during none es).events = es := by
  induction es with
  | nil => rfl
  | cons e es ih =>
      have hone : (place.during none [e]).events = [e] := by
        cases place with
        | caller => rfl
        | worker name => cases e <;> rfl
      have hsplit : place.during none (e :: es) =
          place.during none [e] ++ place.during none es := by
        rw [Place.during, Place.during, Place.during, ← List.flatMap_append, List.singleton_append]
      rw [hsplit, events_append, hone, ih, List.singleton_append]

theorem lose_lost (s : Session ε) (e : ShellError) : (Reply.ofReport (lose [] s e)).Lost where
  session := rfl
  quiet := by
    show doings (Transcript.events ([] ++ Transcript.ofCaller s.discard)) = []
    rw [List.nil_append, events_ofCaller, doings_discard]

theorem turnAway_lost (s : Session ε) (refusal : Refusal) :
    (Reply.ofReport (s.turnAway refusal)).Lost := by
  cases refusal with
  | fails reason => exact lose_lost s _
  | panics p =>
      refine ⟨rfl, ?_⟩
      show doings (Transcript.events (Transcript.ofCaller s.discard)) = []
      rw [events_ofCaller, doings_discard]

theorem takeScript_of_opened {files : FileSystem} {path : Path} {source : Source} (s : Session ε)
    (ho : Source.openFile files path = .ok source) :
    s.takeScript files path =
      .ok ((s.setPrimary source).1,
        .logged (.scriptStarted path.shown) :: (s.setPrimary source).2) := by
  rw [takeScript, ho]
  rfl

theorem takeScript_of_refused {files : FileSystem} {path : Path} {e : ShellError} (s : Session ε)
    (ho : Source.openFile files path = .error e) : s.takeScript files path = .error e := by
  rw [takeScript, ho]
  rfl

/-- A closing session comes back from a run in either mode, if there is a place for it. -/
theorem runIn_of_closing (h : Host ε) {threads : Threads} (turns : Nat) {mode : RunMode}
    (route : Option CancelRoute) {place : Place} (hs : s.state = .closing)
    (hp : s.placeFor threads mode = .ok place) :
    ∃ t, s.runIn h threads turns mode route =
        { transcript := t, ending := .completed s .completed } ∧ doings t.events = [] := by
  have hrun : s.run h turns route.isSome = s.idleRun := if_pos hs
  rw [runIn, hp]
  simp only [employ, hrun]
  exact dismiss_idleRun place route s

end Session

namespace Operation

open Session

variable {s : Session ε}

theorem perform_run_of_closing (h : Host ε) (turns : Nat) (hs : s.state = .closing) :
    ((run h turns).perform s).Rests s := by
  have hrun : s.run h turns false = s.idleRun := if_pos hs
  rw [perform, hrun]
  exact ⟨rfl, rfl, rfl⟩

theorem perform_spawn_of_closing (h : Host ε) {threads : Threads} {config : WorkerSettings}
    (route : Option CancelRoute) (asks : Nat → Nat) (turns : Nat) (hs : s.state = .closing)
    (hr : threads.refusal config = none) :
    ((spawn h threads config route asks turns).perform s).Rests s := by
  have hrun : s.runAsked h asks turns route.isSome = s.idleRun := runAsked_of_closing h _ _ _ hs
  obtain ⟨t, ht, hquiet⟩ := dismiss_idleRun (.worker (s.workerName config)) route s
  have hspawn : s.spawnAsked h threads asks turns config route =
      { transcript := t, ending := .completed s .completed } := by
    simp only [spawnAsked, placeFor, hr, hrun, ht]
  rw [perform, hspawn]
  exact ⟨rfl, rfl, hquiet⟩

theorem perform_spawn_refused (h : Host ε) {threads : Threads} {config : WorkerSettings}
    (route : Option CancelRoute) (asks : Nat → Nat) (turns : Nat) (s : Session ε)
    {refusal : Refusal} (hr : threads.refusal config = some refusal) :
    ((spawn h threads config route asks turns).perform s).Lost := by
  have hspawn : s.spawnAsked h threads asks turns config route = s.turnAway refusal := by
    simp only [spawnAsked, placeFor, hr]
  rw [perform, hspawn]
  exact turnAway_lost s refusal

/-- A run with a script gives up the script that a closing session did not take. -/
theorem perform_runFile_of_closing (h : Host ε) {threads : Threads} {files : FileSystem}
    {path : Path} {mode : RunMode} (turns : Nat) {source : Source} {place : Place}
    (hs : s.state = .closing) (ho : Source.openFile files path = .ok source)
    (hp : s.placeFor threads mode = .ok place) :
    ((runFile h threads files path mode turns).perform s).Rests { s with primary := none } := by
  have hp' : (s.setPrimary source).1.placeFor threads mode = .ok place := hp
  obtain ⟨t, ht, hquiet⟩ := runIn_of_closing h turns none (s := (s.setPrimary source).1) hs hp'
  rw [perform, Session.runFile, takeScript_of_opened s ho]
  simp only [ht]
  refine ⟨rfl, rfl, ?_⟩
  show doings (Transcript.events (Transcript.ofCaller (_ :: giveUp s.primary) ++ t
    ++ Transcript.ofCaller (giveUp (some source)))) = []
  rw [events_append, events_append, events_ofCaller, events_ofCaller, doings_append,
    doings_append, hquiet, doings_giveUp, List.append_nil, List.append_nil]
  exact doings_giveUp s.primary

/-- A run with a script is lost if the script cannot be opened or its thread cannot be made. -/
theorem perform_runFile_lost (h : Host ε) {threads : Threads} {files : FileSystem} {path : Path}
    {mode : RunMode} (turns : Nat) (s : Session ε)
    (hl : ∀ source place, Source.openFile files path = .ok source →
      s.placeFor threads mode ≠ .ok place) :
    ((runFile h threads files path mode turns).perform s).Lost := by
  rw [perform, Session.runFile]
  cases ho : Source.openFile files path with
  | error e =>
      rw [takeScript_of_refused s ho]
      exact lose_lost s e
  | ok source =>
      rw [takeScript_of_opened s ho]
      cases hp : (s.setPrimary source).1.placeFor threads mode with
      | ok place => exact absurd hp (hl source place ho)
      | error refusal =>
          simp only [runIn, hp]
          have hlost := turnAway_lost (s.setPrimary source).1 refusal
          rw [Report.settle_of_lost]
          · refine ⟨hlost.session, ?_⟩
            show doings (Transcript.events (Transcript.ofCaller (_ :: giveUp s.primary) ++ _)) = []
            rw [events_append, events_ofCaller, doings_append]
            exact List.append_eq_nil_iff.mpr ⟨doings_giveUp s.primary, hlost.quiet⟩
          · exact hlost.session

/-- A run with a script that begins does so with the script as its primary input. -/
theorem launch?_runFile {h : Host ε} {threads : Threads} {files : FileSystem} {path : Path}
    {mode : RunMode} {turns : Nat} {r : Launch ε}
    (hr : (runFile h threads files path mode turns).launch? s = some r) :
    ∃ source place, Source.openFile files path = .ok source ∧
      s.placeFor threads mode = .ok place ∧
      r = { host := h, turns, session := (s.setPrimary source).1 } := by
  rw [launch?] at hr
  cases ho : Source.openFile files path with
  | error e =>
      rw [takeScript_of_refused s ho] at hr
      cases hr
  | ok source =>
      rw [takeScript_of_opened s ho] at hr
      cases hp : (s.setPrimary source).1.placeFor threads mode with
      | error e =>
          simp only [hp] at hr
          cases hr
      | ok place =>
          simp only [hp] at hr
          exact ⟨source, place, rfl, hp, (Option.some.inj hr).symm⟩

/-- A worker that begins its run has a place. -/
theorem launch?_spawn {h : Host ε} {threads : Threads} {config : WorkerSettings}
    {route : Option CancelRoute} {asks : Nat → Nat} {turns : Nat} {r : Launch ε}
    (hr : (spawn h threads config route asks turns).launch? s = some r) :
    ∃ place, s.placeFor threads (.threaded config) = .ok place ∧
      r = { host := h, asks, turns, cancellable := route.isSome, session := s } := by
  rw [launch?] at hr
  cases hp : s.placeFor threads (.threaded config) with
  | error e =>
      rw [hp] at hr
      cases hr
  | ok place =>
      rw [hp] at hr
      exact ⟨place, rfl, (Option.some.inj hr).symm⟩

/-- A run begins in the state of its session. -/
theorem state_of_launch? {op : Operation ε} {r : Launch ε} (hr : op.launch? s = some r) :
    r.session.state = s.state := by
  cases op with
  | close => cases hr
  | setPrimary source => cases hr
  | releasePrimary => cases hr
  | run h turns =>
      cases hr
      rfl
  | spawn h threads config route asks turns =>
      obtain ⟨_, _, rfl⟩ := launch?_spawn hr
      rfl
  | runFile h threads files path mode turns =>
      obtain ⟨_, _, _, _, rfl⟩ := launch?_runFile hr
      rfl

/-- A session that comes back from a place is the one that the run left. -/
theorem session_of_dismiss {place : Place} {t : Transcript} {r : Run ε} {s' : Session ε}
    (hs : (Reply.ofReport (place.dismiss t r)).session? = some s') : s' = r.session := by
  obtain ⟨es, session, exit⟩ := r
  rcases exit with _ | o | p
  · cases hs
  · cases place <;> exact (Option.some.inj hs).symm
  · cases place <;> cases hs

/-- Settling gives up the primary input of the session that comes back. -/
theorem session_of_settle {r : Report ε} {s' : Session ε}
    (hs : (Reply.ofReport r.settle).session? = some s') :
    ∃ s, (Reply.ofReport r).session? = some s ∧ s' = s.releasePrimary.1 := by
  obtain ⟨t, ending⟩ := r
  cases ending with
  | completed s o => exact ⟨s, rfl, (Option.some.inj hs).symm⟩
  | failed e env => cases hs
  | panicked p env => cases hs
  | unfinished s => cases hs

/-- The session that an operation gives back is in the state in which its run left it. -/
theorem state_of_perform {op : Operation ε} {r : Launch ε} {s' : Session ε}
    (hr : op.launch? s = some r) (hs : (op.perform s).session? = some s') :
    s'.state = r.run.session.state := by
  cases op with
  | close => cases hr
  | setPrimary source => cases hr
  | releasePrimary => cases hr
  | run h turns =>
      cases hr
      obtain ⟨_, _, rfl⟩ := Option.map_eq_some_iff.mp hs
      rw [Launch.run, runAsked_none]
  | spawn h threads config route asks turns =>
      obtain ⟨place, hp, rfl⟩ := launch?_spawn hr
      rw [perform, spawnAsked, hp] at hs
      rw [session_of_dismiss hs]
      rfl
  | runFile h threads files path mode turns =>
      obtain ⟨source, place, ho, hp, rfl⟩ := launch?_runFile hr
      have hp' : (s.setPrimary source).1.placeFor threads mode = .ok place := hp
      rw [perform, Session.runFile, takeScript_of_opened s ho] at hs
      obtain ⟨s₀, hs₀, rfl⟩ := session_of_settle hs
      simp only [runIn, hp', employ] at hs₀
      rw [Launch.run, runAsked_none]
      rw [session_of_dismiss hs₀]
      rfl

/-- No operation begins a run of a closing session that calls anybody. -/
theorem calls_of_closing (op : Operation ε) (hs : s.state = .closing) : op.calls s = [] := by
  rw [calls]
  cases hr : op.launch? s with
  | none => rfl
  | some r =>
      have hclosing : r.session.state = .closing := (state_of_launch? hr).trans hs
      rw [Option.elim_some, Launch.calls, Session.calls, moments, if_pos hclosing]
      rfl

/-- Operations do nothing with a closing session but give up sources, and it stays closing. -/
theorem perform_of_closing (op : Operation ε) (hs : s.state = .closing) : (op.perform s).Idle := by
  cases op with
  | close =>
      refine ⟨?_, fun s' hs' => ?_⟩
      · show doings (Loop.transition s.state .closing) = []
        rw [hs]
        rfl
      · rw [← Option.some.inj hs']
        rfl
  | setPrimary source =>
      refine ⟨doings_giveUp s.primary, fun s' hs' => ?_⟩
      rw [← Option.some.inj hs']
      exact hs
  | releasePrimary =>
      refine ⟨doings_giveUp s.primary, fun s' hs' => ?_⟩
      rw [← Option.some.inj hs']
      exact hs
  | run h turns => exact (perform_run_of_closing h turns hs).idle hs
  | spawn h threads config route asks turns =>
      cases hr : threads.refusal config with
      | none => exact (perform_spawn_of_closing h route asks turns hs hr).idle hs
      | some refusal => exact (perform_spawn_refused h route asks turns s hr).idle
  | runFile h threads files path mode turns =>
      by_cases hl : ∃ source place, Source.openFile files path = .ok source ∧
          s.placeFor threads mode = .ok place
      · obtain ⟨source, place, ho, hp⟩ := hl
        exact (perform_runFile_of_closing h turns hs ho hp).idle hs
      · have hlost := perform_runFile_lost h turns s
          fun source place ho hp => hl ⟨source, place, ho, hp⟩
        exact hlost.idle

end Operation

namespace Session

variable {s s' : Session ε}

/-- There is a place for a run unless its thread is refused. -/
theorem placeFor_ok {threads : Threads} {mode : RunMode} (s : Session ε)
    (hm : ∀ config, mode = .threaded config → threads.refusal config = none) :
    ∃ place, s.placeFor threads mode = .ok place := by
  cases mode with
  | inline => exact ⟨_, rfl⟩
  | threaded config => exact ⟨.worker (s.workerName config), by simp [placeFor, hm config rfl]⟩

/-- This is what becomes of operations on a closing session. -/
theorem atRest_of_closing (hs : s.state = .closing) : AtRest s where
  state := hs
  calls op := op.calls_of_closing hs
  quiet op := (op.perform_of_closing hs).1
  kept op := (op.perform_of_closing hs).2
  run h turns :=
    have hrests := Operation.perform_run_of_closing h turns hs
    ⟨hrests.session, hrests.outcome⟩
  spawn h threads config route asks turns hr :=
    have hrests := Operation.perform_spawn_of_closing h route asks turns hs hr
    ⟨hrests.session, hrests.outcome⟩
  runFile h threads files path mode turns s' hs' := by
    by_cases hl : ∃ source place, Source.openFile files path = .ok source ∧
        s.placeFor threads mode = .ok place
    · obtain ⟨source, place, ho, hp⟩ := hl
      have hrests := Operation.perform_runFile_of_closing h turns hs ho hp
      rw [← Option.some.inj (hrests.session.symm.trans hs')]
      exact ⟨rfl, hrests.outcome⟩
    · have hlost := Operation.perform_runFile_lost h turns s
        fun source place ho hp => hl ⟨source, place, ho, hp⟩
      rw [hlost.session] at hs'
      cases hs'
  runFile_returns h threads files path mode turns := by
    rintro ⟨source, ho⟩ hm
    obtain ⟨place, hp⟩ := s.placeFor_ok hm
    exact ⟨_, (Operation.perform_runFile_of_closing h turns hs ho hp).session⟩

/-- A session that is closing stays so for all its life. -/
theorem state_of_life {ops : List (Operation ε)} (hlife : Life s ops s')
    (hs : s.state = .closing) : s'.state = .closing := by
  induction hlife with
  | nil => exact hs
  | @cons s s₁ s₂ op ops hop _ ih => exact ih ((op.perform_of_closing hs).2 s₁ hop)

/-- **A session that is closed stays closing for all its life.** Let an operation close a session,
as such or by a line of the run that it begins. After that line nobody is called any more in that
run. If the session is given back, then whatever is done with it later, it is at rest: nobody is
called, nothing is read, dispatched or pushed, every run completes, and it stays closing. -/
theorem closes_absorbs (op : Operation ε) (s : Session ε) (hc : op.Closes s) :
    (∀ r, op.launch? s = some r →
      r.moments.Pairwise fun l l' => l.Closes r.host → l'.state = .closing ∧ l'.calls r.host = []) ∧
    ∀ s', (op.perform s).session? = some s' → ∀ ops s'', Life s' ops s'' → AtRest s'' := by
  refine ⟨fun r _ => (silenced_runAsked r.host r.asks r.turns r.cancellable r.session).1, ?_⟩
  intro s' hs' ops s'' hlife
  -- The operation gives back the session as its run has left it.
  have hclosing : s'.state = .closing := by
    rcases hc with rfl | ⟨r, hr, hline⟩
    · rw [← Option.some.inj hs']
      rfl
    · rw [Operation.state_of_perform hr hs']
      exact (silenced_runAsked r.host r.asks r.turns r.cancellable r.session).2 hline
  exact atRest_of_closing (state_of_life hlife hclosing)

/-- A script that reads another one, whose line asks for shutdown before it fails. -/
def closedByInclude : Session Console :=
  { number := 0, env := {}, primary := some (.ofText "main" false "a\nb\n") }

/-- What the lines of `closedByInclude` do. -/
def closedByIncludeHost : Host Console :=
  Playbook.host [
    ("a", { deeds := [.push (.ofText "x" false "c\nd\n")] }),
    ("c", { deeds := [.close], verdict := .scriptError })]

theorem closedByInclude_atRest :
    (Operation.run closedByIncludeHost 30).Closes closedByInclude ∧
      ∃ s, ((Operation.run closedByIncludeHost 30).perform closedByInclude).session? = some s ∧
        AtRest (s.setPrimary (.ofText "late" true "e\n")).1 := by
  have hcloses : (Operation.run closedByIncludeHost 30).Closes closedByInclude := by
    -- The sixth turn carries out the line of the script that was read.
    exact .inr ⟨_, rfl, (closedByInclude.moments closedByIncludeHost (fun _ => 0) 30 false)[5],
      List.getElem_mem _, by decide, .inl (by decide)⟩
  refine ⟨hcloses, _, rfl, ?_⟩
  exact (closes_absorbs _ closedByInclude hcloses).2 _ rfl [.setPrimary (.ofText "late" true "e\n")]
    _ (.cons rfl .nil)

end Session

end CommandShell
