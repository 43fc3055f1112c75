import CommandShell.Proofs.Session.Calls
import CommandShell.Session.Worker

/-!
# The life of a session

Between two runs a session can be closed, given a primary input or relieved of it, run on the thread
of the caller or on a worker, and run with a script. An `Operation` is one of these, `perform` does
it, and a `Life` is any sequence of operations each of which gives the session back: a session that
is lost, because its worker panicked or could not be made, has no more life.

A worker may be asked to stop at any moment. `Session.spawnAsked` says before which turns it is; one
that is never asked from outside is `Session.spawn` (`spawnAsked_none`). `Operation.launch?` is the
run that an operation begins, if it begins one.
-/

namespace CommandShell

open CommandShell.Files

variable {ε : Type}

/-! ## Workers that are asked to stop -/

namespace Session

/-- **spawnAsked** — a run on a worker that is waited for, and is asked to stop `asks i` times from
outside before turn `i`. -/
def spawnAsked (h : Host ε) (threads : Threads) (asks : Nat → Nat) (turns : Nat)
    (config : WorkerSettings) (route : Option CancelRoute) (s : Session ε) : Report ε :=
  match s.placeFor threads (.threaded config) with
  | .error refusal => s.turnAway refusal
  | .ok place =>
    let r := s.runAsked h asks turns route.isSome
    place.dismiss (place.engage s.number ++ place.during route r.events) r

/-- A worker that is never asked from outside. -/
theorem spawnAsked_none (h : Host ε) (threads : Threads) (turns : Nat) (config : WorkerSettings)
    (route : Option CancelRoute) (s : Session ε) :
    s.spawnAsked h threads (fun _ => 0) turns config route =
      s.spawn h threads turns config route := by
  rw [spawnAsked, spawn, runIn]
  cases s.placeFor threads (.threaded config) with
  | error refusal => rfl
  | ok place => simp only [employ, runAsked_none]

end Session

/-! ## Operations -/

/-- **Operation** — what can be done with a session between two runs. -/
inductive Operation (ε : Type)
  | close
  | setPrimary (source : Source)
  | releasePrimary
  /-- A run on the thread of the caller. -/
  | run (h : Host ε) (turns : Nat)
  /-- A run on a worker that is waited for, and asked to stop `asks i` times before turn `i`. -/
  | spawn (h : Host ε) (threads : Threads) (config : WorkerSettings) (route : Option CancelRoute)
    (asks : Nat → Nat) (turns : Nat)
  /-- A run that starts with the file at a path. -/
  | runFile (h : Host ε) (threads : Threads) (files : FileSystem) (path : Path) (mode : RunMode)
    (turns : Nat)

/-- **Reply** — what an operation gives: its events, the session if it is given back, and the
outcome of its run if the run came to one. -/
structure Reply (ε : Type) where
  events : List Event
  session? : Option (Session ε)
  outcome? : Option Outcome := none

/-- The reply to a run on the thread of the caller, who keeps the session even if it panics. -/
def Reply.ofRun (r : Run ε) : Reply ε where
  events := r.events
  session? := r.exit.map fun _ => r.session
  outcome? := match r.exit with
    | some (.outcome o) => some o
    | _ => none

/-- The reply to an operation that takes the session over. -/
def Reply.ofReport (r : Report ε) : Reply ε where
  events := r.transcript.events
  session? := match r.ending with
    | .completed s _ => some s
    | _ => none
  outcome? := match r.ending with
    | .completed _ o => some o
    | _ => none

/-- **Launch** — a run that is about to begin. -/
structure Launch (ε : Type) where
  host : Host ε
  asks : Nat → Nat := fun _ => 0
  turns : Nat
  cancellable : Bool := false
  session : Session ε

namespace Launch

/-- The loops in which the turns of the run are taken. -/
def moments (r : Launch ε) : List (Loop ε) := r.session.moments r.host r.asks r.turns r.cancellable

/-- The calls of the run. -/
def calls (r : Launch ε) : List Call := r.session.calls r.host r.asks r.turns r.cancellable

/-- The run itself. -/
def run (r : Launch ε) : Run ε := r.session.runAsked r.host r.asks r.turns r.cancellable

end Launch

namespace Operation

/-- **perform** — does the operation. -/
def perform : Operation ε → Session ε → Reply ε
  | close, s => { events := s.close.2, session? := some s.close.1 }
  | setPrimary source, s =>
    { events := (s.setPrimary source).2, session? := some (s.setPrimary source).1 }
  | releasePrimary, s => { events := s.releasePrimary.2, session? := some s.releasePrimary.1 }
  | run h turns, s => .ofRun (s.run h turns false)
  | spawn h threads config route asks turns, s =>
    .ofReport (s.spawnAsked h threads asks turns config route)
  | runFile h threads files path mode turns, s =>
    .ofReport (s.runFile h threads files turns path mode)

/-- **launch?** — the run that the operation begins. There is none if its thread cannot be made or
its script cannot be opened. -/
def launch? : Operation ε → Session ε → Option (Launch ε)
  | run h turns, s => some { host := h, turns, session := s }
  | spawn h threads config route asks turns, s =>
    match s.placeFor threads (.threaded config) with
    | .error _ => none
    | .ok _ => some { host := h, asks, turns, cancellable := route.isSome, session := s }
  | runFile h threads files path mode turns, s =>
    match s.takeScript files path with
    | .error _ => none
    | .ok (s, _) =>
      match s.placeFor threads mode with
      | .error _ => none
      | .ok _ => some { host := h, turns, session := s }
  | _, _ => none

/-- The calls of the run that the operation begins. -/
def calls (op : Operation ε) (s : Session ε) : List Call :=
  (op.launch? s).elim [] Launch.calls

end Operation

/-! ## Lives -/

/-- **Life** — the operations lead from one session to another, each giving the session back. -/
inductive Life : Session ε → List (Operation ε) → Session ε → Prop
  | nil {s} : Life s [] s
  | cons {s s' s'' op ops} : (op.perform s).session? = some s' → Life s' ops s'' →
      Life s (op :: ops) s''

end CommandShell
