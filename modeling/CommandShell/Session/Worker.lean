import CommandShell.Session.Basic

/-!
# Workers: sessions that run on a thread of their own

A run takes place on the thread of the caller or on a **worker**. A worker takes the session over
and gives it back when it is done; if its thread cannot be made, or the run panics, the session is
lost and all that it held is released. To ask for a thread may itself panic, on the thread of the
caller. The transcript of such an operation tells for every event which thread it belongs to.
-/

namespace CommandShell

open CommandShell.Text
open CommandShell.Files
open CommandShell.Log

/-- **WorkerSettings** — settings of the thread of a worker. -/
structure WorkerSettings where
  /-- Its name; the name of the session if there is none. -/
  name : Option String := none
  /-- Its stack size in bytes. -/
  stackSize : Option Nat := none
  deriving DecidableEq, Repr

/-- **RunMode** — where a run takes place. -/
inductive RunMode
  | inline
  | threaded (config : WorkerSettings)
  deriving DecidableEq, Repr

/-- **Refusal** — why no thread is made. -/
inductive Refusal
  | fails (reason : IoFault)
  /-- To ask for the thread panics. -/
  | panics (p : Panic)
  deriving DecidableEq, Repr

/-- **Threads** — whether a thread can be made, and why not. -/
structure Threads where
  refusal : WorkerSettings → Option Refusal

namespace Threads

/-- How many bytes have an address. -/
def addressCount : Nat := 0x10000000000000000

/-- The pages behind a stack that are kept out of use. -/
def guardSize : Nat := 4096

/-- What stands in the way of a stack of a given size, which is made of blocks of 64 bytes: with its
guard it must not have more bytes than there are addresses, nor need more memory than there is,
should that be known. -/
def stackRefusal (memory : Option Nat) (size : Nat) : Option IoFault :=
  if addressCount ≤ size / 64 * 64 + guardSize then some (.os .invalidArgument)
  else if memory.any (· < size + guardSize) then some (.os .tryAgain)
  else none

/-- The name of a thread has no zero byte in it. The panic tells where the first one is, and the
bytes of the name. -/
def namePanic (name : String) : Option Panic :=
  let bytes := encode name
  if 0 ∈ bytes then
    some ⟨"thread name may not contain interior null bytes: NulError("
      ++ toString (bytes.idxOf 0) ++ ", " ++ toString bytes ++ ")"⟩
  else none

/-- Threads are made if their names and their stacks can be, with so many bytes of memory at hand;
nothing means no limit. -/
def ofMemory (memory : Option Nat) : Threads where
  refusal config :=
    ((config.name.bind namePanic).map .panics).or
      ((config.stackSize.bind (stackRefusal memory)).map .fails)

end Threads

/-- **Thread** — which thread an event belongs to. -/
inductive Thread
  | caller
  | worker
  deriving DecidableEq, Repr

/-- **Transcript** — events with their threads, in order. -/
abbrev Transcript := List (Thread × Event)

namespace Transcript

/-- The events of a transcript. -/
def events (t : Transcript) : List Event := t.map (·.2)

/-- The events of one thread. -/
def eventsOn (thread : Thread) (t : Transcript) : List Event :=
  (t.filter fun entry => entry.1 == thread).map (·.2)

/-- Events of the thread of the caller. -/
def ofCaller (events : List Event) : Transcript := events.map ((.caller, ·))

end Transcript

/-- **CancelRoute** — how a worker is asked to stop. -/
inductive CancelRoute
  /-- Through a token, silently. -/
  | token
  /-- Through the handle of the worker, which writes a record. -/
  | handle
  deriving DecidableEq, Repr

/-- **Ending** — what an operation that takes a session over gives back. -/
inductive Ending (ε : Type)
  | completed (session : Session ε) (outcome : Outcome)
  /-- The session is lost; its host is left in the given state. -/
  | failed (error : ShellError) (env : ε)
  /-- A panic reached the caller, and the session is lost. -/
  | panicked (panic : Panic) (env : ε)
  /-- The number of turns did not suffice. -/
  | unfinished (session : Session ε)

/-- **Report** — the transcript of an operation and its ending. -/
structure Report (ε : Type) where
  transcript : Transcript
  ending : Ending ε

/-- Gives up the primary input of a session that never took it. -/
def Report.settle {ε : Type} (r : Report ε) : Report ε :=
  match r.ending with
  | .completed session o =>
    let (session, events) := session.releasePrimary
    { transcript := r.transcript ++ Transcript.ofCaller events, ending := .completed session o }
  | _ => r

/-! ## Where a run takes place -/

/-- **Place** — the thread of a run: that of the caller, or a worker with a name. -/
inductive Place
  | caller
  | worker (name : String)
  deriving DecidableEq, Repr

namespace Place

variable {ε : Type}

/-- The thread of the place. -/
def thread : Place → Thread
  | .caller => .caller
  | .worker _ => .worker

/-- **engage** — what is told of the session with the given number before its run begins. -/
def engage (p : Place) (session : Nat) : Transcript :=
  match p with
  | .caller => []
  | .worker name =>
    [(.caller, .logged (.workerSpawned name)), (.worker, .logged (.workerStarted session))]

/-- **during** — the events of the run, with the records that the caller writes when it asks the
worker to stop. -/
def during (p : Place) (route : Option CancelRoute) (events : List Event) : Transcript :=
  events.flatMap fun e =>
    match p, e, route with
    | .worker name, .cancelAsked, some .handle =>
      [(.worker, e), (.caller, .logged (.cancellationRequested name))]
    | _, _, _ => [(p.thread, e)]

/-- **dismiss** — the end of a run. The caller gets the session back; a worker that panicked has
lost it, and on the thread of the caller the panic goes on. -/
def dismiss (p : Place) (soFar : Transcript) (r : Run ε) : Report ε :=
  match r.exit, p with
  | none, _ => { transcript := soFar, ending := .unfinished r.session }
  | some (.outcome o), .caller => { transcript := soFar, ending := .completed r.session o }
  | some (.outcome o), .worker name =>
    { transcript := soFar ++ [(.caller, .logged (.workerJoined name o))],
      ending := .completed r.session o }
  | some (.panicked cause), .caller =>
    { transcript := soFar ++ r.session.discard.map ((.caller, ·)),
      ending := .panicked cause r.session.env }
  | some (.panicked _), .worker name =>
    { transcript := soFar ++ r.session.discard.map ((.worker, ·))
        ++ [(.caller, .logged (.workerPanicked name))],
      ending := .failed .workerPanicked r.session.env }

end Place

/-! ## Sessions at a place -/

namespace Session

variable {ε : Type}

/-- The name of the worker of a session. -/
def workerName (config : WorkerSettings) (s : Session ε) : String := config.name.getD s.name

/-- The end of a session that is lost. -/
def lose (before : Transcript) (s : Session ε) (e : ShellError) : Report ε :=
  { transcript := before ++ Transcript.ofCaller s.discard, ending := .failed e s.env }

/-- **employ** — a run at a place. Requests to cancel are taken if a route for them is given. -/
def employ (h : Host ε) (turns : Nat) (place : Place) (route : Option CancelRoute)
    (s : Session ε) : Report ε :=
  let r := s.run h turns route.isSome
  place.dismiss (place.engage s.number ++ place.during route r.events) r

/-- The place of a run in the given mode, or why there is none. -/
def placeFor (threads : Threads) (mode : RunMode) (s : Session ε) : Except Refusal Place :=
  match mode with
  | .inline => .ok .caller
  | .threaded config =>
    match threads.refusal config with
    | some refusal => .error refusal
    | none => .ok (.worker (s.workerName config))

/-- The end of a session that gets no thread. -/
def turnAway (s : Session ε) : Refusal → Report ε
  | .fails reason => lose [] s (.threadSpawn reason)
  | .panics p => { transcript := Transcript.ofCaller s.discard, ending := .panicked p s.env }

/-- A run in either mode that takes the session over. -/
def runIn (h : Host ε) (threads : Threads) (turns : Nat) (mode : RunMode)
    (route : Option CancelRoute) (s : Session ε) : Report ε :=
  match s.placeFor threads mode with
  | .error refusal => s.turnAway refusal
  | .ok place => s.employ h turns place route

/-- **spawn** — a run on a worker that is waited for. -/
def spawn (h : Host ε) (threads : Threads) (turns : Nat) (config : WorkerSettings)
    (route : Option CancelRoute) (s : Session ε) : Report ε :=
  s.runIn h threads turns (.threaded config) route

/-- **takeScript** — the session with the file at a path as its primary input. -/
def takeScript (fs : FileSystem) (path : Path) (s : Session ε) :
    Except ShellError (Session ε × List Event) :=
  (Source.openFile fs path).map fun source =>
    let (s, events) := s.setPrimary source
    (s, .logged (.scriptStarted path.shown) :: events)

/-- **runFile** — a run that starts with the file at a path. A file that cannot be opened fails
before anything is run. The file is released on every way out. -/
def runFile (h : Host ε) (threads : Threads) (fs : FileSystem) (turns : Nat) (path : Path)
    (mode : RunMode) (s : Session ε) : Report ε :=
  match s.takeScript fs path with
  | .error e => lose [] s e
  | .ok (s, events) =>
    let r := s.runIn h threads turns mode none
    { r with transcript := Transcript.ofCaller events ++ r.transcript : Report ε }.settle

end Session

end CommandShell
