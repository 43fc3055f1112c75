import CommandShell.Session.Loop

/-!
# Sessions

A session lives through any number of runs. Between two runs its stack is empty; it keeps its state,
the state of its host, and perhaps a **primary input**, the source with which the next run starts.
Without one a run starts on standard input. A closing session starts no run and keeps its primary
input.
-/

namespace CommandShell

open CommandShell.Log

/-- **Session** — a shell session between two runs. -/
structure Session (ε : Type) where
  /-- Its number, unique in the program. -/
  number : Nat
  state : State := .ready
  stack : Stack := .empty
  primary : Option Source := none
  env : ε

/-- **Run** — the events of a run, the session after it, and how the loop was left. There is no exit
if the number of turns did not suffice. -/
structure Run (ε : Type) where
  events : List Event
  session : Session ε
  exit : Option Exit

namespace Session

variable {ε : Type}

/-- The session with a number and its host in a given state. -/
def create (number : Nat) (env : ε) : Session ε := { number, env }

/-- The name of the session. -/
def name (s : Session ε) : String := sessionName s.number

/-- The events of giving up a source that was waiting. -/
def giveUp (waiting : Option Source) : List Event := waiting.toList.map Event.released

/-- **setPrimary** — sets the source with which the next run starts; one that was waiting is
released. -/
def setPrimary (s : Session ε) (source : Source) : Session ε × List Event :=
  ({ s with primary := some source }, giveUp s.primary)

/-- **releasePrimary** — releases the source that is waiting, if there is one. -/
def releasePrimary (s : Session ε) : Session ε × List Event :=
  ({ s with primary := none }, giveUp s.primary)

/-- **close** — asks for shutdown. -/
def close (s : Session ε) : Session ε × List Event :=
  ({ s with state := s.state.close }, Loop.transition s.state s.state.close)

/-- **discard** — the events of the end of a session. -/
def discard (s : Session ε) : List Event := s.stack.clear.2 ++ giveUp s.primary

/-- The first source of a run. -/
def firstSource (h : Host ε) (s : Session ε) : Source := s.primary.getD h.standardInput

/-- **enter** — the loop of a new run, with the events up to its first turn. -/
def enter (h : Host ε) (cancellable : Bool) (s : Session ε) : Loop ε × List Event :=
  let state := s.state.recover
  let (stack, events) := s.stack.push (s.firstSource h) true
  ({ session := s.number, state, stack, env := s.env, cancellable },
    Loop.transition s.state state ++ events)

/-- The session as a loop leaves it. -/
def ofLoop (l : Loop ε) : Session ε :=
  { number := l.session, state := l.state, stack := l.stack, primary := none, env := l.env }

/-- **run** — a run of up to `turns` turns. A closing session completes at once. -/
def run (h : Host ε) (turns : Nat) (cancellable : Bool) (s : Session ε) : Run ε :=
  if s.state = .closing then
    { events := [.logged (.loopNotStarted s.number)], session := s,
      exit := some (.outcome .completed) }
  else
    let (loop, events) := s.enter h cancellable
    let turn := loop.follow h turns
    { events := events ++ turn.events, session := ofLoop turn.loop, exit := turn.exit }

/-- A summary of a session. -/
def summary (s : Session ε) : String :=
  let primary := match s.primary with
    | none => "None"
    | some source => "Some(" ++ source.summary ++ ")"
  "Session \x7b id: SessionId(" ++ toString s.number ++ "), state: " ++ s.state.name
    ++ ", inputs: " ++ s.stack.summary ++ ", primary: " ++ primary ++ ", .. \x7d"

end Session

end CommandShell
