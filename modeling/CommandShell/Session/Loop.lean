import CommandShell.Session.Host
import CommandShell.Session.Stack

/-!
# The loop that reads and dispatches lines

`Loop` is the state of a run and `step` one turn of it: it makes the pending move, signals what
happened to the state of the session, and takes over the next move. A turn gives its events and, if
the run is over, its **exit**: an outcome, or the panic of a collaborator. A request to cancel is
looked at only where an iteration begins. On every exit the sources that are left are released.

A run may be endless, so `follow` takes a number of turns; `follow_zero` and `follow_succ` are its
equations.
-/

namespace CommandShell

open CommandShell.Log

/-- **Exit** — how the loop was left. -/
inductive Exit
  | outcome (o : Outcome)
  | panicked (p : Panic)
  deriving DecidableEq, Repr

/-- **Loop** — a run under way. -/
structure Loop (ε : Type) where
  /-- The number of the session. -/
  session : Nat
  state : State
  stack : Stack
  env : ε
  /-- What is to be done next. -/
  next : Move := .begin
  /-- The line read last. -/
  line : String := ""
  /-- Whether a line was fatal. -/
  fatal : Bool := false
  /-- Whether requests to cancel are taken. -/
  cancellable : Bool
  /-- Whether one was taken. -/
  cancelled : Bool := false

/-- **Turn** — the events of a turn, the run after it, and the exit if the run is over. -/
structure Turn (ε : Type) where
  events : List Event
  loop : Loop ε
  exit : Option Exit := none

namespace Loop

variable {ε : Type}

/-- The record of a change of state; none if it stays. -/
def transition (before after : State) : List Event :=
  if before = after then [] else [.logged (.stateChanged before after)]

/-- **report** — signals what happened and takes over the next move. -/
def report (l : Loop ε) (e : Signal) : Loop ε × List Event :=
  let (state, next) := l.state.respond e
  ({ l with state, next }, transition l.state state)

/-- A turn that goes on after a signal. -/
def goOn (l : Loop ε) (events : List Event) (e : Signal) : Turn ε :=
  let (l, more) := l.report e
  { events := events ++ more, loop := l }

/-- **release** — releases the sources that are left. -/
def release (l : Loop ε) : Loop ε × List Event :=
  if l.stack.isEmpty then (l, [])
  else
    let (stack, events) := l.stack.clear
    ({ l with stack }, .logged (.releasingRest l.session l.stack.depth) :: events)

/-- Leaves the loop. -/
def leave (l : Loop ε) (events : List Event) (e : Exit) : Turn ε :=
  let (l, more) := l.release
  { events := events ++ more, loop := l, exit := some e }

/-- The outcome that a run has where it ends of itself. -/
def outcome (l : Loop ε) : Outcome :=
  if l.fatal || l.state = .scriptError then .stoppedOnError else .completed

/-- Leaves the loop where it ends of itself. -/
def finish (l : Loop ε) : Turn ε :=
  l.leave [.logged (.loopFinished l.session l.outcome)] (.outcome l.outcome)

/-- Takes requests to cancel, if such requests are taken. -/
def askCancel (l : Loop ε) (times : Nat) : Loop ε × List Event :=
  if l.cancellable then
    ({ l with cancelled := l.cancelled || 0 < times }, List.replicate times .cancelAsked)
  else (l, [])

/-- **begin** — the beginning of an iteration, where a request to cancel is honoured. -/
def begin (h : Host ε) (l : Loop ε) : Turn ε :=
  if l.cancelled then
    l.leave [.logged (.cancellationHonoured l.session)] (.outcome .cancelled)
  else match l.stack.current? with
    | none => l.finish
    | some source =>
      let inspection := h.interactive l.env source
      let l := { l with env := inspection.env }
      match inspection.result with
      | .error p => l.leave [] (.panicked p)
      | .ok interactive =>
        l.goOn [.started source.name interactive] (.iteration interactive)

/-- **readLine** — reads a line from the current source, whose place the reader may give to another
one. A line that cannot be read ends the source, and the record names the one that is there then. -/
def readLine (h : Host ε) (l : Loop ε) : Turn ε :=
  match l.stack.current? with
  | none => l.finish
  | some source =>
    let reading := h.read l.env source
    let l := { l with
      stack := l.stack.mapCurrent fun _ => reading.source
      env := reading.env }
    let (l, asked) := l.askCancel reading.cancels
    let events := reading.notes.map Event.noted ++ asked
    match reading.result with
    | .error p => l.leave events (.panicked p)
    | .ok (.line text) =>
      let l := { l with stack := l.stack.mapCurrent Source.countLine, line := text }
      l.goOn (events ++ [.lineRead source.name source.linesRead (some text)]) .gotLine
    | .ok .endOfInput =>
      l.goOn (events ++ [.lineRead source.name source.linesRead none]) .noLine
    | .ok (.failed reason) =>
      l.goOn
        (events ++ [.readFailed source.name source.linesRead reason.message,
          .logged (.readFailed reading.source.name reason.message)])
        .noLine

/-- **carryOut** — does what a dispatcher asks for. -/
def carryOut (l : Loop ε) : Request → Loop ε × List Event
  | .push source =>
    let (stack, events) := l.stack.push source false
    ({ l with stack }, events)
  | .close => ({ l with state := l.state.close }, transition l.state l.state.close)
  | .cancel => l.askCancel 1
  | .note n => (l, [.noted n])

/-- Does all that a dispatcher asks for, in order. -/
def carryOutAll (l : Loop ε) : List Request → Loop ε × List Event
  | [] => (l, [])
  | r :: rest =>
    let (l, events) := l.carryOut r
    let (l, more) := l.carryOutAll rest
    (l, events ++ more)

/-- The record of a line that failed. It names the source that is current after the line, and the
count of the lines read from that one. -/
def scriptErrorRecord (s : Stack) : List Event :=
  match s.current? with
  | none => []
  | some source => [.logged (.scriptError source.name source.linesRead)]

/-- **dispatch** — hands the line to the dispatcher. -/
def dispatch (h : Host ε) (l : Loop ε) : Turn ε :=
  let line := l.line
  let reaction := h.execute l.env line l.stack.depth
  let (l, events) := { l with env := reaction.env }.carryOutAll reaction.requests
  match reaction.result with
  | .error p => l.leave events (.panicked p)
  | .ok verdict =>
    let events := events ++ [.dispatched line verdict l.stack.depth]
    match verdict with
    | .ok => l.goOn events .lineDone
    | .scriptError => l.goOn (events ++ scriptErrorRecord l.stack) .lineFailed
    | .fatal =>
      goOn { l with fatal := true } (events ++ [Event.logged (.fatalLine l.session)])
        .closeAsked

/-- **unwind** — leaves the current source. -/
def unwind (l : Loop ε) : Turn ε :=
  let (stack, remaining, events) := l.stack.pop
  { l with stack }.goOn events (.sourceLeft remaining)

/-- **step** — one turn: the pending move is made. -/
def step (h : Host ε) (l : Loop ε) : Turn ε :=
  match l.next with
  | .begin => l.begin h
  | .read => l.readLine h
  | .dispatch => l.dispatch h
  | .unwind => l.unwind
  | .stop => l.finish

/-- Takes up to `n` turns, with the events so far in reverse order. -/
def followFrom (h : Host ε) : Nat → Loop ε → List Event → Turn ε
  | 0, l, past => { events := past.reverse, loop := l }
  | n + 1, l, past =>
    let turn := l.step h
    match turn.exit with
    | some e =>
      { events := (turn.events.reverse ++ past).reverse, loop := turn.loop, exit := some e }
    | none => followFrom h n turn.loop (turn.events.reverse ++ past)

/-- **follow** — takes up to `n` turns and gives all their events; there is no exit if the run is
not over by then. -/
def follow (h : Host ε) (n : Nat) (l : Loop ε) : Turn ε := followFrom h n l []

/-- The events so far stand before those of the turns that follow. -/
theorem followFrom_eq (h : Host ε) (n : Nat) (l : Loop ε) (past : List Event) :
    followFrom h n l past =
      { follow h n l with events := past.reverse ++ (follow h n l).events } := by
  unfold follow
  induction n generalizing l past with
  | zero => simp [followFrom]
  | succ n ih =>
    simp only [followFrom]
    split
    · simp
    · rw [ih, ih (l.step h).loop ((l.step h).events.reverse ++ [])]
      simp

/-- No turn, no event. -/
theorem follow_zero (h : Host ε) (l : Loop ε) : follow h 0 l = { events := [], loop := l } := rfl

/-- One turn, and the others if the run is not over. -/
theorem follow_succ (h : Host ε) (n : Nat) (l : Loop ε) :
    follow h (n + 1) l =
      match (l.step h).exit with
      | some e => { events := (l.step h).events, loop := (l.step h).loop, exit := some e }
      | none =>
        { follow h n (l.step h).loop with
          events := (l.step h).events ++ (follow h n (l.step h).loop).events } := by
  rw [follow, followFrom]
  split
  · rename_i e he; simp
  · rename_i he; simp [followFrom_eq]

end Loop

end CommandShell
