/-!
# The states of a session

A session is ready, unwinding after a script error, or closing for good. The loop reports what
happened as a **signal**, and `State.respond` gives the next **move** together with the new state.
The table is small: a closing session only unwinds, a script error is forgiven where an interactive
source is reached, and everything else follows the course of a line from reading to dispatch.
-/

namespace CommandShell

/-- **State** — the condition of a session. -/
inductive State
  /-- Lines are read and dispatched. -/
  | ready
  /-- A line failed, and the sources that are not interactive are being left. -/
  | scriptError
  /-- The session is shutting down. -/
  | closing
  deriving DecidableEq, Repr

/-- **Signal** — what the loop reports. -/
inductive Signal
  /-- An iteration begins on a source of the given kind. -/
  | iteration (interactive : Bool)
  /-- The source gave a line. -/
  | gotLine
  /-- The source is at its end or cannot be read. -/
  | noLine
  /-- The line succeeded. -/
  | lineDone
  /-- The line failed. -/
  | lineFailed
  /-- The line asked for the end of the session. -/
  | closeAsked
  /-- A source was left; some may remain below it. -/
  | sourceLeft (remaining : Bool)
  deriving DecidableEq, Repr

/-- **Move** — what the loop does next. -/
inductive Move
  /-- Read a line from the current source. -/
  | read
  /-- Hand the line to the dispatcher. -/
  | dispatch
  /-- Leave the current source. -/
  | unwind
  /-- Begin the next iteration. -/
  | begin
  /-- Leave the loop. -/
  | stop
  deriving DecidableEq, Repr

namespace State

/-- The name of a state in log records and in summaries. -/
def name : State → String
  | .ready => "Ready"
  | .scriptError => "ScriptError"
  | .closing => "Closing"

/-- Shutdown is asked for; it is never taken back. -/
def close (_ : State) : State := .closing

/-- A script error left by an earlier run is forgotten; a closing session stays so. -/
def recover : State → State
  | .scriptError => .ready
  | s => s

/-- **respond** — the next state and the next move after a signal. -/
def respond : State → Signal → State × Move
  | .closing, .sourceLeft false => (.closing, .stop)
  | .closing, _ => (.closing, .unwind)
  | .scriptError, .iteration true => (.ready, .read)
  | .scriptError, .iteration false => (.scriptError, .unwind)
  | .ready, .iteration _ => (.ready, .read)
  | s, .gotLine => (s, .dispatch)
  | s, .noLine => (s, .unwind)
  | s, .lineDone => (s, .begin)
  | _, .lineFailed => (.scriptError, .begin)
  | _, .closeAsked => (.closing, .unwind)
  | s, .sourceLeft true => (s, .begin)
  | s, .sourceLeft false => (s, .stop)

end State

end CommandShell
