/-!
# How a run of a session ends

A run completes, is stopped by an error, or honours a request to cancel it. A dispatched line ends
with a verdict. A collaborator may also break off altogether: this is a `Panic`, which is no verdict
and no outcome.
-/

namespace CommandShell

/-- **Verdict** — how a dispatched line ended. -/
inductive Verdict
  | ok
  /-- The line failed: sources that are not interactive are left. -/
  | scriptError
  /-- The session cannot go on. -/
  | fatal
  deriving DecidableEq, Repr

/-- **Outcome** — how a run ended. -/
inductive Outcome
  /-- The first source came to its end, or shutdown was asked for. -/
  | completed
  /-- A script error or a fatal line left the first source. -/
  | stoppedOnError
  /-- A request to cancel was honoured. -/
  | cancelled
  deriving DecidableEq, Repr

/-- **Panic** — a collaborator broke off with a message. -/
structure Panic where
  message : String
  deriving DecidableEq, Repr

/-- The name of a verdict. -/
def Verdict.name : Verdict → String
  | .ok => "Ok"
  | .scriptError => "ScriptError"
  | .fatal => "Fatal"

namespace Outcome

/-- The name of an outcome in log records. -/
def name : Outcome → String
  | .completed => "Completed"
  | .stoppedOnError => "StoppedOnError"
  | .cancelled => "Cancelled"

/-- Whether the run came to a result of its own. -/
def isNormal : Outcome → Bool
  | .cancelled => false
  | _ => true

end Outcome

end CommandShell
