import CommandShell.Session.Machine
import CommandShell.Session.Outcome
import CommandShell.Text.Inert

/-!
# Log records

Each kind of record is a constructor that holds its facts; `Record.level`, `Record.place`,
`Record.message` and `Record.fields` give the words. A record has two written forms: `Record.plain`
for a reader of records, and `Record.line` for the error output of the program.
-/

namespace CommandShell.Log

/-- **Level** — how grave a record is. -/
inductive Level
  | error
  | warn
  | info
  | debug
  | trace
  deriving DecidableEq, Repr

namespace Level

/-- The name of a level. -/
def name : Level → String
  | .error => "ERROR"
  | .warn => "WARN"
  | .info => "INFO"
  | .debug => "DEBUG"
  | .trace => "TRACE"

/-- How much a level lets through: a level lets through those of its rank and below. -/
def rank : Level → Nat
  | .error => 1
  | .warn => 2
  | .info => 3
  | .debug => 4
  | .trace => 5

end Level

/-- **Record** — something worth a line in the log. Sources, files and workers are held by their
shown names, sessions by their number. -/
inductive Record
  | sourcePushed (source : String) (primordial interactive : Bool) (depth : Nat)
  | sourcePopped (source : String) (lines depth : Nat)
  | sourceReleased (source : String)
  | stateChanged (before after : State)
  | loopNotStarted (session : Nat)
  | cancellationHonoured (session : Nat)
  | releasingRest (session depth : Nat)
  | readFailed (source reason : String)
  | scriptError (source : String) (line : Nat)
  | fatalLine (session : Nat)
  | loopFinished (session : Nat) (outcome : Outcome)
  | workerStarted (session : Nat)
  | workerSpawned (worker : String)
  | cancellationRequested (worker : String)
  | workerJoined (worker : String) (outcome : Outcome)
  | workerPanicked (worker : String)
  | scriptStarted (path : String)
  | scriptIncluded (path : String)
  | exitRequested
  | directorySkipped (directory reason : String)
  | definitionsLoaded (file : String)
  | definitionsRejected (reason : String)
  | greeting (version : String)
  | definitionsCounted (loaded failed commands : Nat)
  | programFailed (reason : String)
  deriving DecidableEq, Repr

/-- The name of the session with a number. -/
def sessionName (n : Nat) : String := s!"shell-{n}"

namespace Record

/-- The level of a record. -/
def level : Record → Level
  | .stateChanged .. => .trace
  | .sourcePushed .. | .sourcePopped .. | .sourceReleased .. | .loopNotStarted .. => .debug
  | .releasingRest .. | .loopFinished .. | .workerStarted .. | .cancellationRequested .. => .debug
  | .workerJoined .. | .scriptIncluded .. | .exitRequested => .debug
  | .directorySkipped .. | .definitionsLoaded .. => .debug
  | .cancellationHonoured .. | .workerSpawned .. | .scriptStarted .. => .info
  | .greeting .. | .definitionsCounted .. => .info
  | .readFailed .. | .scriptError .. | .fatalLine .. | .workerPanicked .. => .warn
  | .definitionsRejected .. => .warn
  | .programFailed .. => .error

/-- The part of the program that writes a record. -/
def place : Record → String
  | .sourcePushed .. | .sourcePopped .. | .sourceReleased .. => "clish_engine::session::input"
  | .stateChanged .. => "clish_engine::session::state"
  | .loopNotStarted .. | .cancellationHonoured .. | .releasingRest .. | .readFailed ..
  | .scriptError .. | .fatalLine .. | .loopFinished .. => "clish_engine::execution::exec_loop"
  | .workerStarted .. | .workerSpawned .. | .cancellationRequested .. | .workerJoined ..
  | .workerPanicked .. | .scriptStarted .. => "clish_engine::execution::driver"
  | .scriptIncluded .. => "clish_engine::execution::dispatch"
  | .exitRequested => "clish_engine::commands::builtins"
  | .directorySkipped .. | .definitionsLoaded .. | .definitionsRejected .. =>
    "clish_engine::definitions::discovery"
  | .greeting .. | .definitionsCounted .. | .programFailed .. => "clish"

/-- The message of a record. -/
def message : Record → String
  | .sourcePushed .. => "push input source"
  | .sourcePopped .. => "pop input source"
  | .sourceReleased .. => "release input source"
  | .stateChanged .. => "session state transition"
  | .loopNotStarted .. => "session closing, loop not started"
  | .cancellationHonoured .. => "cancellation honoured"
  | .releasingRest .. => "releasing remaining input sources"
  | .readFailed _ reason => s!"read failed: {reason}"
  | .scriptError .. => "script error"
  | .fatalLine .. => "fatal command, closing session"
  | .loopFinished .. => "loop finished"
  | .workerStarted .. => "worker started"
  | .workerSpawned .. => "worker spawned"
  | .cancellationRequested .. => "cancellation requested"
  | .workerJoined .. => "worker joined"
  | .workerPanicked .. => "worker panicked"
  | .scriptStarted .. => "running script"
  | .scriptIncluded .. => "include script"
  | .exitRequested => "exit requested"
  | .directorySkipped _ reason => s!"skipping search directory: {reason}"
  | .definitionsLoaded .. => "loaded definitions"
  | .definitionsRejected reason => reason
  | .greeting version => s!"clish v{version}"
  | .definitionsCounted .. => "definitions loaded"
  | .programFailed reason => reason

/-- The fields of a record: their names and values, in the order in which they are written. -/
def fields : Record → List (String × String)
  | .sourcePushed source primordial interactive depth =>
    [("source", source), ("primordial", toString primordial),
      ("interactive", toString interactive), ("depth", toString depth)]
  | .sourcePopped source lines depth =>
    [("source", source), ("lines", toString lines), ("depth", toString depth)]
  | .sourceReleased source => [("source", source)]
  | .stateChanged before after => [("from", before.name), ("to", after.name)]
  | .loopNotStarted session | .cancellationHonoured session | .fatalLine session
  | .workerStarted session => [("session", sessionName session)]
  | .releasingRest session depth => [("session", sessionName session), ("depth", toString depth)]
  | .readFailed source _ => [("source", source)]
  | .scriptError source line => [("source", source), ("line", toString line)]
  | .loopFinished session outcome => [("session", sessionName session), ("outcome", outcome.name)]
  | .workerSpawned worker | .cancellationRequested worker | .workerPanicked worker =>
    [("worker", worker)]
  | .workerJoined worker outcome => [("worker", worker), ("outcome", outcome.name)]
  | .scriptStarted path | .scriptIncluded path => [("path", path)]
  | .directorySkipped directory _ => [("dir", directory)]
  | .definitionsLoaded file => [("file", file)]
  | .definitionsCounted loaded failed commands =>
    [("loaded", toString loaded), ("failed", toString failed), ("commands", toString commands)]
  | .exitRequested | .definitionsRejected _ | .greeting _ | .programFailed _ => []

/-- The names of all parts of a record that hold a value, the message among them. -/
def fieldNames (r : Record) : List String := "message" :: r.fields.map (·.1)

/-- A message with the fields behind it. -/
def withFields (r : Record) (message : String) : String :=
  r.fields.foldl (fun text field => text ++ " " ++ field.1 ++ "=" ++ field.2) message

/-- **plain** — level, message and fields. -/
def plain (r : Record) : String := r.level.name ++ " " ++ r.withFields r.message

/-- **line** — level in a column of five, place, message and fields. The message cannot steer the
terminal on which it is shown; the fields are written as they are. -/
def line (r : Record) : String :=
  let name := r.level.name
  "".pushn ' ' (5 - name.length) ++ name ++ " " ++ r.place ++ ": "
    ++ r.withFields (Text.inert r.message)

end Record

end CommandShell.Log
