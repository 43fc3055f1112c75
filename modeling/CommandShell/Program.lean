import CommandShell.Command.Builtin
import CommandShell.CommandLine.Help
import CommandShell.Config.Basic
import CommandShell.Log.Filter

/-!
# The program

The program reads its command line and its configuration, loads the definition files, and runs one
session: with the named script, or with standard input. It ends with exit code 2 if the command line
or the configuration is refused, 1 if the script cannot be opened or the run is stopped by an error,
130 if the run is cancelled, and 0 otherwise. A panic on the thread of the caller ends a named
script with exit code 1 and the program itself, if it reads standard input, with exit code 101.

`Program.run` is the whole program as a function of what surrounds it. Its parts are of use on their
own to a program that reads its input piece by piece.
-/

namespace CommandShell

open CommandShell.Text
open CommandShell.Files
open CommandShell.Log
open CommandShell.CommandLine

namespace Program

/-- **Surroundings** — what the program finds when it starts. -/
structure Surroundings where
  /-- The command line without the name of the program. -/
  arguments : List Bytes
  environment : Config.Variables
  files : FileSystem
  threads : Threads := .ofMemory none
  /-- How many more files the program can keep open while one is open; nothing means no limit. -/
  spareFiles : Option Nat := none
  /-- Standard input, which is no terminal. -/
  input : Bytes

/-- **ExitCode** — the number with which the program ends. -/
abbrev ExitCode := Nat

/-- The exit code after an outcome. -/
def exitCode : Outcome → ExitCode
  | .completed => 0
  | .stoppedOnError => 1
  | .cancelled => 130

/-- **Start** — what a command line leads to. -/
inductive Start
  /-- The command line is refused. -/
  | refused (f : ArgumentFault)
  | help
  | version
  | session (o : Options)
  deriving DecidableEq, Repr

/-- What a command line leads to. Help comes before the version. -/
def start (arguments : List Bytes) : Start :=
  match Options.parse arguments with
  | .error f => .refused f
  | .ok o => if o.help then .help else if o.version then .version else .session o

/-- A line of error output. -/
def complaint (text : String) : Event := .noted (.wrote .errors (encode (text ++ "\n")))

/-- A line of output. -/
def announcement (text : String) : Event := .noted (.wrote .output (encode (text ++ "\n")))

/-- The events of refusing a command line. -/
def refusal (f : ArgumentFault) : List Event :=
  [complaint ("error: " ++ f.message), complaint "Try 'clish --help' for more information."]

/-- The events of refusing a configuration. -/
def configRefusal (f : ConfigFault) : List Event := [complaint ("error: " ++ f.message)]

/-- **Prepared** — what is at hand when the session starts. -/
structure Prepared where
  config : Config
  filter : Filter
  table : Table
  /-- The records of the preparation. -/
  events : List Event

/-- **prepare** — loads the definition files. -/
def prepare (fs : FileSystem) (vars : Config.Variables) (c : Config) : Prepared :=
  let pass := c.searchPath.loadAll fs (SearchPath.tableLoader fs) .empty
  { config := c
    filter := .choose c.logFilter (vars "RUST_LOG")
    table := pass.state
    events := .logged (.greeting version) :: pass.events
      ++ [.logged (.definitionsCounted pass.report.loaded.length pass.report.failed.length
        pass.state.size)] }

/-- How many scripts can be open on top of the first source of the session. A script that is named
is an open file itself; standard input is not, and leaves room for one more. -/
def roomFor (spareFiles : Option Nat) (o : Options) : Option Nat :=
  spareFiles.map fun spare => if o.file.isSome then spare else spare + 1

/-- The host of the session: lines are read as at a terminal, and the table is at hand. -/
def host (fs : FileSystem) (room : Option Nat) (p : Prepared) : Host Console :=
  LineReader.host { kind := .editor false, prompt := p.config.shell.prompt } []
    (Builtins.execute { files := fs, table := p.table, room })

/-- The number of the session of the program. -/
def sessionNumber : Nat := 1

/-- **Answer** — the exit code, which is missing if the number of turns did not suffice, the filter
of the log, and everything that happened. -/
structure Answer where
  code : Option ExitCode
  filter : Filter := .standard
  events : List Event

/-- The exit code after a session, and the record of what went wrong. A named script runs in a task
of its own, so that a panic there is a failure of the task; otherwise it ends the program. What the
runtime itself says about a panic is left out. -/
def conclude (o : Options) (e : Ending Console) : Option ExitCode × List Event :=
  match e with
  | .completed _ outcome => (some (exitCode outcome), [])
  | .failed error _ => (some 1, [.logged (.programFailed error.message)])
  | .panicked p _ =>
    if o.file.isSome then
      (some 1, [.logged (.programFailed ("session task failed: " ++ p.message))])
    else (some 101, [])
  | .unfinished _ => (none, [])

/-- Runs the session. -/
def runSession (w : Surroundings) (turns : Nat) (o : Options) (p : Prepared) : Answer :=
  let session := Session.create sessionNumber (Console.ofInput w.input)
  let h := host w.files (roomFor w.spareFiles o) p
  let report := match o.file with
    | some path => session.runFile h w.threads w.files turns path p.config.runMode
    | none => session.runIn h w.threads turns p.config.runMode none
  let (code, events) := conclude o report.ending
  { code, filter := p.filter, events := p.events ++ report.transcript.events ++ events }

/-- **run** — the program, with at most `turns` turns of the loop. -/
def run (w : Surroundings) (turns : Nat) : Answer :=
  match start w.arguments with
  | .refused f => { code := some 2, events := refusal f }
  | .help => { code := some 0, events := [announcement helpText] }
  | .version => { code := some 0, events := [announcement versionText] }
  | .session o =>
    match Config.load w.files w.environment o with
    | .error f => { code := some 2, events := configRefusal f }
    | .ok c => runSession w turns o (prepare w.files w.environment c)

/-- What an event writes to standard output. -/
def toOutput (e : Event) : Bytes := e.bytesOn .output ++ e.bytesOn .prompts

/-- What an event writes to error output: its bytes there, or the line of its record if the filter
shows it. -/
def toErrors (f : Filter) (e : Event) : Bytes :=
  match e.record? with
  | some r => if f.shows r then encode (r.line ++ "\n") else []
  | none => e.bytesOn .errors

/-- The standard output of the program. -/
def Answer.output (a : Answer) : Bytes := a.events.flatMap toOutput

/-- The error output of the program. -/
def Answer.errors (a : Answer) : Bytes := a.events.flatMap (toErrors a.filter)

end Program

end CommandShell
