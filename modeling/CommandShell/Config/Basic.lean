import CommandShell.Command.SearchPath
import CommandShell.CommandLine.Options
import CommandShell.Json.Reader
import CommandShell.Json.Value
import CommandShell.Session.Worker

/-!
# Configuration

A configuration has three sections. It is read from a JSON file or starts from the defaults; then
the variables of the environment are laid over it, and then the options of the command line. The
home directory of a file is not replaced by the environment, everything else is.
-/

namespace CommandShell

open CommandShell.Text
open CommandShell.Files
open CommandShell.CommandLine

/-- **Config.Definitions** — where definition files are found. -/
structure Config.Definitions where
  /-- The directories, with semicolons between them. -/
  path : String := SearchPath.standardText
  extension : String := SearchPath.standardExtension
  /-- The directory that `~` stands for. -/
  home : Option String := none
  deriving DecidableEq, Repr

/-- **Config.Shell** — how the session runs. -/
structure Config.Shell where
  prompt : String := "clish> "
  /-- Run on a worker. -/
  useThread : Bool := false
  threadName : String := "clish-shell"
  stackSize : Option Nat := none
  deriving DecidableEq, Repr

/-- **Config.Logging** — what is logged. -/
structure Config.Logging where
  level : String := "info"
  deriving DecidableEq, Repr

/-- **Config** — a configuration. -/
structure Config where
  definitions : Config.Definitions := {}
  shell : Config.Shell := {}
  logging : Config.Logging := {}
  deriving DecidableEq, Repr

/-- **ConfigFault** — why a configuration file is refused. -/
inductive ConfigFault
  | io (cause : IoFault)
  /-- The file is no configuration; the reason has the place. -/
  | json (reason : String)
  deriving DecidableEq, Repr

/-- The text of a fault. -/
def ConfigFault.message : ConfigFault → String
  | .io cause => "failed to read config file: " ++ cause.message
  | .json reason => "failed to parse config file: " ++ reason

/-! ## Reading and writing -/

/-- How the section is written. -/
def Config.Definitions.record : Json.Record Config.Definitions where
  called := "struct DefinitionsSection"
  fields :=
    [.optional "path" (.text "a string") fun path s => { s with path },
      .optional "extension" (.text "a string") fun extension s => { s with extension },
      .optional "home" (.optional (.text "path string")) fun home s => { s with home }]
  blank := {}

/-- The section as a JSON value. -/
def Config.Definitions.toJson (s : Config.Definitions) : Json.Value :=
  .object [("path", .string s.path), ("extension", .string s.extension),
    ("home", .ofOption .string s.home)]

/-- How the section is written. -/
def Config.Shell.record : Json.Record Config.Shell where
  called := "struct ShellSection"
  fields :=
    [.optional "prompt" (.text "a string") fun prompt s => { s with prompt },
      .optional "use_thread" .truth fun useThread s => { s with useThread },
      .optional "thread_name" (.text "a string") fun threadName s => { s with threadName },
      .optional "stack_size" (.optional .count) fun stackSize s => { s with stackSize }]
  blank := {}

/-- The section as a JSON value. -/
def Config.Shell.toJson (s : Config.Shell) : Json.Value :=
  .object [("prompt", .string s.prompt), ("use_thread", .boolean s.useThread),
    ("thread_name", .string s.threadName), ("stack_size", .ofOption .number s.stackSize)]

/-- How the section is written. -/
def Config.Logging.record : Json.Record Config.Logging where
  called := "struct LoggingSection"
  fields := [.optional "level" (.text "a string") fun level s => { s with level }]
  blank := {}

/-- The section as a JSON value. -/
def Config.Logging.toJson (s : Config.Logging) : Json.Value :=
  .object [("level", .string s.level)]

namespace Config

/-- How a configuration is written. -/
def record : Json.Record Config where
  called := "struct Config"
  fields :=
    [.optional "definitions" Config.Definitions.record.reader fun definitions c =>
        { c with definitions },
      .optional "shell" Config.Shell.record.reader fun shell c => { c with shell },
      .optional "logging" Config.Logging.record.reader fun logging c => { c with logging }]
  blank := {}

/-- A configuration as a JSON value. -/
def toJson (c : Config) : Json.Value :=
  .object [("definitions", c.definitions.toJson), ("shell", c.shell.toJson),
    ("logging", c.logging.toJson)]

/-- **parse** — reads the text of a configuration file. -/
def parse (source : String) : Except Json.Failure Config := Json.read record.reader source

/-- **ofFile** — reads a configuration file. -/
def ofFile (fs : FileSystem) (path : Path) : Except ConfigFault Config :=
  match fs.readText path with
  | .error e => .error (.io e)
  | .ok source => (parse source).mapError fun f => .json (f.message source)

/-! ## Layers -/

/-- **Variables** — the environment: the text of a variable, if it is set to text. -/
abbrev Variables := String → Option String

/-- **Variables.ofBytes** — the texts of an environment whose values are bytes. A value that is no
text counts as absent. -/
def Variables.ofBytes (env : String → Option Bytes) : Variables := fun name =>
  (env name).bind decode?

/-- The names of the variables that are looked at. -/
def variableNames : List String := ["CLISH_PATH", "HOME", "CLISH_LOG_LEVEL", "RUST_LOG"]

/-- The value of a variable that is set and not empty. -/
def nonEmpty (vars : Variables) (name : String) : Option String :=
  (vars name).filter (!·.isEmpty)

/-- **withVariables** — the configuration with the environment laid over it. An empty search path
and an empty home directory count as absent; an empty level does not. -/
def withVariables (vars : Variables) (c : Config) : Config where
  definitions :=
    { c.definitions with
      path := (nonEmpty vars "CLISH_PATH").getD c.definitions.path
      home := c.definitions.home.or (nonEmpty vars "HOME") }
  shell := c.shell
  logging := { level := ((vars "CLISH_LOG_LEVEL").or (vars "RUST_LOG")).getD c.logging.level }

/-- **withOptions** — the configuration with the command line laid over it. -/
def withOptions (o : Options) (c : Config) : Config where
  definitions := { c.definitions with path := o.path.getD c.definitions.path }
  shell := { c.shell with useThread := c.shell.useThread || o.thread }
  logging := { level := o.logLevel.getD c.logging.level }

/-- **load** — the configuration that a command line and an environment ask for. -/
def load (fs : FileSystem) (vars : Variables) (o : Options) : Except ConfigFault Config :=
  let base := match o.config with
    | some path => ofFile fs path
    | none => .ok {}
  base.map fun c => (c.withVariables vars).withOptions o

/-! ## What follows from a configuration -/

/-- The search path of definition files. -/
def searchPath (c : Config) : SearchPath :=
  .ofConfig c.definitions.path (c.definitions.home.map Path.ofString) c.definitions.extension

/-- The settings of the thread of a worker. An empty name is none. -/
def workerSettings (c : Config) : WorkerSettings where
  name := if c.shell.threadName.isEmpty then none else some c.shell.threadName
  stackSize := c.shell.stackSize

/-- Where the session runs. -/
def runMode (c : Config) : RunMode :=
  if c.shell.useThread then .threaded c.workerSettings else .inline

/-- The text of the filter of the log. -/
def logFilter (c : Config) : String := c.logging.level

end Config

end CommandShell
