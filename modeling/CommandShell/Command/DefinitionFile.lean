import CommandShell.Command.Table
import CommandShell.Json.Reader
import CommandShell.Json.Value

/-!
# Definition files

A definition file is a JSON text that holds a list of commands. `Table.registerFile` reads one into
a table, which stays as it was if the file cannot be read, is no definition file, or holds a command
without a name.
-/

namespace CommandShell

open CommandShell.Files

/-- **DefinitionFile** — the content of a definition file. -/
structure DefinitionFile where
  commands : List Definition := []
  deriving DecidableEq, Repr

/-- How a command is written in a file. -/
def Definition.record : Json.Record Definition where
  called := "struct CommandDef"
  fields :=
    [.required "name" (.text "a string") fun name d => { d with name },
      .optional "output" (.text "a string") fun output d => { d with output }]
  blank := { name := "" }

/-- A command as a JSON value. -/
def Definition.toJson (d : Definition) : Json.Value :=
  .object [("name", .string d.name), ("output", .string d.output)]

namespace DefinitionFile

/-- How a definition file is written. -/
def record : Json.Record DefinitionFile where
  called := "struct DefinitionFile"
  fields := [.optional "commands" (.list Definition.record.reader) fun commands f =>
    { f with commands }]
  blank := {}

/-- **parse** — reads the text of a definition file. -/
def parse (source : String) : Except Json.Failure DefinitionFile := Json.read record.reader source

/-- A definition file as a JSON value. -/
def toJson (f : DefinitionFile) : Json.Value :=
  .object [("commands", .array (f.commands.map Definition.toJson))]

end DefinitionFile

/-- **registerFile** — reads a definition file and registers its commands, with the table as it is
left. -/
def Table.registerFile (fs : FileSystem) (t : Table) (path : Path) :
    Except ShellError Unit × Table :=
  match fs.readText path with
  | .error e => (.error (.io e), t)
  | .ok source =>
    match DefinitionFile.parse source with
    | .error f => (.error (.definition path (f.message source)), t)
    | .ok file => t.registerAll file.commands

/-- **load** — the table with the commands of a definition file. -/
def Table.load (fs : FileSystem) (t : Table) (path : Path) : Except ShellError Table :=
  changed (t.registerFile fs path)

end CommandShell
