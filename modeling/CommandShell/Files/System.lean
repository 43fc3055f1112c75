import CommandShell.Files.Path
import CommandShell.Files.Fault

/-!
# What a program can ask of the files around it

A `FileSystem` answers three questions about a path: what opening it for reading gives, which names
the directory holds, and whether a regular file is found there. The answers do not change while a
program runs. `FileSystem.readText` reads a whole file as text.
-/

namespace CommandShell.Files

open CommandShell.Text

/-- **Opened** — what opening a path for reading gives. A directory can be opened, but not read. -/
inductive Opened
  | file (content : Bytes)
  | directory
  deriving DecidableEq, Repr

/-- **FileSystem** — the answers to what a program asks about paths. -/
structure FileSystem where
  /-- Opens a path for reading. -/
  opened : Path → Except IoFault Opened
  /-- The names in a directory, in whatever order the system keeps them. -/
  entries : Path → Except IoFault (List Bytes)
  /-- Whether a regular file is found at the path, links being followed. -/
  isFile : Path → Bool

/-- The file system in which nothing is found. -/
def FileSystem.empty : FileSystem where
  opened _ := .error (.os .notFound)
  entries _ := .error (.os .notFound)
  isFile _ := false

/-- **readText** — the content of a file as text. -/
def FileSystem.readText (fs : FileSystem) (p : Path) : Except IoFault String :=
  match fs.opened p with
  | .error e => .error e
  | .ok .directory => .error (.os .isADirectory)
  | .ok (.file content) =>
    match decode? content with
    | none => .error .notText
    | some text => .ok text

end CommandShell.Files
