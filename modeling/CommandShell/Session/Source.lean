import CommandShell.Error
import CommandShell.Session.Stream
import CommandShell.Text.Quoted

/-!
# Input sources

A source is a named stream from which a session reads lines, with the count of the lines that were
read from it. Opening a file gives a source that is not interactive and is named by the path.
-/

namespace CommandShell

open CommandShell.Text
open CommandShell.Files

/-- **Origin** — where a source comes from. -/
inductive Origin
  /-- It was handed over by the caller or by a dispatcher. -/
  | given
  | file
  | standardInput
  deriving DecidableEq, Repr

/-- **Source** — a stream of lines. -/
structure Source where
  name : String
  /-- Whether a person types the lines. -/
  interactive : Bool
  stream : Stream
  /-- Whether it is the first source of a run. -/
  primordial : Bool := false
  linesRead : Nat := 0
  origin : Origin := .given
  deriving DecidableEq, Repr

namespace Source

/-- The source with one more line counted. -/
def countLine (s : Source) : Source := { s with linesRead := s.linesRead + 1 }

/-- **openFile** — a source that reads the file at a path. A directory can be opened; reading it
fails. -/
def openFile (fs : FileSystem) (p : Path) : Except ShellError Source :=
  match fs.opened p with
  | .error e => .error (.openInput p e)
  | .ok opened =>
    let stream := match opened with
      | .file content => Stream.ofBytes content
      | .directory => Stream.unreadable (.os .isADirectory)
    .ok { name := p.shown, interactive := false, stream, origin := .file }

/-- **openNested** — a source that reads the file at a path, opened while the stack has the given
depth. The scripts on top of its first source hold a descriptor each, and no more of them can be
open than there is room for. -/
def openNested (fs : FileSystem) (room : Option Nat) (depth : Nat) (p : Path) :
    Except ShellError Source :=
  if room.any (· < depth) then .error (.openInput p (.os .tooManyFiles)) else openFile fs p

/-- The name of standard input. -/
def standardInputName : String := "<stdin>"

/-- The source that reads standard input. Its stream holds what it has read ahead: nothing yet. -/
def ofStandardInput (interactive : Bool) : Source :=
  { name := standardInputName, interactive, stream := ⟨[], none⟩, origin := .standardInput }

/-- A summary of a source. -/
def summary (s : Source) : String :=
  "InputSource \x7b name: " ++ quote s.name ++ ", interactive: " ++ toString s.interactive
    ++ ", primordial: " ++ toString s.primordial ++ ", lines_read: " ++ toString s.linesRead
    ++ ", .. \x7d"

end Source

end CommandShell
