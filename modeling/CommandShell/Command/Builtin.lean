import CommandShell.Command.Table
import CommandShell.Session.Console

/-!
# The commands of the shell

`Command.parse` sorts a line into its class: nothing to do, one of the commands that the shell knows
itself, or a line for the table. `Builtins.execute` carries the command out. A failing command
writes one message to the error output and has no other effect.
-/

namespace CommandShell

open CommandShell.Text
open CommandShell.Files

/-- **Command** — the class of a line. -/
inductive Command
  /-- A blank line or a comment. -/
  | nothing
  /-- Ends the session. -/
  | exit
  /-- Stops the session as a fatal error. -/
  | abort
  | echo (text : String)
  /-- Reads a script before the current input goes on. -/
  | source (file : String)
  /-- A line that the table has to know. -/
  | other (line : String)
  deriving DecidableEq, Repr

/-- **parse** — the class of a line. Blanks at its ends do not count. -/
def Command.parse (line : String) : Command :=
  let line := trim line
  if line = "" ∨ line.toList.head? = some '#' then .nothing
  else
    let (word, rest) := cutWord line
    if word = "exit" ∨ word = "quit" then .exit
    else if word = "abort" then .abort
    else if word = "echo" then .echo rest
    else if word = "source" then .source rest
    else .other line

/-- **Builtins** — a table of commands and the files that scripts are read from. -/
structure Builtins where
  files : FileSystem
  table : Table
  /-- How many scripts may be open at the same time on top of the first source, which need not be a
  file; nothing means no limit. -/
  room : Option Nat := none

namespace Builtins

/-- A line that has failed with a message. -/
def fail (console : Console) (notes : List Note) (message : String) : Reaction Console :=
  let (note, console) := console.reportLine ("Error: " ++ message)
  { requests := (notes ++ [note]).map .note, env := console, result := .ok .scriptError }

/-- Prints a line; the command fails if that fails. -/
def print (console : Console) (text : String) : Reaction Console :=
  let (note, console, fault) := console.printLine text
  match fault with
  | none => { requests := [.note note], env := console, result := .ok .ok }
  | some reason => fail console [note] ("cannot write output: " ++ reason)

/-- The reaction that does nothing but return a verdict. -/
def answer (console : Console) (verdict : Verdict) : Reaction Console :=
  { env := console, result := .ok verdict }

/-- Asks for a script to be read, where the stack has the given depth. -/
def readScript (b : Builtins) (console : Console) (file : String) (depth : Nat) :
    Reaction Console :=
  if file = "" then fail console [] "source: missing file name"
  else
    match Source.openNested b.files b.room depth (.ofString file) with
    | .error e => fail console [] ("source: " ++ e.message)
    | .ok source =>
      { requests := [.note (.included source.name), .push source], env := console,
        result := .ok .ok }

/-- Looks a line up in the table and prints what its command prints. -/
def lookup (b : Builtins) (console : Console) (line : String) : Reaction Console :=
  match b.table.lookup line with
  | none => fail console [] ("unknown command: " ++ line)
  | some (d, _) => if d.output = "" then answer console .ok else print console d.output

/-- **execute** — carries a line out, where the stack has the given depth. -/
def execute (b : Builtins) (console : Console) (line : String) (depth : Nat) :
    Reaction Console :=
  match Command.parse line with
  | .nothing => answer console .ok
  | .exit =>
    { requests := [.note .exitRequested, .close], env := console, result := .ok .ok }
  | .abort => answer console .fatal
  | .echo text => print console text
  | .source file => b.readScript console file depth
  | .other line => b.lookup console line

end Builtins

end CommandShell
