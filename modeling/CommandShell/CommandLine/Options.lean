import CommandShell.CommandLine.Item
import CommandShell.Files.Path
import CommandShell.Text.Blank

/-!
# What a command line asks for

`Options.apply` takes an item over: a flag sets its field, a setting replaces its value, and a plain
argument names the script if none is named yet. `Options.parse` does so for all items of a command
line from left to right; the first fault of either kind decides.
-/

namespace CommandShell.CommandLine

open CommandShell.Text
open CommandShell.Files

/-- **Options** — what a command line asks for. -/
structure Options where
  /-- The script to run instead of standard input. -/
  file : Option Path := none
  /-- Run on a worker. -/
  thread : Bool := false
  /-- The configuration file. -/
  config : Option Path := none
  /-- The search path of definition files. -/
  path : Option String := none
  /-- The filter of the log. -/
  logLevel : Option String := none
  version : Bool := false
  help : Bool := false
  deriving DecidableEq, Repr

/-- **ArgumentFault** — why a command line is refused. -/
inductive ArgumentFault
  | spelling (f : SpellingFault)
  /-- The value of the option with the given long name makes no sense. -/
  | invalidValue (name value : String)
  | unexpectedArgument (argument : String)
  deriving DecidableEq, Repr

/-- The text of a fault. -/
def ArgumentFault.message : ArgumentFault → String
  | .spelling f => f.message
  | .invalidValue name value => "invalid value for --" ++ name ++ ": '" ++ value ++ "'"
  | .unexpectedArgument argument => "unexpected argument: '" ++ argument ++ "'"

namespace Options

/-- The value of a setting as text. -/
def valueText (value : Bytes) : Except ArgumentFault String :=
  match decode? value with
  | some text => .ok text
  | none => .error (.spelling (.notText value))

/-- The options with a flag set. -/
def setFlag (o : Options) : Flag → Options
  | .help => { o with help := true }
  | .version => { o with version := true }
  | .thread => { o with thread := true }

/-- The options with a setting replaced. A search path must hold something else than blanks. -/
def set (o : Options) (s : Setting) (value : String) : Except ArgumentFault Options :=
  match s with
  | .file => .ok { o with file := some (.ofString value) }
  | .config => .ok { o with config := some (.ofString value) }
  | .path =>
    if trim value = "" then .error (.invalidValue "path" value)
    else .ok { o with path := some value }
  | .logLevel => .ok { o with logLevel := some value }

/-- **apply** — takes an item over. -/
def apply (o : Options) : Item → Except ArgumentFault Options
  | .flag f => .ok (o.setFlag f)
  | .setting s value => (valueText value).bind (o.set s)
  | .plain argument =>
    match o.file with
    | none => .ok { o with file := some ⟨argument⟩ }
    | some _ => .error (.unexpectedArgument (decode argument))

/-- **parse** — what a command line without the name of the program asks for. -/
def parse (arguments : List Bytes) : Except ArgumentFault Options :=
  let scan := Scan.ofArguments arguments
  match scan.items.foldlM apply {} with
  | .error f => .error f
  | .ok o =>
    match scan.fault with
    | some f => .error (.spelling f)
    | none => .ok o

end Options

end CommandShell.CommandLine
