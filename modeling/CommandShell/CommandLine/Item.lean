import CommandShell.Text.Quoted

/-!
# Command lines as items

A command line is a list of **items**: flags, settings with a value, and plain arguments. An item
can be spelled in several ways: `--name value` and `--name=value`; `-x value`, `-xvalue` and
`-x=value`; flags in a cluster, of which the last option may take a value. After `--` every argument
is plain, and `-` is plain always. `Scan.ofArguments` gives the items up to the first fault, and
that fault.
-/

namespace CommandShell.CommandLine

open CommandShell.Text

/-- **Flag** — an option without a value. -/
inductive Flag
  | help
  | version
  | thread
  deriving DecidableEq, Repr

/-- **Setting** — an option with a value. -/
inductive Setting
  | file
  | config
  | path
  | logLevel
  deriving DecidableEq, Repr

/-- **Item** — a unit of a command line. -/
inductive Item
  | flag (f : Flag)
  | setting (s : Setting) (value : Bytes)
  | plain (argument : Bytes)
  deriving DecidableEq, Repr

/-- **SpellingFault** — what is wrong with the spelling of an argument. Options are held as they
were written. -/
inductive SpellingFault
  | invalidOption (written : String)
  | missingValue (written : String)
  /-- A value was given to a flag. -/
  | unexpectedValue (written : String) (value : Bytes)
  /-- A value that must be text is not. -/
  | notText (value : Bytes)
  deriving DecidableEq, Repr

/-- The text of a fault. -/
def SpellingFault.message : SpellingFault → String
  | .invalidOption written => "invalid option '" ++ written ++ "'"
  | .missingValue written => "missing argument for option '" ++ written ++ "'"
  | .unexpectedValue written value =>
    "unexpected argument for option '" ++ written ++ "': " ++ quoteBytes value
  | .notText value => "argument is invalid unicode: " ++ quoteBytes value

/-- **Meaning** — what the name of an option stands for. -/
inductive Meaning
  | flag (f : Flag)
  | setting (s : Setting)
  deriving DecidableEq, Repr

/-- What a one-letter name stands for. -/
def Meaning.ofLetter? (c : Char) : Option Meaning :=
  match c with
  | 'h' => some (.flag .help)
  | 'V' => some (.flag .version)
  | 't' => some (.flag .thread)
  | 'f' => some (.setting .file)
  | 'c' => some (.setting .config)
  | 'p' => some (.setting .path)
  | 'l' => some (.setting .logLevel)
  | _ => none

/-- The long names of the options. -/
def Meaning.names : List (String × Meaning) :=
  [("help", .flag .help), ("version", .flag .version), ("thread", .flag .thread),
    ("file", .setting .file), ("config", .setting .config), ("path", .setting .path),
    ("log-level", .setting .logLevel)]

/-- What a long name stands for. -/
def Meaning.ofName? (name : String) : Option Meaning :=
  (names.find? fun entry => entry.1 == name).map (·.2)

/-- The byte `-`. -/
def dash : UInt8 := 0x2D

/-- The byte `=`. -/
def equalsSign : UInt8 := 0x3D

/-- **Shape** — what an argument is by its first bytes. -/
inductive Shape
  | plain
  /-- The mark after which every argument is plain. -/
  | endOfOptions
  /-- A long option, and its value if one is attached. -/
  | long (name : Bytes) (value : Option Bytes)
  /-- One-letter options, at least one byte. -/
  | cluster (letters : Bytes)
  deriving DecidableEq, Repr

/-- The shape of an argument. -/
def Shape.of (argument : Bytes) : Shape :=
  match argument with
  | a :: b :: rest =>
    if a ≠ dash then .plain
    else if b ≠ dash then .cluster (b :: rest)
    else if rest = [] then .endOfOptions
    else
      let name := rest.takeWhile (· ≠ equalsSign)
      match rest.dropWhile (· ≠ equalsSign) with
      | [] => .long name none
      | _ :: value => .long name (some value)
  | _ => .plain

/-- **Awaiting** — what the next argument is taken for. -/
inductive Awaiting
  /-- An option or a plain argument. -/
  | item
  /-- The value of an option, which was written in the given way. -/
  | value (s : Setting) (written : String)
  /-- A plain argument, whatever it looks like. -/
  | plain
  deriving DecidableEq, Repr

/-- **Piecewise** — the items of one argument, and either what is awaited next or a fault. -/
structure Piecewise where
  items : List Item
  next : Except SpellingFault Awaiting

/-- A one-letter option as it is written alone. -/
def writtenLetter (c : Char) : String := String.ofList ['-', c]

/-- A long option as it is written without a value. -/
def writtenName (name : String) : String := "--" ++ name

/-- The value that the rest of a cluster is: one `=` in front does not belong to it. -/
def attachedValue (rest : Bytes) : Bytes :=
  match rest with
  | [] => []
  | b :: bs => if b = equalsSign then bs else b :: bs

/-- The items of a cluster. `before` is the letter of the option in front, if there is one. -/
def ofCluster (before : Option Char) (letters : Bytes) : Piecewise :=
  match letters with
  | [] => ⟨[], .ok .item⟩
  | b :: rest =>
    match before, decide (b = equalsSign) with
    | some c, true => ⟨[], .error (.unexpectedValue (writtenLetter c) rest)⟩
    | _, _ =>
      let letter := Char.ofNat b.toNat
      match Meaning.ofLetter? letter with
      | some (.flag f) =>
        let more := ofCluster (some letter) rest
        ⟨.flag f :: more.items, more.next⟩
      | some (.setting s) =>
        if rest = [] then ⟨[], .ok (.value s (writtenLetter letter))⟩
        else ⟨[.setting s (attachedValue rest)], .ok .item⟩
      | none =>
        let shown := ((pieces (b :: rest)).head?.map Piece.shown).getD replacement
        ⟨[], .error (.invalidOption (writtenLetter shown))⟩

/-- The items of a long option. -/
def ofLong (name : Bytes) (value : Option Bytes) : Piecewise :=
  let name := decode name
  match Meaning.ofName? name, value with
  | none, _ => ⟨[], .error (.invalidOption (writtenName name))⟩
  | some (.flag f), none => ⟨[.flag f], .ok .item⟩
  | some (.flag f), some value => ⟨[.flag f], .error (.unexpectedValue (writtenName name) value)⟩
  | some (.setting s), none => ⟨[], .ok (.value s (writtenName name))⟩
  | some (.setting s), some value => ⟨[.setting s value], .ok .item⟩

/-- The items of an argument. -/
def ofArgument (awaiting : Awaiting) (argument : Bytes) : Piecewise :=
  match awaiting with
  | .plain => ⟨[.plain argument], .ok .plain⟩
  | .value s _ => ⟨[.setting s argument], .ok .item⟩
  | .item =>
    match Shape.of argument with
    | .plain => ⟨[.plain argument], .ok .item⟩
    | .endOfOptions => ⟨[], .ok .plain⟩
    | .long name value => ofLong name value
    | .cluster letters => ofCluster none letters

/-- **Scan** — the items of a command line up to the first fault. -/
structure Scan where
  items : List Item
  fault : Option SpellingFault
  deriving DecidableEq, Repr

/-- The items of arguments, given what the first of them is taken for. -/
def Scan.from (awaiting : Awaiting) : List Bytes → Scan
  | [] =>
    match awaiting with
    | .value _ written => ⟨[], some (.missingValue written)⟩
    | _ => ⟨[], none⟩
  | argument :: rest =>
    let p := ofArgument awaiting argument
    match p.next with
    | .error fault => ⟨p.items, some fault⟩
    | .ok awaiting =>
      let s := Scan.from awaiting rest
      ⟨p.items ++ s.items, s.fault⟩

/-- **ofArguments** — the items of a command line without the name of the program. -/
def Scan.ofArguments (arguments : List Bytes) : Scan := Scan.from .item arguments

end CommandShell.CommandLine
