import CommandShell.Error
import CommandShell.Text.Blank

/-!
# The table of commands

A command is known by the words of its name. The table holds one definition for each list of words;
its keys are the words joined by single spaces, in ascending order. A line is looked up by the
longest list of its first words that is a key.
-/

namespace CommandShell

open CommandShell.Text

/-- **Definition** — a command: its name as it was given, and what it prints. -/
structure Definition where
  name : String
  output : String := ""
  deriving DecidableEq, Repr

/-- The key of a name: its words with one space between them. -/
def Definition.keyOf (name : String) : String := unwords (words name)

/-- The key of a definition. -/
def Definition.key (d : Definition) : String := keyOf d.name

/-- **Table** — the definitions by key, keys ascending. -/
structure Table where
  entries : List (String × Definition) := []
  deriving DecidableEq, Repr

namespace Table

/-- The table without commands. -/
def empty : Table := ⟨[]⟩

/-- Puts a definition into an ascending list, in the place of one with the same key. -/
def put (key : String) (d : Definition) : List (String × Definition) → List (String × Definition)
  | [] => [(key, d)]
  | e :: rest =>
    if key < e.1 then (key, d) :: e :: rest
    else if key = e.1 then (key, d) :: rest
    else e :: put key d rest

/-- The error of a definition whose name has no words. -/
def emptyName : ShellError := .invalidDefinition "empty command name"

/-- **register** — adds a command to the table; the last definition of a name wins. The result is
what the caller is told, with the table as it is left. -/
def register (t : Table) (d : Definition) : Except ShellError Unit × Table :=
  if d.key = "" then (.error emptyName, t) else (.ok (), ⟨put d.key d t.entries⟩)

/-- Registers commands in order up to the first that is refused. -/
def registerEach (t : Table) : List Definition → Except ShellError Unit × Table
  | [] => (.ok (), t)
  | d :: ds =>
    match t.register d with
    | (.error e, t) => (.error e, t)
    | (.ok _, t) => t.registerEach ds

/-- **registerAll** — registers commands in order, all of them or none: the names are looked at
before the first one is added. -/
def registerAll (t : Table) (ds : List Definition) : Except ShellError Unit × Table :=
  if ds.any fun d => d.key = "" then (.error emptyName, t) else t.registerEach ds

/-- The table that is left, for a caller who has no use for it after an error. -/
def changed : Except ShellError Unit × Table → Except ShellError Table
  | (.error e, _) => .error e
  | (.ok _, t) => .ok t

/-- **insert** — the table with one more command. -/
def insert (t : Table) (d : Definition) : Except ShellError Table := changed (t.register d)

/-- **extend** — the table with more commands. -/
def extend (t : Table) (ds : List Definition) : Except ShellError Table :=
  changed (t.registerAll ds)

/-- The definition with a key. -/
def get? (t : Table) (key : String) : Option Definition :=
  (t.entries.find? fun e => e.1 == key).map (·.2)

/-- The definition with the longest key among the first `n` words or fewer, and the other words. -/
def lookupFirst (t : Table) (ws : List String) : Nat → Option (Definition × List String)
  | 0 => none
  | n + 1 =>
    match t.get? (unwords (ws.take (n + 1))) with
    | some d => some (d, ws.drop (n + 1))
    | none => t.lookupFirst ws n

/-- **lookup** — the definition with the longest key with which the line begins, and the remaining
words of the line. -/
def lookup (t : Table) (line : String) : Option (Definition × List String) :=
  t.lookupFirst (words line) (words line).length

/-- How many commands there are. -/
def size (t : Table) : Nat := t.entries.length

/-- Whether there is no command. -/
def isEmpty (t : Table) : Bool := t.entries.isEmpty

/-- The names of the commands in ascending order. -/
def names (t : Table) : List String := t.entries.map (·.1)

end Table

end CommandShell
