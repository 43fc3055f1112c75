import CommandShell.Session.Host
import CommandShell.Text.Backspace

/-!
# The console: standard input, output and error output

A console holds what nobody has read of standard input yet, and two sinks for what is written. A
sink may have room for a limited number of bytes, and its flushing may fail; what fitted before a
failure stays written.

A **line reader** reads lines from sources. A plain one reads the stream of the source. A terminal
reader leaves the stream of an interactive source alone and reads standard input instead; a line of
it that is not UTF-8 is consumed and fails, and backspaces in it are carried out.

Standard input comes in blocks. A source that reads standard input takes the rest of a block with
the line that it needs of it, so the lines that follow in the same block are lost to everybody else,
and those of the next block are not.
-/

namespace CommandShell

open CommandShell.Text
open CommandShell.Files

/-! ## Sinks -/

/-- **Sink** — takes bytes as long as it has room. -/
structure Sink where
  /-- How many more bytes fit; nothing means no limit. -/
  room : Option Nat := none
  /-- The text of the failure when there is no room. A sink without one takes no bytes then, which
  is reported in the words of the writer. -/
  whenFull : Option String := none
  /-- The text of the failure when it is flushed, if that fails. -/
  flushFault : Option String := none
  deriving DecidableEq, Repr

namespace Sink

/-- The failure of writing to a full sink. -/
def fullFault (s : Sink) : String := s.whenFull.getD "failed to write whole buffer"

/-- **write** — the bytes that fit, the sink with less room, and the failure if not all fit. -/
def write (s : Sink) (bytes : Bytes) : Bytes × Sink × Option String :=
  match s.room with
  | none => (bytes, s, none)
  | some room =>
    (bytes.take room, { s with room := some (room - bytes.length) },
      if bytes.length ≤ room then none else some s.fullFault)

/-- **writeLine** — writes a text and a line feed and flushes, unless the writing failed. -/
def writeLine (s : Sink) (text : String) : Bytes × Sink × Option String :=
  let (taken, s, fault) := s.write (encode text ++ [lineFeed])
  (taken, s, fault.or s.flushFault)

end Sink

/-! ## The console -/

/-- **Console** — what a program reads from and writes to. -/
structure Console where
  /-- The rest of standard input. -/
  unread : Stream := ⟨[], none⟩
  out : Sink := {}
  err : Sink := {}
  deriving DecidableEq, Repr

namespace Console

/-- Prints a line, and notes what was taken. -/
def printLine (c : Console) (text : String) : Note × Console × Option String :=
  let (taken, out, fault) := c.out.writeLine text
  (.wrote .output taken, { c with out }, fault)

/-- Reports a line of error output, and notes what was taken. A failure to do so is ignored. -/
def reportLine (c : Console) (text : String) : Note × Console :=
  let (taken, err, _) := c.err.writeLine text
  (.wrote .errors taken, { c with err })

/-- How many bytes of standard input are read at once. -/
def blockSize : Nat := 8192

/-- The console before anything is read of the given standard input. -/
def ofInput (bs : Bytes) : Console := { unread := .ofBlocks blockSize bs }

end Console

/-! ## Line readers -/

/-- The text of a line as it stands in a source: decoded, and without the line feeds and carriage
returns at its end. -/
def lineText (bytes : Bytes) : String :=
  String.ofList (dropTerminators (decode bytes).toList)
where
  /-- The characters without line feeds and carriage returns at the end. -/
  dropTerminators (cs : List Char) : List Char :=
    (cs.reverse.dropWhile fun c => c == '\n' || c == '\r').reverse

/-- What a line reader makes of the bytes taken from a stream. -/
def LineResult.ofTaken : Except IoFault Bytes → LineResult
  | .error e => .failed e
  | .ok [] => .endOfInput
  | .ok bytes => .line (lineText bytes)

/-- The line editor breaks off when a backspace would leave a part of a character. -/
def splitCharacter : Panic := ⟨"assertion failed: self.is_char_boundary(new_len)"⟩

/-- What a terminal reader makes of the bytes taken from standard input. One line feed is removed,
and with it one carriage return before it; then the backspaces are carried out. -/
def LineResult.ofTyped : Except IoFault Bytes → Except Panic LineResult
  | .error e => .ok (.failed e)
  | .ok [] => .ok .endOfInput
  | .ok bytes =>
    match decode? bytes with
    | none => .ok (.failed .notText)
    | some text =>
      let line := match text.toList.reverse with
        | '\n' :: '\r' :: rest | '\n' :: rest => rest.reverse
        | _ => text.toList
      match applyBackspaces line with
      | none => .error splitCharacter
      | some line => .ok (.line (String.ofList line))

/-- **ReaderKind** — how interactive sources are read. -/
inductive ReaderKind
  /-- Like all others. -/
  | plain
  /-- From standard input, by a line editor. An editor on a terminal that it cannot drive writes the
  prompt before every line; otherwise, standard input being no terminal, it writes none. -/
  | editor (promptsAlways : Bool)
  deriving DecidableEq, Repr

/-- The names of the terminals that the line editor cannot drive, in lower case. -/
def plainTerminals : List String := ["dumb", "cons25", "emacs"]

/-- **onTerminal** — the line editor on a terminal with a name, in which case does not matter. -/
def ReaderKind.onTerminal (name : String) : ReaderKind :=
  .editor (plainTerminals.any fun plain => plain.toList = name.toList.map Char.toLower)

/-- **LineReader** — reads lines from sources, with a prompt for interactive ones. -/
structure LineReader where
  kind : ReaderKind := .plain
  prompt : String := ""
  deriving DecidableEq, Repr

namespace LineReader

/-- The prompt as a note, if there is one to write. -/
def promptNotes (r : LineReader) (wanted : Bool) : List Note :=
  if wanted && !r.prompt.isEmpty then [.wrote .prompts (encode r.prompt)] else []

/-- Reads a line from what the source has read ahead of standard input and from the blocks that
follow. What is left of the block in which the line ends stays with the source. -/
def readAhead (source : Source) (c : Console) (notes : List Note) : Reading Console :=
  let taken := { c.unread with chunks := source.stream.chunks ++ c.unread.chunks }.takeLine
  { source := { source with stream := { source.stream with chunks := taken.rest.chunks.take 1 } }
    env := { c with unread := { taken.rest with chunks := taken.rest.chunks.drop 1 } }
    notes, cancels := taken.cancels, result := .ok (.ofTaken taken.result) }

/-- Reads a line from the stream of the source. -/
def readStream (source : Source) (c : Console) (notes : List Note) : Reading Console :=
  match source.origin with
  | .standardInput => readAhead source c notes
  | _ =>
    let taken := source.stream.takeLine
    { source := { source with stream := taken.rest }, env := c, notes, cancels := taken.cancels,
      result := .ok (.ofTaken taken.result) }

/-- Reads a line of standard input and leaves the stream of the source alone. -/
def readTyped (source : Source) (c : Console) (notes : List Note) : Reading Console :=
  let taken := c.unread.takeLine
  { source, env := { c with unread := taken.rest }, notes, cancels := taken.cancels,
    result := LineResult.ofTyped taken.result }

/-- **read** — reads the next line. -/
def read (r : LineReader) (c : Console) (source : Source) : Reading Console :=
  match r.kind, source.interactive with
  | .plain, interactive => readStream source c (r.promptNotes interactive)
  | .editor _, false => readStream source c []
  | .editor promptsAlways, true => readTyped source c (r.promptNotes promptsAlways)

/-- A source that was read is the same source with what is left of its stream. -/
theorem read_source (r : LineReader) (c : Console) (source : Source) :
    (r.read c source).source = { source with stream := (r.read c source).stream } := by
  have hplain : ∀ notes, (readStream source c notes).source =
      { source with stream := (readStream source c notes).stream } := by
    intro notes
    unfold readStream
    split <;> rfl
  unfold read
  split
  · exact hplain _
  · exact hplain _
  · rfl

/-- **host** — the reader and a dispatcher at a console. Sources with one of the given names count
as interactive whatever they say themselves. -/
def host (r : LineReader) (terminals : List String)
    (execute : Console → String → Nat → Reaction Console) : Host Console where
  standardInput := .ofStandardInput false
  interactive c source := ⟨c, .ok (source.interactive || terminals.contains source.name)⟩
  read := r.read
  execute := execute

/-- The readers of a console leave the sources that they read in their places. -/
theorem host_consumes (r : LineReader) (terminals : List String)
    (execute : Console → String → Nat → Reaction Console) :
    (r.host terminals execute).Consumes := fun c source =>
  ⟨_, r.read_source c source⟩

end LineReader

end CommandShell
