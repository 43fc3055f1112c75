import CommandShell.Text.Utf8
import CommandShell.Files.Fault

/-!
# Streams of bytes

A stream delivers **chunks**, and after the last one it is at its end for ever, or fails for ever.
`Stream.takeLine` reads up to and including the next line feed; a chunk is opened only while the
line is not complete. A failing read loses what was read of the line. `Stream.takeBytes` reads a
number of bytes regardless of lines. Reading may also ask for the worker to be cancelled.
-/

namespace CommandShell

open CommandShell.Text
open CommandShell.Files

/-- **Chunk** — what one read of a stream meets. -/
inductive Chunk
  | data (bytes : Bytes)
  /-- The read fails, once. -/
  | failure (reason : IoFault)
  /-- The read is interrupted and tried again; nothing of it is seen. -/
  | interrupted
  /-- The end of input is met, once. -/
  | pause
  /-- The worker is asked to stop, and the read goes on. -/
  | cancel
  deriving DecidableEq, Repr

/-- **Stream** — what is left to read. -/
structure Stream where
  chunks : List Chunk
  /-- Why every read after the last chunk fails, if it does. -/
  broken : Option IoFault := none
  deriving DecidableEq, Repr

/-- **Taken** — what reading gave, what is left, and how often a cancellation was asked for. Nothing
taken means the end of input. -/
structure Taken where
  result : Except IoFault Bytes
  rest : Stream
  cancels : Nat
  deriving Repr

/-- The byte that ends a line. -/
def lineFeed : UInt8 := 0x0A

namespace Stream

/-- A stream of bytes at hand. -/
def ofBytes (bs : Bytes) : Stream := ⟨[.data bs], none⟩

/-- The bytes in blocks of `size` bytes, the last of which may be shorter. -/
def blocks (size : Nat) (bs : Bytes) : List Bytes :=
  if size = 0 ∨ bs.drop size = [] then [bs]
  else bs.take size :: blocks size (bs.drop size)
  termination_by bs.length
  decreasing_by
    simp only [List.drop_eq_nil_iff, not_or, Nat.not_le] at *
    simp only [List.length_drop]
    omega

/-- A stream of bytes that come in blocks. -/
def ofBlocks (size : Nat) (bs : Bytes) : Stream := ⟨(blocks size bs).map .data, none⟩

/-- A stream that can be opened and not read. -/
def unreadable (e : IoFault) : Stream := ⟨[], some e⟩

/-- What reading gives after the last chunk, if `got` was read before. -/
def atEnd (broken : Option IoFault) (got : Bytes) : Except IoFault Bytes :=
  match broken with
  | none => .ok got
  | some e => .error e

/-- Reads a line from the chunks, with `got` read of it and `asked` telling how often a cancellation
was asked for. -/
def lineFrom (broken : Option IoFault) : List Chunk → Bytes → Nat → Taken
  | [], got, asked => ⟨atEnd broken got, ⟨[], broken⟩, asked⟩
  | .data bs :: rest, got, asked =>
    match bs.dropWhile (· != lineFeed) with
    | [] => lineFrom broken rest (got ++ bs) asked
    | feed :: left =>
      ⟨.ok (got ++ bs.takeWhile (· != lineFeed) ++ [feed]), ⟨.data left :: rest, broken⟩, asked⟩
  | .failure e :: rest, _, asked => ⟨.error e, ⟨rest, broken⟩, asked⟩
  | .interrupted :: rest, got, asked => lineFrom broken rest got asked
  | .pause :: rest, got, asked => ⟨.ok got, ⟨rest, broken⟩, asked⟩
  | .cancel :: rest, got, asked => lineFrom broken rest got (asked + 1)

/-- **takeLine** — reads the next line with its line feed. The last line may lack one. -/
def takeLine (s : Stream) : Taken := lineFrom s.broken s.chunks [] 0

/-- Reads `n` more bytes from the chunks. -/
def bytesFrom (broken : Option IoFault) : List Chunk → Nat → Bytes → Nat → Taken
  | chunks, 0, got, asked => ⟨.ok got, ⟨chunks, broken⟩, asked⟩
  | [], _ + 1, got, asked => ⟨atEnd broken got, ⟨[], broken⟩, asked⟩
  | .data bs :: rest, n + 1, got, asked =>
    if n + 1 < bs.length then
      ⟨.ok (got ++ bs.take (n + 1)), ⟨.data (bs.drop (n + 1)) :: rest, broken⟩, asked⟩
    else bytesFrom broken rest (n + 1 - bs.length) (got ++ bs) asked
  | .failure e :: rest, _ + 1, _, asked => ⟨.error e, ⟨rest, broken⟩, asked⟩
  | .interrupted :: rest, n + 1, got, asked => bytesFrom broken rest (n + 1) got asked
  | .pause :: rest, _ + 1, got, asked => ⟨.ok got, ⟨rest, broken⟩, asked⟩
  | .cancel :: rest, n + 1, got, asked => bytesFrom broken rest (n + 1) got (asked + 1)

/-- **takeBytes** — reads up to `n` bytes, fewer only at an end of input. -/
def takeBytes (s : Stream) (n : Nat) : Taken := bytesFrom s.broken s.chunks n [] 0

end Stream

end CommandShell
