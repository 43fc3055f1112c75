import CommandShell.Json.Fault

/-!
# Reading positions in a JSON text

A cursor holds the characters that are left and the number of bytes before them. A fault is placed
in one of two ways: `fault` after what was consumed, `faultAhead` after the byte that is looked at,
or at the end of the text if there is none. The second byte of a character is never looked at alone:
an unwelcome character counts by its first byte.
-/

namespace CommandShell.Json

/-- **Cursor** — a position in a text. -/
structure Cursor where
  rest : List Char
  offset : Nat
  deriving DecidableEq, Repr

namespace Cursor

/-- The beginning of a text. -/
def start (s : String) : Cursor := ⟨s.toList, 0⟩

/-- The character that is looked at. -/
def peek? (c : Cursor) : Option Char := c.rest.head?

/-- The position after one more character. -/
def next (c : Cursor) : Cursor :=
  match c.rest with
  | [] => c
  | x :: rest => ⟨rest, c.offset + x.utf8Size⟩

/-- The position after the first `n` characters, all of one byte. -/
def skip (c : Cursor) (n : Nat) : Cursor := ⟨c.rest.drop n, c.offset + n⟩

/-- Whether a character is white space between tokens. -/
def isSpace (x : Char) : Bool := x == ' ' || x == '\n' || x == '\t' || x == '\r'

/-- The position after white space. -/
def skipSpace (c : Cursor) : Cursor := c.skip (c.rest.takeWhile isSpace).length

/-- A fault after what was consumed. -/
def fault {α : Type} (c : Cursor) (f : Fault) : Except Failure α := .error ⟨f, c.offset⟩

/-- A fault after one more byte. -/
def faultAhead {α : Type} (c : Cursor) (f : Fault) : Except Failure α :=
  .error ⟨f, if c.rest.isEmpty then c.offset else c.offset + 1⟩

/-- The number of bytes left. -/
def bytesLeft (c : Cursor) : Nat := c.rest.foldl (fun n x => n + x.utf8Size) 0

/-- **word** — the rest of a literal name, one character after the other. -/
def word (c : Cursor) : List Char → Except Failure Cursor
  | [] => .ok c
  | x :: xs =>
    match c.rest with
    | [] => c.fault .endInValue
    | y :: _ => if x = y then c.next.word xs else c.faultAhead .identExpected

end Cursor

end CommandShell.Json
