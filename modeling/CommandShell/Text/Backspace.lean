import CommandShell.Text.Cluster

/-!
# Backspaces in a typed line

A backspace takes back the visible character before it, if there is one. How many bytes that is was
noted when the character was read, in a single byte: of a character with 256 bytes or more a
backspace takes only as many bytes as are beyond the last multiple of 256. Such a cut can fall
inside one of the characters that it consists of; then there is no line.
-/

namespace CommandShell.Text

/-- The character that takes back another. -/
def backspace : Char := '\x08'

/-- How many values a noted size can have. -/
def sizesNoted : Nat := 256

/-- The number of bytes of a text. -/
def byteCount (cs : List Char) : Nat := cs.foldl (fun n c => n + c.utf8Size) 0

/-- The list without characters of so many bytes at its beginning; nothing if the last of these
bytes is not the last of its character. -/
def dropBytes : (count : Nat) → List Char → Option (List Char)
  | 0, cs => some cs
  | _ + 1, [] => some []
  | n + 1, c :: cs => if c.utf8Size ≤ n + 1 then dropBytes (n + 1 - c.utf8Size) cs else none

/-- **Typed** — what is left of a line that is being typed. -/
structure Typed where
  /-- The text, backwards. -/
  text : List Char := []
  /-- The noted sizes of the visible characters that can be taken back, the last first. -/
  sizes : List Nat := []
  deriving DecidableEq, Repr

/-- One more visible character, or a backspace. -/
def Typed.step (t : Typed) (cluster : List Char) : Option Typed :=
  if cluster = [backspace] then
    match t.sizes with
    | [] => some t
    | size :: sizes => (dropBytes size t.text).map fun text => { text, sizes }
  else
    some
      { text := cluster.reverse ++ t.text
        sizes := byteCount cluster % sizesNoted :: t.sizes }

/-- **applyBackspaces** — the line that is left when the backspaces in it are carried out. -/
def applyBackspaces (cs : List Char) : Option (List Char) :=
  ((clusters cs).foldlM Typed.step {}).map (·.text.reverse)

end CommandShell.Text
