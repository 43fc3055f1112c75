import CommandShell.Text.Quoted

/-!
# Text that cannot steer a terminal

A terminal takes some control characters for commands. In an inert text these are written by their
numbers: escape, bell, backspace, form feed and delete as a byte, and the control characters from
U+0080 to U+009F as a character. All others stay, tabs and the ends of lines included.
-/

namespace CommandShell.Text

/-- The ASCII characters that a terminal takes for commands. -/
def steeringBytes : List UInt8 := [0x07, 0x08, 0x0C, 0x1B, 0x7F]

/-- What a character is written as in an inert text. -/
def inertChar (c : Char) : List Char :=
  match steeringBytes.find? fun b => b.toNat = c.toNat with
  | some b => ['\\', 'x'] ++ hexByte b
  | none =>
    if 0x80 ≤ c.toNat ∧ c.toNat ≤ 0x9F then
      "\\u\x7b".toList ++ hexDigits c.toNat ++ ['\x7d']
    else [c]

/-- **inert** — a text that a terminal only shows. -/
def inert (s : String) : String := String.ofList (s.toList.flatMap inertChar)

end CommandShell.Text
