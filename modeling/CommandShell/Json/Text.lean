import CommandShell.Json.Cursor

/-!
# Strings in a JSON text

`Cursor.string` reads a string after its opening quote. `Cursor.skipString` passes over one whose
content nobody needs: it accepts escapes of lone surrogates, and it places the fault of a control
character before that character and not after it.
-/

namespace CommandShell.Json

/-- The value of a hexadecimal digit. -/
def hexValue? (c : Char) : Option Nat :=
  if c.isDigit then some (c.toNat - 0x30)
  else if 'a' ≤ c && c ≤ 'f' then some (c.toNat - 0x61 + 10)
  else if 'A' ≤ c && c ≤ 'F' then some (c.toNat - 0x41 + 10)
  else none

/-- Whether a code unit is the first half of a pair. -/
def isHighSurrogate (n : Nat) : Bool := 0xD800 ≤ n && n ≤ 0xDBFF

/-- Whether a code unit is the second half of a pair. -/
def isLowSurrogate (n : Nat) : Bool := 0xDC00 ≤ n && n ≤ 0xDFFF

/-- The character of a pair of code units. -/
def pairedChar (high low : Nat) : Char :=
  Char.ofNat ((high - 0xD800) * 0x400 + (low - 0xDC00) + 0x10000)

/-- The character that a one-letter escape stands for. -/
def escapedChar? (c : Char) : Option Char :=
  match c with
  | '"' => some '"'
  | '\\' => some '\\'
  | '/' => some '/'
  | 'b' => some '\x08'
  | 'f' => some '\x0c'
  | 'n' => some '\n'
  | 'r' => some '\r'
  | 't' => some '\t'
  | _ => none

namespace Cursor

/-- The four digits of a numeric escape. Four bytes are consumed before they are looked at. -/
def fourHex (c : Cursor) : Except Failure (Nat × Cursor) :=
  match c.rest.take 4 |>.mapM hexValue? with
  | some [a, b, d, e] => .ok (((a * 16 + b) * 16 + d) * 16 + e, c.skip 4)
  | _ =>
    let left := c.bytesLeft
    if left < 4 then .error ⟨.endInString, c.offset + left⟩
    else .error ⟨.invalidEscape, c.offset + 4⟩

/-- Consumes the character `x`, which a pair of code units needs here. -/
def pairMark (c : Cursor) (x : Char) : Except Failure Cursor :=
  match c.rest with
  | [] => c.fault .endInString
  | y :: _ => if x = y then .ok c.next else c.faultAhead .endInHexEscape

/-- A numeric escape after its `u`, with the second half of a pair. -/
def unicodeEscape (c : Cursor) : Except Failure (Char × Cursor) := do
  let (n, c) ← c.fourHex
  if isLowSurrogate n then c.fault .loneSurrogate
  else if isHighSurrogate n then
    let c ← c.pairMark '\\'
    let c ← c.pairMark 'u'
    let (m, c) ← c.fourHex
    if isLowSurrogate m then .ok (pairedChar n m, c) else c.fault .loneSurrogate
  else .ok (Char.ofNat n, c)

/-- An escape after its backslash. -/
def escape (c : Cursor) : Except Failure (Char × Cursor) :=
  match c.rest with
  | [] => c.fault .endInString
  | 'u' :: _ => c.next.unicodeEscape
  | x :: _ =>
    match escapedChar? x with
    | some y => .ok (y, c.next)
    | none => c.faultAhead .invalidEscape

/-- Reads a string after its opening quote, with the characters so far in reverse order. -/
def stringFrom : Nat → List Char → Cursor → Except Failure (String × Cursor)
  | 0, _, c => c.fault .endInString
  | fuel + 1, got, c =>
    match c.rest with
    | [] => c.fault .endInString
    | '"' :: _ => .ok (String.ofList got.reverse, c.next)
    | '\\' :: _ => do
      let (x, c) ← c.next.escape
      stringFrom fuel (x :: got) c
    | x :: _ =>
      if x.toNat < 0x20 then c.faultAhead .controlCharacter else stringFrom fuel (x :: got) c.next

/-- **string** — reads a string after its opening quote. The fuel is at least the number of
characters that are left. -/
def string (fuel : Nat) (c : Cursor) : Except Failure (String × Cursor) := stringFrom fuel [] c

/-- Passes over an escape after its backslash. -/
def skipEscape (c : Cursor) : Except Failure Cursor :=
  match c.rest with
  | [] => c.fault .endInString
  | 'u' :: _ => c.next.fourHex.map (·.2)
  | x :: _ => if (escapedChar? x).isSome then .ok c.next else c.faultAhead .invalidEscape

/-- **skipString** — passes over a string after its opening quote. The fuel is at least the number
of characters that are left. -/
def skipString : Nat → Cursor → Except Failure Cursor
  | 0, c => c.fault .endInString
  | fuel + 1, c =>
    match c.rest with
    | [] => c.fault .endInString
    | '"' :: _ => .ok c.next
    | '\\' :: _ => do skipString fuel (← c.next.skipEscape)
    | x :: _ => if x.toNat < 0x20 then c.fault .controlCharacter else skipString fuel c.next

end Cursor

end CommandShell.Json
