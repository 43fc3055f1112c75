import CommandShell.Text.Utf8
import CommandShell.Text.Visible

/-!
# Quoted text

A quoted text stands between double quotes. A quote, a backslash and the usual control characters
have short escapes, every other character without a glyph of its own is written by its number in
hexadecimal, and the bytes of an ill-formed part are written one by one. A single quote needs no
escape.
-/

namespace CommandShell.Text

/-- The digits of a number in hexadecimal, without leading zeros. -/
def hexDigits (n : Nat) : List Char := Nat.toDigits 16 n

/-- The two digits of a byte in hexadecimal. -/
def hexByte (b : UInt8) : List Char :=
  [Nat.digitChar (b.toNat / 16), Nat.digitChar (b.toNat % 16)]

/-- What a character is written as between quotes. -/
def quotedChar (c : Char) : List Char :=
  if c = '\x00' then ['\\', '0']
  else if c = '\t' then ['\\', 't']
  else if c = '\r' then ['\\', 'r']
  else if c = '\n' then ['\\', 'n']
  else if c = '"' then ['\\', '"']
  else if c = '\\' then ['\\', '\\']
  else if isVisible c then [c]
  else "\\u\x7b".toList ++ hexDigits c.toNat ++ ['\x7d']

/-- What a piece is written as between quotes: an ill-formed part as its bytes, in upper case. -/
def quotedPiece : Piece → List Char
  | .scalar c => quotedChar c
  | .broken bs => bs.flatMap fun b => ['\\', 'x'] ++ (hexByte b).map Char.toUpper

/-- **quote** — a text between quotes. -/
def quote (s : String) : String :=
  String.ofList ('"' :: s.toList.flatMap quotedChar ++ ['"'])

/-- **quoteBytes** — a byte sequence between quotes. -/
def quoteBytes (bs : Bytes) : String :=
  String.ofList ('"' :: (pieces bs).flatMap quotedPiece ++ ['"'])

end CommandShell.Text
