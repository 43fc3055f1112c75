/-!
# UTF-8 text inside byte sequences

A byte sequence is cut into **pieces**: scalar values, and ill-formed parts that are as long as a
beginning of a well-formed sequence can be (the "maximal subpart" rule of the Unicode standard).
`decode` shows each ill-formed part as one U+FFFD, `decode?` refuses them, and `encode` writes text
as bytes.

The cutting is a fold of a small automaton over the bytes. A line feed is never a continuation
byte, so the automaton is back in its starting state after every line feed: this is why decoding a
file line by line and decoding it whole agree.
-/

namespace CommandShell.Text

/-- A sequence of bytes: the content of a file, a name, a line as it stands in its source. -/
abbrev Bytes := List UInt8

/-- **Piece** — a unit of a byte sequence read as UTF-8. -/
inductive Piece
  /-- A well-formed sequence, by the scalar value that it encodes. -/
  | scalar (c : Char)
  /-- A maximal ill-formed part. -/
  | broken (bytes : Bytes)
  deriving DecidableEq, Repr

/-- The character shown for an ill-formed part. -/
def replacement : Char := '\uFFFD'

/-- The character that a piece is shown as. -/
def Piece.shown : Piece → Char
  | .scalar c => c
  | .broken _ => replacement

/-- The scalar value of a well-formed piece. -/
def Piece.scalar? : Piece → Option Char
  | .scalar c => some c
  | .broken _ => none

/-- **Begun** — a multi-byte sequence that is not complete yet. -/
structure Begun where
  /-- The bytes read so far. -/
  taken : Bytes
  /-- How many continuation bytes are to follow, at least one. -/
  missing : Nat
  /-- Least value of the next byte. -/
  low : UInt8
  /-- Greatest value of the next byte. -/
  high : UInt8
  /-- The bits collected so far. -/
  value : Nat
  deriving DecidableEq, Repr

/-- What a byte means where no sequence is open: a piece of its own, or the lead of a longer one.
The ranges for the second byte keep out overlong forms, surrogates and values above U+10FFFF. -/
def lead (b : UInt8) : Piece ⊕ Begun :=
  if b < 0x80 then .inl (.scalar (Char.ofNat b.toNat))
  else if b < 0xC2 then .inl (.broken [b])
  else if b < 0xE0 then .inr ⟨[b], 1, 0x80, 0xBF, b.toNat - 0xC0⟩
  else if b < 0xF0 then
    .inr ⟨[b], 2, if b = 0xE0 then 0xA0 else 0x80, if b = 0xED then 0x9F else 0xBF, b.toNat - 0xE0⟩
  else if b < 0xF5 then
    .inr ⟨[b], 3, if b = 0xF0 then 0x90 else 0x80, if b = 0xF4 then 0x8F else 0xBF, b.toNat - 0xF0⟩
  else .inl (.broken [b])

/-- **Decoder** — the pieces found so far, newest first, and the sequence that is open. -/
structure Decoder where
  found : List Piece := []
  begun : Option Begun := none
  deriving DecidableEq, Repr

namespace Decoder

/-- Reads a byte where no sequence is open. -/
def enter (found : List Piece) (b : UInt8) : Decoder :=
  match lead b with
  | .inl p => ⟨p :: found, none⟩
  | .inr o => ⟨found, some o⟩

/-- Reads one byte. A byte that cannot continue the open sequence ends it as ill-formed and is
then read on its own. -/
def step (d : Decoder) (b : UInt8) : Decoder :=
  match d.begun with
  | none => enter d.found b
  | some o =>
    if o.low ≤ b ∧ b ≤ o.high then
      let value := o.value * 64 + (b.toNat - 0x80)
      if o.missing = 1 then ⟨.scalar (Char.ofNat value) :: d.found, none⟩
      else ⟨d.found, some ⟨o.taken ++ [b], o.missing - 1, 0x80, 0xBF, value⟩⟩
    else enter (.broken o.taken :: d.found) b

/-- The pieces in order; a sequence still open at the end is ill-formed. -/
def finish (d : Decoder) : List Piece :=
  match d.begun with
  | none => d.found.reverse
  | some o => (.broken o.taken :: d.found).reverse

end Decoder

/-- The pieces of a byte sequence, in order. -/
def pieces (bs : Bytes) : List Piece := (bs.foldl Decoder.step {}).finish

/-- **decode** — the text of a byte sequence, with U+FFFD for every ill-formed part. -/
def decode (bs : Bytes) : String := String.ofList ((pieces bs).map Piece.shown)

/-- **decode?** — the text of a byte sequence that is well-formed throughout. -/
def decode? (bs : Bytes) : Option String := ((pieces bs).mapM Piece.scalar?).map String.ofList

/-- **encode** — the bytes of a text. -/
def encode (s : String) : Bytes := s.toList.flatMap String.utf8EncodeChar

end CommandShell.Text
