import CommandShell.Text.Quoted
import CommandShell.Text.Blank

/-!
# What can be wrong with a JSON text

A `Fault` is a violation of the grammar, or a value that is not what its place asks for. A `Failure`
is a fault at a byte offset, which `Failure.message` shows as a line and a column. Lines count from
one, and the column is the number of bytes since the last line feed.
-/

namespace CommandShell.Json

open CommandShell.Text

/-- **Seen** — a value as it is named in a message. -/
inductive Seen
  | null
  | boolean (b : Bool)
  | integer (n : Int)
  /-- A number that is no integer of 64 bits, by its text. -/
  | floating (text : String)
  | string (s : String)
  | sequence
  | map
  deriving DecidableEq, Repr

/-- The name of a value in a message. -/
def Seen.text : Seen → String
  | .null => "null"
  | .boolean b => "boolean `" ++ toString b ++ "`"
  | .integer n => "integer `" ++ toString n ++ "`"
  | .floating text => "floating point `" ++ text ++ "`"
  | .string s => "string " ++ quote s
  | .sequence => "sequence"
  | .map => "map"

/-- **Fault** — what is wrong. -/
inductive Fault
  | endInList
  | endInObject
  | endInString
  | endInValue
  | colonExpected
  | listCommaOrEndExpected
  | objectCommaOrEndExpected
  | identExpected
  | valueExpected
  | invalidEscape
  | invalidNumber
  | numberOutOfRange
  | loneSurrogate
  | trailingComma
  | trailingCharacters
  | endInHexEscape
  | keyNotString
  | controlCharacter
  | invalidType (seen : Seen) (expected : String)
  | invalidValue (seen : Seen) (expected : String)
  | invalidLength (length : Nat) (expected : String)
  | missingField (name : String)
  | duplicateField (name : String)
  deriving DecidableEq, Repr

/-- The text of a fault. -/
def Fault.text : Fault → String
  | .endInList => "EOF while parsing a list"
  | .endInObject => "EOF while parsing an object"
  | .endInString => "EOF while parsing a string"
  | .endInValue => "EOF while parsing a value"
  | .colonExpected => "expected `:`"
  | .listCommaOrEndExpected => "expected `,` or `]`"
  | .objectCommaOrEndExpected => "expected `,` or `\x7d`"
  | .identExpected => "expected ident"
  | .valueExpected => "expected value"
  | .invalidEscape => "invalid escape"
  | .invalidNumber => "invalid number"
  | .numberOutOfRange => "number out of range"
  | .loneSurrogate => "lone leading surrogate in hex escape"
  | .trailingComma => "trailing comma"
  | .trailingCharacters => "trailing characters"
  | .endInHexEscape => "unexpected end of hex escape"
  | .keyNotString => "key must be a string"
  | .controlCharacter => "control character (\\u0000-\\u001F) found while parsing a string"
  | .invalidType seen expected => "invalid type: " ++ seen.text ++ ", expected " ++ expected
  | .invalidValue seen expected => "invalid value: " ++ seen.text ++ ", expected " ++ expected
  | .invalidLength length expected =>
    "invalid length " ++ toString length ++ ", expected " ++ expected
  | .missingField name => "missing field `" ++ name ++ "`"
  | .duplicateField name => "duplicate field `" ++ name ++ "`"

/-- **Failure** — a fault and the number of bytes up to where it shows. -/
structure Failure where
  fault : Fault
  offset : Nat
  deriving DecidableEq, Repr

/-- **Position** — a line and a column. -/
structure Position where
  line : Nat
  column : Nat
  deriving DecidableEq, Repr

/-- The position after a number of bytes. -/
def Position.after (bytes : Bytes) : Position :=
  bytes.foldl (fun p b => if b = 0x0A then ⟨p.line + 1, 0⟩ else ⟨p.line, p.column + 1⟩) ⟨1, 0⟩

/-- The text of a failure in a JSON text. -/
def Failure.message (f : Failure) (source : String) : String :=
  let p := Position.after ((encode source).take f.offset)
  f.fault.text ++ " at line " ++ toString p.line ++ " column " ++ toString p.column

end CommandShell.Json
