import CommandShell.Text.Quoted

/-!
# JSON values and their compact text

The compact text has no white space. In a string the quote, the backslash and the control
characters are escaped, the usual ones by a letter and the others by four hexadecimal digits in
lower case; every other character stands for itself.
-/

namespace CommandShell.Json

open CommandShell.Text

/-- **Value** — a JSON value. Numbers are natural, as no others are written. -/
inductive Value
  | null
  | boolean (b : Bool)
  | number (n : Nat)
  | string (s : String)
  | array (elements : List Value)
  | object (members : List (String × Value))

namespace Value

/-- The value of an option: `null` if there is none. -/
def ofOption {α : Type} (f : α → Value) : Option α → Value
  | none => .null
  | some x => f x

/-- What a character is written as in a string. -/
def escapeChar (c : Char) : List Char :=
  if c = '"' then ['\\', '"']
  else if c = '\\' then ['\\', '\\']
  else if c = '\x08' then ['\\', 'b']
  else if c = '\x0c' then ['\\', 'f']
  else if c = '\n' then ['\\', 'n']
  else if c = '\r' then ['\\', 'r']
  else if c = '\t' then ['\\', 't']
  else if c.toNat < 0x20 then
    ['\\', 'u', '0', '0', Nat.digitChar (c.toNat / 16), Nat.digitChar (c.toNat % 16)]
  else [c]

/-- The compact text of a string. -/
def stringText (s : String) : String :=
  String.ofList ('"' :: s.toList.flatMap escapeChar ++ ['"'])

mutual

/-- **compact** — the text of a value without white space. -/
def compact : Value → String
  | .null => "null"
  | .boolean b => toString b
  | .number n => toString n
  | .string s => stringText s
  | .array elements => "[" ++ ",".intercalate (compactElements elements) ++ "]"
  | .object members => "\x7b" ++ ",".intercalate (compactMembers members) ++ "\x7d"

/-- The texts of the elements of an array. -/
def compactElements : List Value → List String
  | [] => []
  | v :: rest => v.compact :: compactElements rest

/-- The texts of the members of an object. -/
def compactMembers : List (String × Value) → List String
  | [] => []
  | (name, v) :: rest => (stringText name ++ ":" ++ v.compact) :: compactMembers rest

end

end Value

end CommandShell.Json
