import CommandShell.Json.Number
import CommandShell.Json.Text

/-!
# Values that nobody needs

`Cursor.skipValue` passes over a value of any depth and checks its syntax. The brackets that are
open stand in a list, so that the depth of a value is no depth of recursion.
-/

namespace CommandShell.Json

/-- **Frame** — an open bracket. -/
inductive Frame
  | list
  | object
  deriving DecidableEq, Repr

namespace Frame

/-- The character that closes the bracket. -/
def closer : Frame → Char
  | .list => ']'
  | .object => '\x7d'

/-- The fault of a text that ends before the bracket is closed. -/
def endFault : Frame → Fault
  | .list => .endInList
  | .object => .endInObject

/-- The fault of anything else between two elements. -/
def commaFault : Frame → Fault
  | .list => .listCommaOrEndExpected
  | .object => .objectCommaOrEndExpected

end Frame

/-- **Stage** — what comes next while values are passed over. -/
inductive Stage
  | value
  /-- The first element, or the end, of the innermost bracket. -/
  | opened
  /-- What follows a value. -/
  | valued
  deriving DecidableEq, Repr

namespace Cursor

/-- Passes over a key and its colon. -/
def skipKey (size : Nat) (c : Cursor) : Except Failure Cursor := do
  let c := c.skipSpace
  match c.rest with
  | [] => c.fault .endInObject
  | '"' :: _ =>
    let c := (← c.next.skipString size).skipSpace
    match c.rest with
    | [] => c.fault .endInObject
    | ':' :: _ => .ok c.next
    | _ => c.faultAhead .colonExpected
  | _ => c.faultAhead .keyNotString

/-- Passes over what precedes the value of an element. -/
def skipToValue (size : Nat) (frame : Frame) (c : Cursor) : Except Failure Cursor :=
  match frame with
  | .list => .ok c
  | .object => c.skipKey size

/-- Passes over a value that is no bracket; nothing if a bracket is looked at. -/
def skipScalar (size : Nat) (c : Cursor) : Except Failure Cursor :=
  match c.rest with
  | [] => c.fault .endInValue
  | 'n' :: _ => c.next.word ['u', 'l', 'l']
  | 't' :: _ => c.next.word ['r', 'u', 'e']
  | 'f' :: _ => c.next.word ['a', 'l', 's', 'e']
  | '-' :: _ => c.next.skipNumber
  | '"' :: _ => c.next.skipString size
  | x :: _ => if x.isDigit then c.skipNumber else c.faultAhead .valueExpected

/-- Passes over values until the brackets in the list are closed. -/
def skipFrom (size : Nat) : Nat → Stage → List Frame → Cursor → Except Failure Cursor
  | 0, _, _, c => c.fault .endInValue
  | fuel + 1, .value, frames, c => do
    let c := c.skipSpace
    match c.peek? with
    | some '[' => skipFrom size fuel .opened (.list :: frames) c.next
    | some '\x7b' => skipFrom size fuel .opened (.object :: frames) c.next
    | _ => skipFrom size fuel .valued frames (← c.skipScalar size)
  | fuel + 1, .opened, frame :: frames, c => do
    let c := c.skipSpace
    match c.peek? with
    | none => c.fault frame.endFault
    | some x =>
      if x = frame.closer then skipFrom size fuel .valued frames c.next
      else skipFrom size fuel .value (frame :: frames) (← c.skipToValue size frame)
  | fuel + 1, .valued, frame :: frames, c => do
    let c := c.skipSpace
    match c.peek? with
    | none => c.fault frame.endFault
    | some x =>
      if x = ',' then
        skipFrom size fuel .value (frame :: frames) (← c.next.skipToValue size frame)
      else if x = frame.closer then skipFrom size fuel .valued frames c.next
      else c.faultAhead frame.commaFault
  | _ + 1, _, [], c => .ok c

/-- **skipValue** — passes over a value. The size is at least the number of characters that are
left; every character is met in at most two stages. -/
def skipValue (size : Nat) (c : Cursor) : Except Failure Cursor :=
  skipFrom size (2 * size + 2) .value [] c

end Cursor

end CommandShell.Json
