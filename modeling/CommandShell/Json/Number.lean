import CommandShell.Decimal.Shortest
import CommandShell.Json.Cursor

/-!
# Numbers in a JSON text

A number without fraction and exponent that fits into 64 bits is an integer. Every other number is
floating: the digits are gathered into a significand for as long as it fits into 64 bits, and the
significand, rounded to 53 bits, is multiplied or divided once by a power of ten that is itself
rounded. `Cursor.skipNumber` passes over a number whose value nobody needs, which is never out of
range.
-/

namespace CommandShell.Json

open CommandShell.Decimal

/-- **Number** — a number that was read. -/
inductive Number
  | natural (n : Nat)
  /-- A negative integer, by its absolute value. -/
  | negative (n : Nat)
  | floating (isNegative : Bool) (x : Binary64)
  deriving DecidableEq, Repr

/-- The number as it is named in a message. -/
def Number.seen : Number → Seen
  | .natural n => .integer n
  | .negative n => .integer (-n)
  | .floating isNegative x => .floating (x.text isNegative)

/-- The greatest significand. -/
def significandLimit : Nat := 0xFFFFFFFFFFFFFFFF

/-- The greatest absolute value of a negative integer. -/
def negativeLimit : Nat := 0x8000000000000000

/-- The greatest exponent that is read. -/
def exponentLimit : Int := 0x7FFFFFFF

/-- The value of a digit. -/
def digitValue (c : Char) : Nat := c.toNat - 0x30

/-- **Gathered** — digits added to a significand. -/
structure Gathered where
  significand : Nat
  /-- How many digits were added. -/
  count : Nat
  rest : List Char
  deriving DecidableEq, Repr

/-- Adds digits to a significand up to a limit. -/
def gather (limit significand count : Nat) : List Char → Gathered
  | [] => ⟨significand, count, []⟩
  | c :: rest =>
    if c.isDigit ∧ significand * 10 + digitValue c ≤ limit then
      gather limit (significand * 10 + digitValue c) (count + 1) rest
    else ⟨significand, count, c :: rest⟩

/-- The power of ten as a floating-point number. -/
def powerOfTen (n : Nat) : Option Binary64 := Binary64.ofNat (Nat.pow 10 n)

/-- The greatest power of ten that is a floating-point number. -/
def powerLimit : Nat := 308

/-- A floating-point number divided by a power of ten. One beyond the greatest power is divided by
that first, up to a number of times: two such divisions take every significand to zero. -/
def scaleDown : Nat → Binary64 → Nat → Option Binary64
  | 0, x, _ => some x
  | times + 1, x, e =>
    if e ≤ powerLimit then (powerOfTen e).bind x.div
    else if x.mantissa = 0 then some x
    else ((powerOfTen powerLimit).bind x.div).bind fun y => scaleDown times y (e - powerLimit)

/-- A floating-point number times a power of ten; nothing if it is too great. -/
def scale (x : Binary64) (e : Int) : Option Binary64 :=
  if e < 0 then scaleDown 4 x e.natAbs
  else if e.natAbs ≤ powerLimit then (powerOfTen e.natAbs).bind x.mul
  else if x.mantissa = 0 then some x
  else none

namespace Cursor

/-- Whether a digit is looked at. -/
def atDigit (c : Cursor) : Bool := c.peek?.any Char.isDigit

/-- The number of digits that are looked at. -/
def digitCount (c : Cursor) : Nat := (c.rest.takeWhile Char.isDigit).length

/-- Whether an exponent is looked at. -/
def atExponent (c : Cursor) : Bool := c.peek? == some 'e' || c.peek? == some 'E'

/-- The floating number with a significand and an exponent. -/
def floating (c : Cursor) (isNegative : Bool) (significand : Nat) (e : Int) :
    Except Failure (Number × Cursor) :=
  match (Binary64.ofNat significand).bind (scale · e) with
  | none => c.fault .numberOutOfRange
  | some x => .ok (.floating isNegative x, c)

/-- The position after an exponent mark and a sign, and whether the exponent is negative. -/
def exponentSign (c : Cursor) : Bool × Cursor :=
  match c.next.peek? with
  | some '+' => (false, c.next.next)
  | some '-' => (true, c.next.next)
  | _ => (false, c.next)

/-- An exponent and what follows from it. -/
def exponent (c : Cursor) (isNegative : Bool) (significand : Nat) (before : Int) :
    Except Failure (Number × Cursor) :=
  let (down, c) := c.exponentSign
  match c.rest with
  | [] => c.fault .endInValue
  | x :: _ =>
    if !x.isDigit then c.faultAhead .invalidNumber
    else
      let g := gather exponentLimit.toNat 0 0 c.rest
      let c := c.skip g.count
      if c.atDigit then
        if significand ≠ 0 ∧ !down then (c.skip 1).fault .numberOutOfRange
        else .ok (.floating isNegative .zero, c.skip c.digitCount)
      else
        let e : Int := if down then before - g.significand else before + g.significand
        c.floating isNegative significand (max (-exponentLimit - 1) (min exponentLimit e))

/-- What follows the digits of a floating number. -/
def floatingEnd (c : Cursor) (isNegative : Bool) (significand : Nat) (e : Int) :
    Except Failure (Number × Cursor) :=
  if c.atExponent then c.exponent isNegative significand e else c.floating isNegative significand e

/-- A fraction and what follows from it. Digits beyond the significand are passed over. -/
def fraction (c : Cursor) (isNegative : Bool) (significand : Nat) (before : Int) :
    Except Failure (Number × Cursor) :=
  let c := c.next
  let g := gather significandLimit significand 0 c.rest
  let e := before - g.count
  let after := c.skip g.count
  if after.atDigit then (after.skip after.digitCount).floatingEnd isNegative g.significand e
  else if g.count = 0 then
    if c.rest.isEmpty then c.fault .endInValue else c.faultAhead .invalidNumber
  else after.floatingEnd isNegative g.significand e

/-- What follows the integral digits, the last `dropped` of which are not in the significand. -/
def afterIntegral (c : Cursor) (isNegative : Bool) (significand dropped : Nat) :
    Except Failure (Number × Cursor) :=
  if c.peek? = some '.' then c.fraction isNegative significand dropped
  else if c.atExponent then c.exponent isNegative significand dropped
  else if dropped ≠ 0 then c.floating isNegative significand dropped
  else if !isNegative then .ok (.natural significand, c)
  else if 0 < significand ∧ significand ≤ negativeLimit then .ok (.negative significand, c)
  else c.floating true significand 0

/-- **number** — reads a number after its sign. -/
def number (c : Cursor) (isNegative : Bool) : Except Failure (Number × Cursor) :=
  match c.rest with
  | [] => c.fault .endInValue
  | x :: _ =>
    if x = '0' then
      if c.next.atDigit then c.next.faultAhead .invalidNumber
      else c.next.afterIntegral isNegative 0 0
    else if !x.isDigit then c.faultAhead .invalidNumber
    else
      let g := gather significandLimit 0 0 c.rest
      let c := c.skip g.count
      let dropped := c.digitCount
      (c.skip dropped).afterIntegral isNegative g.significand dropped

/-- Passes over at least one digit, which must be there. -/
def skipExponent (c : Cursor) : Except Failure Cursor :=
  let c := c.exponentSign.2
  match c.rest with
  | [] => c.fault .invalidNumber
  | x :: _ => if x.isDigit then .ok (c.skip c.digitCount) else c.faultAhead .invalidNumber

/-- Passes over what follows the integral digits. -/
def skipFraction (c : Cursor) : Except Failure Cursor :=
  if c.peek? = some '.' then
    let c := c.next
    if !c.atDigit then c.faultAhead .invalidNumber
    else
      let c := c.skip c.digitCount
      if c.atExponent then c.skipExponent else .ok c
  else if c.atExponent then c.skipExponent
  else .ok c

/-- **skipNumber** — passes over a number after its sign. -/
def skipNumber (c : Cursor) : Except Failure Cursor :=
  match c.rest with
  | [] => c.fault .invalidNumber
  | x :: _ =>
    if x = '0' then
      if c.next.atDigit then c.next.faultAhead .invalidNumber else c.next.skipFraction
    else if x.isDigit then (c.skip c.digitCount).skipFraction
    else c.faultAhead .invalidNumber

end Cursor

end CommandShell.Json
