import CommandShell.Decimal.Binary64

/-!
# The shortest decimal that reads back

A floating-point number is the rounding of every real in an interval around it. Its text has the
fewest digits with which a decimal falls into that interval, and among those decimals it is the
nearest one. For one digit, two digits and so on up to seventeen the two neighbours of the number on
the grid of decimals with that many digits are tried: if any point of a grid lies in the interval,
one of these two does.
-/

namespace CommandShell.Decimal

/-- **Digits** — the decimal `significand * 10 ^ exponent`. -/
structure Digits where
  significand : Nat
  exponent : Int
  deriving DecidableEq, Repr

/-- A quotient of natural numbers as a pair over the unit `10 ^ e`. -/
def inTens (num den : Nat) (e : Int) : Nat × Nat :=
  (num * Nat.pow 10 (-e).toNat, den * Nat.pow 10 e.toNat)

/-- Whether the decimal `s * 10 ^ e` rounds to the floating-point number `x`. -/
def roundsTo (x : Binary64) (s : Nat) (e : Int) : Bool :=
  Binary64.nearest (s * Nat.pow 10 e.toNat) (Nat.pow 10 (-e).toNat) == some x

/-- The exponent of the leading decimal digit of a positive quotient: `10 ^ e ≤ num / den` and
`num / den < 10 ^ (e + 1)`. The logarithm to base two gives it up to one. -/
def leadingExponent (num den : Nat) : Int :=
  let guess : Int := ((num.log2 : Int) - (den.log2 : Int) - 1) * 30103 / 100000 - 1
  let fits (e : Int) : Bool := let (n, d) := inTens num den e; d ≤ n
  if fits (guess + 2) then guess + 2 else if fits (guess + 1) then guess + 1 else guess

/-- The nearest decimal with `n` digits that reads back as `x`, if there is one. -/
def withDigits (x : Binary64) (n : Nat) : Option Digits :=
  let (num, den) := x.toQuotient
  let e := leadingExponent num den - ((n : Int) - 1)
  let (a, b) := inTens num den e
  let low := a / b
  let twice := 2 * (a % b)
  let nearLow := twice < b || (twice == b && low % 2 == 0)
  let first := if nearLow then low else low + 1
  let second := if nearLow then low + 1 else low
  if roundsTo x first e then some ⟨first, e⟩
  else if roundsTo x second e then some ⟨second, e⟩
  else none

/-- The digits without the zeros at their end, which go into the exponent. -/
def Digits.strip (d : Digits) : Nat → Digits
  | 0 => d
  | fuel + 1 =>
    if d.significand ≠ 0 ∧ d.significand % 10 = 0 then
      Digits.strip ⟨d.significand / 10, d.exponent + 1⟩ fuel
    else d

/-- **shortest** — the shortest decimal that reads back as `x`. -/
def shortest (x : Binary64) : Digits :=
  if x.mantissa = 0 then ⟨0, 0⟩
  else (((List.range 17).findSome? fun n => withDigits x (n + 1)).getD ⟨0, 0⟩).strip 20

/-- **Layout** — the decisions about how a decimal is written. -/
structure Layout where
  /-- Least exponent of the leading digit with which a number is written positionally. -/
  leastPositional : Int
  /-- Greatest exponent of the leading digit with which a number is written positionally. -/
  greatestPositional : Int

/-- Numbers are written positionally from `1e-5` up to below `1e16`. -/
def Layout.standard : Layout := ⟨-5, 15⟩

/-- A decimal as text. An integer written positionally ends in `.0`; an exponent has a sign and no
zeros in front. -/
def Layout.write (l : Layout) (d : Digits) : String :=
  let ds := Nat.toDigits 10 d.significand
  let lead : Int := d.exponent + ds.length - 1
  let text :=
    if d.significand = 0 then "0.0".toList
    else if l.leastPositional ≤ lead ∧ lead ≤ l.greatestPositional then
      if 0 ≤ d.exponent then ds ++ List.replicate d.exponent.toNat '0' ++ ".0".toList
      else if 0 ≤ lead then
        ds.take (lead.toNat + 1) ++ '.' :: ds.drop (lead.toNat + 1)
      else "0.".toList ++ List.replicate (-lead - 1).toNat '0' ++ ds
    else
      let tail := ds.drop 1
      ds.take 1 ++ (if tail.isEmpty then [] else '.' :: tail) ++ 'e'
        :: (if lead < 0 then '-' else '+') :: Nat.toDigits 10 lead.natAbs
  String.ofList text

/-- **Binary64.text** — a floating-point number as text, with the sign in front of a negative one,
zero included. -/
def Binary64.text (negative : Bool) (x : Binary64) : String :=
  (if negative then "-" else "") ++ Layout.standard.write (shortest x)

end CommandShell.Decimal
