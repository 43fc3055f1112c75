/-!
# Binary floating-point numbers of 64 bits, without sign

A finite number is `mantissa * 2 ^ exponent` with a mantissa below `2 ^ 53` and an exponent from
-1074 to 971. `Binary64.nearest` rounds a quotient of natural numbers to the nearest such number,
a tie to the even mantissa; products and quotients are the exact ones, rounded. All of it is
arithmetic on natural numbers.
-/

namespace CommandShell.Decimal

/-- **Binary64** — a finite floating-point number that is not negative. -/
structure Binary64 where
  mantissa : Nat
  exponent : Int
  deriving DecidableEq, Repr

namespace Binary64

/-- Mantissas are below `2 ^ 53`. -/
def mantissaLimit : Nat := 0x20000000000000

/-- The number zero. -/
def zero : Binary64 := ⟨0, -1074⟩

/-- The quotient rounded to the nearest integer, a tie to the even one. -/
def divideToEven (num den : Nat) : Nat :=
  let q := num / den
  let twice := 2 * (num % den)
  if twice < den then q
  else if den < twice then q + 1
  else if q % 2 = 0 then q else q + 1

/-- The factor by which a numerator is multiplied for the exponent `e`. -/
def scaleUp (e : Int) : Nat := Nat.pow 2 e.toNat

/-- The quotient as a pair over the unit `2 ^ e`: `num / den = (n / d) * 2 ^ e`. -/
def inUnits (num den : Nat) (e : Int) : Nat × Nat := (num * scaleUp (-e), den * scaleUp e)

/-- **nearest** — the floating-point number nearest to `num / den`, or nothing if the quotient
rounds beyond the greatest one. -/
def nearest (num den : Nat) : Option Binary64 :=
  if num = 0 then some zero
  else
    let guess : Int := max ((num.log2 : Int) - (den.log2 : Int) - 53) (-1074)
    let (n, d) := inUnits num den guess
    let e := if mantissaLimit * d ≤ n then guess + 1 else guess
    let (n, d) := inUnits num den e
    let m := divideToEven n d
    let (m, e) := if m = mantissaLimit then (mantissaLimit / 2, e + 1) else (m, e)
    if 971 < e then none else some ⟨m, e⟩

/-- The number as a quotient of natural numbers. -/
def toQuotient (x : Binary64) : Nat × Nat :=
  (x.mantissa * scaleUp x.exponent, scaleUp (-x.exponent))

/-- The floating-point number nearest to a natural number. -/
def ofNat (n : Nat) : Option Binary64 := nearest n 1

/-- The product, rounded; nothing if it is too great. -/
def mul (x y : Binary64) : Option Binary64 :=
  nearest (x.toQuotient.1 * y.toQuotient.1) (x.toQuotient.2 * y.toQuotient.2)

/-- The quotient, rounded; nothing if it is too great. -/
def div (x y : Binary64) : Option Binary64 :=
  nearest (x.toQuotient.1 * y.toQuotient.2) (x.toQuotient.2 * y.toQuotient.1)

end Binary64

end CommandShell.Decimal
