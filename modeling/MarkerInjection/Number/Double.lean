-- Binary floating point numbers of double precision, without a sign: rounding
-- to the nearest, products and quotients.

namespace MarkerInjection

/-! ## Powers -/

/-- Two to this power. -/
def twoTo (n : Nat) : Nat := Nat.pow 2 n

/-- Ten to this power. -/
def tenTo (n : Nat) : Nat := Nat.pow 10 n

/-! ## The numbers -/

/-- The number `mantissa * 2 ^ exponent`. Rounding gives mantissas below `2 ^ 53` and exponents
from -1074 on. -/
structure Double where
  mantissa : Nat
  exponent : Int
  deriving Repr, DecidableEq, Inhabited

namespace Double

def zero : Double := ⟨0, -1074⟩

/-- The number as a fraction: numerator and denominator. -/
def fraction (x : Double) : Nat × Nat :=
  (x.mantissa * twoTo x.exponent.toNat, twoTo (-x.exponent).toNat)

/-- No double is as great as this number. -/
def isInfinite (x : Double) : Bool :=
  let (num, den) := x.fraction
  num ≥ den * twoTo 1024

/-! ## Rounding -/

/-- The quotient rounded to the nearest whole number, a half to the even one. -/
def roundDiv (num den : Nat) : Nat :=
  let q := num / den
  let r := num % den
  if 2 * r > den || (2 * r == den && q % 2 == 1) then q + 1 else q

/-- The exponent of the greatest power of two that is not above the fraction. -/
def binaryExponent (num den : Nat) : Int :=
  let guess := (num.log2 : Int) - den.log2
  if num * twoTo (-guess).toNat ≥ den * twoTo guess.toNat then guess else guess - 1

/-- The double nearest to a fraction, the even one of two. The range has no upper end. -/
def ofFraction (num den : Nat) : Double :=
  if num = 0 then zero
  else
    let exponent := max (binaryExponent num den - 52) (-1074)
    let m := roundDiv (num * twoTo (-exponent).toNat) (den * twoTo exponent.toNat)
    if m = twoTo 53 then ⟨twoTo 52, exponent + 1⟩ else ⟨m, exponent⟩

def ofNat (n : Nat) : Double := ofFraction n 1

/-! ## Arithmetic -/

def mul (x y : Double) : Double :=
  let (a, b) := x.fraction
  let (c, d) := y.fraction
  ofFraction (a * c) (b * d)

def div (x y : Double) : Double :=
  let (a, b) := x.fraction
  let (c, d) := y.fraction
  ofFraction (a * d) (b * c)

/-- The double nearest to a power of ten. -/
def powerOfTen (n : Nat) : Double := ofNat (tenTo n)

/-- A whole number scaled by a power of ten, in steps of at most 308 places, each of which is
rounded; nothing if the result is too great. The bound is only there to end the loop. -/
def scale : Nat → Double → Int → Option Double
  | 0, x, _ => some x
  | n + 1, x, e =>
    if e.natAbs ≤ 308 then
      if e ≥ 0 then
        let y := x.mul (powerOfTen e.toNat)
        if y.isInfinite then none else some y
      else some (x.div (powerOfTen (-e).toNat))
    else if x.mantissa = 0 then some x
    else if e ≥ 0 then none
    else scale n (x.div (powerOfTen 308)) (e + 308)

/-- The double that the digits and the power of ten of a decimal number give. -/
def ofDecimal? (significand : Nat) (exponent : Int) : Option Double :=
  scale (exponent.natAbs / 308 + 2) (ofNat significand) exponent

end Double

end MarkerInjection
