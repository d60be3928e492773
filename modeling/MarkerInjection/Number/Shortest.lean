-- The shortest decimal text that reads back as a double.
import MarkerInjection.Number.Double

namespace MarkerInjection

namespace Double

/-! ## The interval of a double -/

/-- The fraction lies where rounding gives this double: within half a step, and at the ends if
the mantissa is even. Below a power of two the steps are half as wide. -/
def isNear (x : Double) (num den : Nat) : Bool :=
  let narrow := x.mantissa = twoTo 52 && x.exponent > -1074
  let scaled := fun (quarters : Nat) =>
    (quarters * twoTo x.exponent.toNat * den, num * 4 * twoTo (-x.exponent).toNat)
  let (low, here) := scaled (4 * x.mantissa - (if narrow then 1 else 2))
  let (high, _) := scaled (4 * x.mantissa + 2)
  if x.mantissa % 2 = 0 then low ≤ here && here ≤ high else low < here && here < high

/-! ## The digits -/

/-- How many places lie before the point; not above zero for numbers below one. -/
def placesBefore (num den : Nat) : Int :=
  let guess := (((num.log2 : Int) - den.log2) * 30103) / 100000 - 1
  let atLeast := fun (e : Int) => num * tenTo (-e).toNat ≥ den * tenTo e.toNat
  if atLeast (guess + 2) then guess + 3
  else if atLeast (guess + 1) then guess + 2
  else if atLeast guess then guess + 1
  else guess

/-- The nearer of the two whole multiples of a power of ten around the double that read back
as it, the even one of two as near; nothing if none does. -/
def nearestOnGrid? (x : Double) (e : Int) : Option Nat :=
  let (num, den) := x.fraction
  let num := num * tenTo (-e).toNat
  let den := den * tenTo e.toNat
  let below := num / den
  let readsBack := fun (d : Nat) => x.isNear (d * tenTo e.toNat) (tenTo (-e).toNat)
  let twice := 2 * (num % den)
  let upper := twice > den || (twice == den && below % 2 == 1)
  if readsBack below && !(upper && readsBack (below + 1)) then some below
  else if readsBack (below + 1) then some (below + 1)
  else none

/-- The first grid that holds the double, from coarse to fine: the whole number on it and the
power of ten. -/
def shortestFrom (x : Double) (places : Int) : Nat → Nat × Int
  | 0 => (0, 0)
  | n + 1 =>
    let e := places - (17 - (n : Int))
    match nearestOnGrid? x e with
    | some d => (d, e)
    | none => shortestFrom x places n

/-- Takes zeros off the end of a whole number. -/
def withoutZeros : Nat → Nat → Int → Nat × Int
  | 0, d, e => (d, e)
  | n + 1, d, e => if d ≠ 0 && d % 10 = 0 then withoutZeros n (d / 10) (e + 1) else (d, e)

/-- The fewest digits that read back as the double, as a whole number times a power of ten. -/
def shortest (x : Double) : Nat × Int :=
  if x.mantissa = 0 then (0, 0)
  else
    let (num, den) := x.fraction
    let (d, e) := shortestFrom x (placesBefore num den) 17
    withoutZeros 20 d e

/-! ## The text -/

/-- Between these powers of ten numbers are written without an exponent. -/
def leastPositional : Int := -5

def greatestPositional : Int := 15

/-- The sign of an exponent and its digits. -/
def exponentText (e : Int) : List Char :=
  (if e < 0 then '-' else '+') :: Nat.toDigits 10 e.natAbs

/-- The shortest text that reads back, always with a point or an exponent. -/
def text (x : Double) (negative : Bool) : String :=
  let (d, e) := x.shortest
  let digits := Nat.toDigits 10 d
  let leading := (digits.length : Int) - 1 + e
  let body :=
    if leastPositional ≤ leading && leading ≤ greatestPositional then
      if e ≥ 0 then digits ++ List.replicate e.toNat '0' ++ ['.', '0']
      else if leading ≥ 0 then
        digits.take (leading.toNat + 1) ++ ['.'] ++ digits.drop (leading.toNat + 1)
      else ['0', '.'] ++ List.replicate (-leading - 1).toNat '0' ++ digits
    else
      digits.take 1 ++ (if digits.length > 1 then '.' :: digits.drop 1 else []) ++ ['e'] ++
        exponentText leading
  String.ofList ((if negative then ['-'] else []) ++ body)

end Double

end MarkerInjection
