/-!
# `Number.Binary64` — 64-bit binary floating point numbers, as exact values

A number of a document that is written with a point or an exponent is kept as the nearest 64-bit
binary value. The value is held as a whole mantissa and a power of two, so that everything said
about it is said in exact integer arithmetic.
-/

set_option autoImplicit false

namespace ClassModel
namespace Number

/-- A 64-bit binary number. A finite one is `mantissa * 2 ^ exponent` with a mantissa below
`2 ^ 53`; the exponent is at least `-1074`, and the mantissa is at least `2 ^ 52` above that
exponent. -/
inductive Binary64
  | nan
  | infinite (negative : Bool)
  | finite (negative : Bool) (mantissa : Nat) (exponent : Int)
  deriving DecidableEq, Repr

namespace Binary64

/-- The exponent of the least positive value. -/
def leastExponent : Int := -1074

/-- The greatest exponent of a finite value. -/
def greatestExponent : Int := 971

/-- The quotient rounded to the nearest whole number, a half to the even one. -/
def divideEven (num den : Nat) : Nat :=
  let q := num / den
  let twice := 2 * (num % den)
  if twice < den then q else if den < twice then q + 1 else q + q % 2

/-- The exponent at which `num / den` has a mantissa of 53 bits. -/
def exponentOf (num den : Nat) : Int :=
  let guess : Int := (num.log2 : Int) - den.log2 - 52
  -- `num / den` lies between `2 ^ (guess + 51)` and `2 ^ (guess + 53)`
  let up := num * Nat.pow 2 (-(guess + 52)).toNat
  let down := den * Nat.pow 2 (guess + 52).toNat
  if down ≤ up then guess else guess - 1

/-- The value nearest to a positive quotient, of two equally near the one with an even mantissa. -/
def ofQuotient (negative : Bool) (num den : Nat) : Binary64 :=
  let e := max leastExponent (exponentOf num den)
  let m := divideEven (num * Nat.pow 2 (-e).toNat) (den * Nat.pow 2 e.toNat)
  let (m, e) := if m = Nat.pow 2 53 then (Nat.pow 2 52, e + 1) else (m, e)
  if greatestExponent < e then .infinite negative else .finite negative m e

/-- The value nearest to `digits * 10 ^ exponent`. -/
def ofDecimal (negative : Bool) (digits : Nat) (exponent : Int) : Binary64 :=
  if digits = 0 then .finite negative 0 leastExponent
  else
    -- three tenths of the binary logarithm bound the decimal one from below, 31/100 from above;
    -- so no power of ten below grows beyond what the digits bring with them
    if 310 < (digits.log2 : Int) * 3 / 10 + exponent then .infinite negative
    else if ((digits.log2 : Int) + 1) * 31 / 100 + exponent < -330 then
      .finite negative 0 leastExponent
    else if 0 ≤ exponent then ofQuotient negative (digits * Nat.pow 10 exponent.toNat) 1
    else ofQuotient negative digits (Nat.pow 10 (-exponent).toNat)

/-- Is the value zero, of either sign? -/
def isZero : Binary64 → Bool
  | .finite _ m _ => m == 0
  | _ => false

end Binary64

/-- The order of `a * 2 ^ x` and `b * 2 ^ y`. -/
def compareScaled (a x b y : Int) : Ordering :=
  compare (a * Nat.pow 2 (x - y).toNat) (b * Nat.pow 2 (y - x).toNat)

end Number
end ClassModel
