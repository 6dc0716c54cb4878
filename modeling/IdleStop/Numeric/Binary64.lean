/-!
# Finite doubles, exactly

A finite double is a sign and a significand of at most 53 bits times a
power of two. Every operation takes the exact rational result and rounds
it once, to the nearest double and to the even one of two equally near
(`ofRatio?`); a result that would be infinite is `none`.
-/

namespace IdleStop

/-- The double `± significand * 2 ^ exponent`. -/
structure Binary64 where
  negative : Bool
  significand : Nat
  exponent : Int
  deriving DecidableEq, Repr

namespace Binary64

/-- The exponent of the subnormal doubles. -/
def minExponent : Int := -1074

/-- The exponent of the greatest doubles. -/
def maxExponent : Int := 971

/-- A quotient rounded to the nearest whole number, a half to the even
neighbour. -/
def roundDiv (num den : Nat) : Nat :=
  let quotient := num / den
  let twice := 2 * (num % den)
  if den < twice ∨ (twice = den ∧ quotient % 2 = 1) then quotient + 1 else quotient

/-- Numerator and denominator of `num / den / 2 ^ e`. -/
def scaled (num den : Nat) (e : Int) : Nat × Nat :=
  if 0 ≤ e then (num, den * Nat.pow 2 e.toNat) else (num * Nat.pow 2 (-e).toNat, den)

/-- The exponent at which `num / den` has 53 bits before the point, or the
least one if that is greater. The bit lengths tell it up to one. -/
def exponentOf (num den : Nat) : Int :=
  let guess := max minExponent ((num.log2 : Int) - den.log2 - 53)
  let (n, d) := scaled num den guess
  if n / d < Nat.pow 2 53 then guess else guess + 1

/-- The double nearest to `± num / den`, unless it is beyond the greatest. -/
def ofRatio? (negative : Bool) (num den : Nat) : Option Binary64 :=
  let e := exponentOf num den
  let (n, d) := scaled num den e
  let s := roundDiv n d
  if s = Nat.pow 2 53 then
    if e < maxExponent then some ⟨negative, Nat.pow 2 52, e + 1⟩ else none
  else if e ≤ maxExponent then some ⟨negative, s, e⟩
  else none

/-- The double nearest to a whole number. -/
def ofInt? (i : Int) : Option Binary64 :=
  ofRatio? (i < 0) i.natAbs 1

/-- Zero, of either sign. -/
def zero (negative : Bool) : Binary64 :=
  ⟨negative, 0, minExponent⟩

/-- Numerator and denominator of the absolute value. -/
def ratio (x : Binary64) : Nat × Nat :=
  if 0 ≤ x.exponent then (x.significand * Nat.pow 2 x.exponent.toNat, 1)
  else (x.significand, Nat.pow 2 (-x.exponent).toNat)

/-- The product, rounded. -/
def mul? (x y : Binary64) : Option Binary64 :=
  ofRatio? (x.negative != y.negative) (x.ratio.1 * y.ratio.1) (x.ratio.2 * y.ratio.2)

/-- The quotient by a divisor other than zero, rounded. -/
def div? (x y : Binary64) : Option Binary64 :=
  ofRatio? (x.negative != y.negative) (x.ratio.1 * y.ratio.2) (x.ratio.2 * y.ratio.1)

/-- The nearest whole number, a half away from zero. -/
def round (x : Binary64) : Int :=
  let (num, den) := x.ratio
  let magnitude : Int := ((2 * num + den) / (2 * den) : Nat)
  if x.negative then -magnitude else magnitude

end Binary64

end IdleStop
