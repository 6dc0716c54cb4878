import IdleStop.Numeric.Binary64
/-!
# Shortest decimals

The decimal that stands for a double has the fewest significant digits
among those that round to it, and of those it is the nearest one; of two
equally near, the last digit is even. A grid of `k` digits is searched at
the two neighbours of the double, for `k` from 1 up; 17 digits always
suffice.
-/

namespace IdleStop

/-- The decimal `digits * 10 ^ (exponent - length + 1)`: its first digit
counts units of `10 ^ exponent`. -/
structure Decimal where
  negative : Bool
  digits : List Char
  exponent : Int
  deriving DecidableEq, Repr

namespace Binary64

/-- The position of the first significant digit of `num / den`. No double
is so small that its first digit lies beyond the 340th place. -/
def decimalExponent (num den : Nat) : Int :=
  ((Nat.toDigits 10 (num * Nat.pow 10 340 / den)).length : Int) - 341

/-- Whether `n * 10 ^ p` rounds to `x`: it lies between the midpoints to
the neighbours of `x`, ends included if the significand is even. Midpoints
are counted in quarters of the last place. -/
def readsBack (x : Binary64) (n : Nat) (p : Int) : Bool :=
  let below := if x.significand = Nat.pow 2 52 ∧ minExponent < x.exponent then 1 else 2
  let lower := 4 * x.significand - below
  let upper := 4 * x.significand + 2
  let e := x.exponent - 2
  let point := n * Nat.pow 10 p.toNat * Nat.pow 2 (-e).toNat
  let quarter := Nat.pow 10 (-p).toNat * Nat.pow 2 e.toNat
  if x.significand % 2 = 0 then lower * quarter ≤ point && point ≤ upper * quarter
  else lower * quarter < point && point < upper * quarter

/-- The multiple of `10 ^ p` that rounds to `x` and is nearest to it. -/
def onGrid? (x : Binary64) (p : Int) : Option Nat :=
  let (num, den) := x.ratio
  let n := num * Nat.pow 10 (-p).toNat
  let d := den * Nat.pow 10 p.toNat
  let lower := n / d
  let near := roundDiv n d
  if x.readsBack near p then some near
  else if x.readsBack lower p then some lower
  else if x.readsBack (lower + 1) p then some (lower + 1)
  else none

/-- The first decimal that reads back, trying `k` digits and then more up
to a total of `k + fuel`. -/
def shortestFrom (x : Binary64) (first : Int) (k : Nat) : Nat → Nat × Int
  | 0 =>
    let p := first - k + 1
    let (num, den) := x.ratio
    (roundDiv (num * Nat.pow 10 (-p).toNat) (den * Nat.pow 10 p.toNat), p)
  | fuel + 1 =>
    let p := first - k + 1
    match x.onGrid? p with
    | some n => (n, p)
    | none => shortestFrom x first (k + 1) fuel

/-- The shortest decimal that rounds to a double. -/
def shortest (x : Binary64) : Decimal :=
  if x.significand = 0 then ⟨x.negative, ['0'], 0⟩
  else
    let (num, den) := x.ratio
    let (n, p) := x.shortestFrom (decimalExponent num den) 1 16
    let digits := Nat.toDigits 10 n
    let significant := (digits.reverse.dropWhile (· = '0')).reverse
    ⟨x.negative, significant, p + digits.length - 1⟩

end Binary64

end IdleStop
