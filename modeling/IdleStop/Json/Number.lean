import IdleStop.Numeric.Shortest
import IdleStop.Text.Digits
/-!
# Numbers in JSON

A number literal is kept digit by digit. Whole numbers of 64 bits are
exact. Any other literal becomes a double in two steps: the digits that fit
into 64 bits are collected as a whole number, and that number is scaled
once by a power of ten, so the result can be one step away from the nearest
double. A literal beyond the greatest double has no value.
-/

namespace IdleStop

namespace Json

/-- A number as written. -/
structure Literal where
  negative : Bool
  /-- The digits before the point, never none. -/
  whole : List Nat
  /-- The digits after the point, none if there is no point. -/
  fraction : List Nat
  /-- The exponent, if one is written: whether it is negative, and its
  digits. -/
  exponent : Option (Bool × List Nat)
  deriving DecidableEq, Repr

/-- The value of a number literal. -/
inductive Number
  /-- A whole number below `2 ^ 64`. -/
  | natural (n : Nat)
  /-- The negative number `-n`, with `n` from 1 to `2 ^ 63`. -/
  | negative (n : Nat)
  | double (x : Binary64)
  deriving DecidableEq, Repr

namespace Literal

/-- Whether the literal has neither a point nor an exponent. -/
def isWhole (l : Literal) : Bool :=
  l.fraction.isEmpty && l.exponent.isNone

/-- Appends digits to a number as long as it stays below `2 ^ 64`, and
gives the digits left over. -/
def collect (n : Nat) : List Nat → Nat × List Nat
  | [] => (n, [])
  | d :: ds => if 10 * n + d < Nat.pow 2 64 then collect (10 * n + d) ds else (n, d :: ds)

/-- The written exponent, zero if there is none. -/
def exponentValue (l : Literal) : Int :=
  match l.exponent with
  | none => 0
  | some (negative, ds) => if negative then -(Digits.toNat ds : Int) else Digits.toNat ds

end Literal

end Json

namespace Binary64

/-- The greatest power of ten that is not beyond the greatest double. -/
def maxPlaces : Nat := 308

/-- The double nearest to `10 ^ k`, for `k` up to `maxPlaces`. -/
def powerOfTen? (k : Nat) : Option Binary64 :=
  ofRatio? false (Nat.pow 10 k) 1

/-- Divides so many times, as long as anything is left to divide. -/
def divideTimes? (divisor : Binary64) : Nat → Binary64 → Option Binary64
  | 0, x => some x
  | n + 1, x =>
    if x.significand = 0 then some x else (x.div? divisor).bind (divideTimes? divisor n)

/-- Divides by `10 ^ k`, for `k` above zero, in steps of at most
`maxPlaces`. -/
def shrink? (x : Binary64) (k : Nat) : Option Binary64 := do
  let steps := (k - 1) / maxPlaces
  let y ← divideTimes? (← powerOfTen? maxPlaces) steps x
  if y.significand = 0 then some y else y.div? (← powerOfTen? (k - steps * maxPlaces))

/-- Scales by a power of ten, with one rounding for every `maxPlaces`. -/
def scale? (x : Binary64) (e : Int) : Option Binary64 :=
  if x.significand = 0 then some x
  else if e < 0 then x.shrink? (-e).toNat
  else if e ≤ maxPlaces then (powerOfTen? e.toNat).bind x.mul?
  else none

end Binary64

namespace Json

namespace Number

/-- The value of a literal, unless it is beyond the greatest double. A
negative zero is a double, for no whole number has its sign. -/
def ofLiteral? (l : Literal) : Option Number := do
  let (n, dropped) := Literal.collect 0 l.whole
  if l.isWhole && dropped.isEmpty then
    if !l.negative then return natural n
    if n = 0 then return double (.zero true)
    if n ≤ Nat.pow 2 63 then return negative n
  let (significand, unread) := Literal.collect n l.fraction
  let places : Int := (dropped.length : Int) - (l.fraction.length - unread.length)
  let x ← Binary64.ofRatio? l.negative significand 1
  return double (← x.scale? (places + l.exponentValue))

/-- The nearest double. -/
def toDouble? : Number → Option Binary64
  | natural n => Binary64.ofInt? n
  | negative n => Binary64.ofInt? (-n)
  | double x => some x

/-- A decimal as text: with a point, and at least one digit after it, from
the fifth place after the point to the sixteenth before it; with an exponent
beyond that. -/
def decimalText (d : Decimal) : List Char :=
  let sign := if d.negative then ['-'] else []
  let mantissa :=
    if -5 ≤ d.exponent ∧ d.exponent < 0 then
      ['0', '.'] ++ List.replicate (-d.exponent - 1).toNat '0' ++ d.digits
    else if 0 ≤ d.exponent ∧ d.exponent < 16 then
      let n := d.exponent.toNat + 1
      let whole := d.digits.take n ++ List.replicate (n - d.digits.length) '0'
      let fraction := d.digits.drop n
      whole ++ '.' :: if fraction.isEmpty then ['0'] else fraction
    else
      let fraction := d.digits.drop 1
      let point := if fraction.isEmpty then [] else '.' :: fraction
      let exponentSign := if d.exponent < 0 then '-' else '+'
      d.digits.take 1 ++ point ++ 'e' :: exponentSign :: Digits.decimal d.exponent.natAbs
  sign ++ mantissa

/-- A number as text. -/
def text : Number → String
  | natural n => String.ofList (Digits.decimal n)
  | negative n => String.ofList ('-' :: Digits.decimal n)
  | double x => String.ofList (decimalText x.shortest)

end Number

end Json

end IdleStop
