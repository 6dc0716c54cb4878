import IdleStop.Numeric.Binary64
import IdleStop.Time.Rfc3339
/-!
# TOML scalars

A value without quotes or brackets is understood from its text alone: a
truth value, a whole number, a number with a fraction or an exponent, or a
date or time. No text is more than one of these.

Underscores may stand between digits and nowhere else. Whole numbers are
those of 128 bits, signed or not, and a number beyond the greatest double is
no number. Dates and times are those of RFC 3339, except that the offset,
the time, the seconds or the date may be missing.
-/

namespace IdleStop

namespace Toml

/-- A number that is not whole, or not written so. -/
inductive Real
  | finite (x : Binary64)
  | infinite (negative : Bool)
  | undefined (negative : Bool)
  deriving DecidableEq, Repr

/-- A value without parts. -/
inductive Scalar
  | bool (b : Bool)
  | integer (i : Int)
  | real (x : Real)
  /-- A date, a time or both, as written. -/
  | moment (text : List Char)
  | string (text : String)
  deriving DecidableEq, Repr

namespace Scalar

/-! ## Digits -/

/-- The value of a digit in a base up to 16. -/
def digit? (base : Nat) (c : Char) : Option Nat :=
  (Digits.hexValue? c).filter (· < base)

/-- A row of digits in a base, at least one, with single underscores between
them. -/
def digits? (base : Nat) : List Char → Option (List Nat)
  | [] => none
  | [c] => (digit? base c).map ([·])
  | c :: '_' :: cs => do return (← digit? base c) :: (← digits? base cs)
  | c :: cs => do return (← digit? base c) :: (← digits? base cs)

/-- The number that digits write in a base. -/
def ofDigits (base : Nat) (ds : List Nat) : Nat :=
  ds.foldl (fun n d => base * n + d) 0

/-- A row of decimal digits that has no zero in front of another digit. -/
def plainDigits? (cs : List Char) : Option (List Nat) :=
  match digits? 10 cs with
  | some (0 :: _ :: _) => none
  | ds => ds

/-- A text without a sign in front, and whether that is a minus. -/
def unsigned : List Char → Bool × List Char
  | '-' :: cs => (true, cs)
  | '+' :: cs => (false, cs)
  | cs => (false, cs)

/-! ## Numbers -/

/-- A whole number with no bound: decimal, or in a base that its first
letters name. -/
def unbounded? (cs : List Char) : Option Int :=
  let inBase (base : Nat) (cs : List Char) : Option Int :=
    (digits? base cs).map fun ds => (ofDigits base ds : Int)
  match cs with
  | '0' :: 'x' :: cs => inBase 16 cs
  | '0' :: 'o' :: cs => inBase 8 cs
  | '0' :: 'b' :: cs => inBase 2 cs
  | cs =>
    let (negative, cs) := unsigned cs
    (plainDigits? cs).map fun ds =>
      if negative then -(ofDigits 10 ds : Int) else ofDigits 10 ds

/-- A whole number. -/
def integer? (cs : List Char) : Option Int :=
  (unbounded? cs).filter fun i => -(Nat.pow 2 127 : Int) ≤ i && i < (Nat.pow 2 128 : Int)

/-- The double nearest to `± n * 10 ^ e`, unless it is beyond the greatest.
The number of digits tells what lies far outside the range of doubles. -/
def scaled? (negative : Bool) (n : Nat) (e : Int) : Option Binary64 :=
  let magnitude := ((Nat.toDigits 10 n).length : Int) + e
  if n = 0 ∨ magnitude < -400 then some (Binary64.zero negative)
  else if 400 < magnitude then none
  else Binary64.ofRatio? negative (n * Nat.pow 10 e.toNat) (Nat.pow 10 (-e).toNat)

/-- The exponent that a text is, zero if there is none. -/
def exponent? : List Char → Option Int
  | [] => some 0
  | _ :: cs =>
    let (negative, cs) := unsigned cs
    (digits? 10 cs).map fun ds => if negative then -(ofDigits 10 ds : Int) else ofDigits 10 ds

/-- Whether a character begins the exponent of a number. -/
def isExponentMark (c : Char) : Bool :=
  c = 'e' || c = 'E'

/-- A number with a fraction, an exponent or both. -/
def decimal? (cs : List Char) : Option Binary64 := do
  let (negative, cs) := unsigned cs
  let mantissa := cs.takeWhile fun c => !isExponentMark c
  let exponent := cs.dropWhile fun c => !isExponentMark c
  let whole ← plainDigits? (mantissa.takeWhile (· != '.'))
  let fraction ← match mantissa.dropWhile (· != '.') with
    | [] => if exponent.isEmpty then none else some []
    | _ :: cs => digits? 10 cs
  scaled? negative (ofDigits 10 (whole ++ fraction)) ((← exponent? exponent) - fraction.length)

/-- A number that is not whole, or not written so. -/
def real? (cs : List Char) : Option Real :=
  let (negative, word) := unsigned cs
  if word = "inf".toList then some (.infinite negative)
  else if word = "nan".toList then some (.undefined negative)
  else (decimal? cs).map .finite

/-! ## Dates and times -/

/-- `:SS` -/
def secondTemplate : Template :=
  [.mark ':', .digit, .digit]

/-- Takes a date off the front of a text. -/
def dropDate? (cs : List Char) : Option (List Char) :=
  match ActivityStamp.dateTemplate.read? cs with
  | some (ds, rest) =>
    (Date.ofParts? (Digits.toNat (ds.take 4)) (Digits.toNat ((ds.drop 4).take 2))
      (Digits.toNat (ds.drop 6))).map fun _ => rest
  | none => none

/-- Takes hour and minute off the front of a text. -/
def dropMinute? (cs : List Char) : Option (List Char) :=
  match Rfc3339.offsetTemplate.read? cs with
  | some (ds, rest) =>
    if Digits.toNat (ds.take 2) < 24 ∧ Digits.toNat (ds.drop 2) < 60 then some rest else none
  | none => none

/-- Takes a point and digits off the front of a text that has a point there. -/
def dropFraction? : List Char → Option (List Char)
  | '.' :: cs =>
    let rest := cs.dropWhile fun c => (Digits.value? c).isSome
    if rest.length < cs.length then some rest else none
  | cs => some cs

/-- Takes a time off the front of a text: hour and minute, seconds if they
are given, and then a fraction of a second if it is. -/
def dropTime? (cs : List Char) : Option (List Char) := do
  let rest ← dropMinute? cs
  match rest with
  | ':' :: _ =>
    match secondTemplate.read? rest with
    | some (ds, rest) => if Digits.toNat ds ≤ 60 then dropFraction? rest else none
    | none => none
  | _ => some rest

/-- Whether a text is an offset from UTC, or nothing. -/
def isOffset : List Char → Bool
  | [] | ['Z'] | ['z'] => true
  | '+' :: cs | '-' :: cs => dropMinute? cs = some []
  | _ => false

/-- Whether a text is a date, a time, or a date and a time with or without
an offset. -/
def isMoment (cs : List Char) : Bool :=
  match dropDate? cs with
  | none => dropTime? cs = some []
  | some [] => true
  | some (c :: cs) => Rfc3339.isSeparator c && (dropTime? cs).any isOffset

/-! ## All scalars without quotes -/

/-- The scalar that a text without quotes is. -/
def ofChars? (cs : List Char) : Option Scalar :=
  if cs = "true".toList then some (.bool true)
  else if cs = "false".toList then some (.bool false)
  else if isMoment cs then some (.moment cs)
  else
    match integer? cs with
    | some i => some (.integer i)
    | none => (real? cs).map .real

end Scalar

end Toml

end IdleStop
