import IdleStop.Text.Digits
import IdleStop.Text.Parts
/-!
# Internet addresses of four bytes

Such an address is usually written as four numbers with dots between them.
It is read with fewer numbers too, of which the last one fills the rest of
the address, and each number may be hexadecimal, behind `0x`, or octal,
behind a zero.
-/

namespace IdleStop

namespace Http

/-- An address of four bytes. -/
structure Ipv4 where
  number : UInt32
  deriving DecidableEq, Repr

namespace Ipv4

/-- The number that digits of a base write. -/
def numeral? (base : Nat) (cs : List Char) : Option Nat :=
  match cs.mapM Digits.hexValue? with
  | some ds => if ds.all (· < base) then some (ds.foldl (fun n d => base * n + d) 0) else none
  | none => none

/-- The number that a part of an address writes. -/
def part? : List Char → Option Nat
  | [] => none
  | '0' :: 'x' :: ds => numeral? 16 ds
  | '0' :: 'X' :: ds => numeral? 16 ds
  | '0' :: d :: ds => numeral? 8 (d :: ds)
  | ds => numeral? 10 ds

/-- The parts of an address. A dot may stand at the end. -/
def partsOf (cs : List Char) : List (List Char) :=
  let all := parts (· = '.') cs
  if all.getLast? = some [] then all.dropLast else all

/-- Whether a name means an address of four bytes, or nothing: its last part
is a number. -/
def isMeant (name : List Char) : Bool :=
  match (partsOf name).getLast? with
  | none => false
  | some [] => false
  | some part => part.all (fun c => (Digits.value? c).isSome) || (part? part).isSome

/-- The address that some numbers write. -/
def ofNumbers? (numbers : List Nat) : Option Ipv4 :=
  match numbers.getLast? with
  | none => none
  | some last =>
    let front := numbers.dropLast
    if front.length < 4 && front.all (· < 256) && last < Nat.pow 256 (4 - front.length) then
      let high := front.foldl (fun n byte => 256 * n + byte) 0
      some ⟨UInt32.ofNat (high * Nat.pow 256 (4 - front.length) + last)⟩
    else none

/-- Reads an address. -/
def parse? (cs : List Char) : Option Ipv4 :=
  match (partsOf cs).mapM part? with
  | some numbers => ofNumbers? numbers
  | none => none

/-- The bytes of an address. -/
def bytes (a : Ipv4) : List Nat :=
  let n := a.number.toNat
  [n / 16777216, n / 65536 % 256, n / 256 % 256, n % 256]

/-- An address as four numbers. -/
def text (a : Ipv4) : String :=
  String.ofList (joined ['.'] (a.bytes.map Digits.decimal))

end Ipv4

end Http

end IdleStop
