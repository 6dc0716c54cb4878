/-!
# Decimal digits

Digits are numbers below ten, most significant first; only the ten ASCII
digits write them. `toNat` reads a row of digits as a number, `fixed`
writes a number over a given count of digits, and `toNat_fixed` says that
nothing but what lies beyond that count is lost.

Numerals are whole numbers as people write them in arguments: a sign, which
may be a plus, and decimal digits. A number beyond its limit is noticed at
the digit that takes it there, a character that is no digit where it stands,
and the first of them is what is wrong with the numeral.
-/

namespace IdleStop

namespace Digits

/-- The digit a character writes, if it is one of `0` to `9`. -/
def value? (c : Char) : Option Nat :=
  if 48 ≤ c.toNat ∧ c.toNat ≤ 57 then some (c.toNat - 48) else none

/-- The value of a hexadecimal digit, of either case. -/
def hexValue? (c : Char) : Option Nat :=
  let n := c.toNat
  if 48 ≤ n ∧ n ≤ 57 then some (n - 48)
  else if 65 ≤ n ∧ n ≤ 70 then some (n - 55)
  else if 97 ≤ n ∧ n ≤ 102 then some (n - 87)
  else none

/-- The character that writes a digit. -/
def toChar (d : Nat) : Char :=
  Char.ofNat (48 + d)

/-- The number a row of digits writes. -/
def toNat (ds : List Nat) : Nat :=
  ds.foldl (fun n d => 10 * n + d) 0

/-- The last `w` digits of `n`. -/
def fixed : Nat → Nat → List Nat
  | 0, _ => []
  | w + 1, n => fixed w (n / 10) ++ [n % 10]

/-- A number in decimal. -/
def decimal (n : Nat) : List Char :=
  Nat.toDigits 10 n

/-- A number in decimal, with zeros in front of it up to a width. -/
def padded (w n : Nat) : List Char :=
  List.replicate (w - (decimal n).length) '0' ++ decimal n

/-- A text that holds digits and nothing else, as a row of digits. -/
def ofChars? (cs : List Char) : Option (List Nat) :=
  cs.mapM value?

theorem value?_toChar {d : Nat} (h : d < 10) : value? (toChar d) = some d := by
  rcases d with _ | _ | _ | _ | _ | _ | _ | _ | _ | _ | d <;> first | rfl | omega

theorem lt_ten_of_value? {c : Char} {d : Nat} (h : value? c = some d) : d < 10 := by
  unfold value? at h
  split at h
  · cases h; omega
  · cases h

theorem toChar_of_value? {c : Char} {d : Nat} (h : value? c = some d) : toChar d = c := by
  unfold value? at h
  split at h
  · next hc =>
    cases h
    have : 48 + (c.toNat - 48) = c.toNat := by omega
    simp [toChar, this]
  · cases h

theorem toNat_append (ds : List Nat) (d : Nat) : toNat (ds ++ [d]) = 10 * toNat ds + d := by
  simp [toNat]

@[simp] theorem length_fixed (w n : Nat) : (fixed w n).length = w := by
  induction w generalizing n with
  | zero => rfl
  | succ w ih => simp [fixed, ih]

theorem lt_ten_of_mem_fixed {w n d : Nat} (h : d ∈ fixed w n) : d < 10 := by
  induction w generalizing n with
  | zero => cases h
  | succ w ih =>
    rcases List.mem_append.1 h with h | h
    · exact ih h
    · have := List.mem_singleton.1 h
      omega

/-- Writing over `w` digits keeps a number up to `10 ^ w`. -/
theorem toNat_fixed (w n : Nat) : toNat (fixed w n) = n % Nat.pow 10 w := by
  induction w generalizing n with
  | zero => exact (Nat.mod_one n).symm
  | succ w ih =>
    have hpow : Nat.pow 10 (w + 1) = 10 * Nat.pow 10 w := Nat.mul_comm _ _
    rw [fixed, toNat_append, ih, hpow, Nat.mod_mul]
    omega

end Digits

/-! ## Numerals -/

/-- What is wrong with a numeral. -/
inductive NumeralFault
  | empty
  | badDigit
  | tooLarge
  | tooSmall
  deriving DecidableEq, Repr

/-- What is wrong with a numeral, in words. -/
def NumeralFault.message : NumeralFault → String
  | empty => "cannot parse integer from empty string"
  | badDigit => "invalid digit found in string"
  | tooLarge => "number too large to fit in target type"
  | tooSmall => "number too small to fit in target type"

namespace Numeral

/-- Appends digits to a number as long as it stays within a limit. -/
def append (limit : Nat) (beyond : NumeralFault) : Nat → List Char → Except NumeralFault Nat
  | n, [] => .ok n
  | n, c :: cs =>
    match Digits.value? c with
    | none => .error .badDigit
    | some d => if 10 * n + d ≤ limit then append limit beyond (10 * n + d) cs else .error beyond

/-- The natural number that digits write, at least one of them. -/
def digits (limit : Nat) (beyond : NumeralFault) : List Char → Except NumeralFault Nat
  | [] => .error .badDigit
  | cs => append limit beyond 0 cs

/-- A natural number up to a limit. -/
def natural (limit : Nat) : List Char → Except NumeralFault Nat
  | [] => .error .empty
  | '+' :: cs => digits limit .tooLarge cs
  | cs => digits limit .tooLarge cs

/-- A whole number from `-limit - 1` to `limit`. -/
def integer (limit : Nat) : List Char → Except NumeralFault Int
  | '-' :: cs => (digits (limit + 1) .tooSmall cs).map fun n => -(n : Int)
  | cs => (natural limit cs).map fun n => (n : Int)

/-- The greatest number of 64 bits. -/
def maxUnsigned : Nat := Nat.pow 2 64 - 1

/-- The greatest number of 64 bits of which one is for the sign. -/
def maxSigned : Nat := Nat.pow 2 63 - 1

end Numeral

end IdleStop
