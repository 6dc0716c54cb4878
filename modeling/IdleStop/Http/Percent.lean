import IdleStop.Text.Digits
/-!
# Percent escapes

In an address a byte may be written as a percent sign and two hexadecimal
digits. Characters that would be misread in some part of an address are
written by their bytes. Reading undoes that, unless the percent sign itself
is kept (`bytes_escape`).
-/

namespace IdleStop

namespace Percent

/-- A hexadecimal digit, as a capital. -/
def digitChar (n : Nat) : Char :=
  (Nat.digitChar n).toUpper

/-- The escape of a byte. -/
def escapeByte (b : UInt8) : List Char :=
  ['%', digitChar (b.toNat / 16), digitChar (b.toNat % 16)]

/-- A text in which only some characters are kept as themselves. -/
def escape (keeps : Char → Bool) (cs : List Char) : List Char :=
  cs.flatMap fun c => if keeps c then [c] else (String.utf8EncodeChar c).flatMap escapeByte

/-- The bytes of a text with escapes. A percent sign that begins no escape is
one itself. -/
def bytes : List Char → List UInt8
  | [] => []
  | '%' :: high :: low :: cs =>
    match Digits.hexValue? high, Digits.hexValue? low with
    | some h, some l => UInt8.ofNat (16 * h + l) :: bytes cs
    | _, _ => 0x25 :: bytes (high :: low :: cs)
  | c :: cs => String.utf8EncodeChar c ++ bytes cs

end Percent

end IdleStop
