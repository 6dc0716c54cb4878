/-!
# UTF-8

Bytes are read left to right. A character's first byte fixes how many bytes
follow and between which bounds the next one lies, so overlong forms,
surrogates and code points beyond the last one are rejected at the first
byte that rules them out. The bytes read up to there are one malformed
piece, and reading starts afresh at the byte that did not fit.

`scan` gives the characters and the malformed pieces in order. The strict
and the forgiving reading are two views of it.
-/

namespace IdleStop

namespace Utf8

/-- A character of which some bytes are still to come. -/
structure Pending where
  /-- What the bytes so far contribute to the code point. -/
  code : Nat
  /-- How many bytes are to come, less one. -/
  further : Nat
  /-- The least value of the next byte. -/
  low : Nat
  /-- The greatest value of the next byte. -/
  high : Nat

/-- What the first byte of a character says. -/
inductive Lead
  /-- The byte is a character by itself. -/
  | single (c : Char)
  /-- More bytes follow. -/
  | first (p : Pending)
  /-- No character starts with this byte. -/
  | invalid

/-- Reads the first byte of a character. -/
def lead (b : UInt8) : Lead :=
  let n := b.toNat
  if n < 0x80 then .single (Char.ofNat n)
  else if n < 0xc2 then .invalid
  else if n < 0xe0 then .first ⟨n - 0xc0, 0, 0x80, 0xbf⟩
  else if n < 0xf0 then
    .first ⟨n - 0xe0, 1, if n = 0xe0 then 0xa0 else 0x80, if n = 0xed then 0x9f else 0xbf⟩
  else if n < 0xf5 then
    .first ⟨n - 0xf0, 2, if n = 0xf0 then 0x90 else 0x80, if n = 0xf4 then 0x8f else 0xbf⟩
  else .invalid

/-- The characters of a run of bytes in order, with `none` for each
malformed piece. -/
def scanFrom : Option Pending → List UInt8 → List (Option Char)
  | none, [] => []
  | some _, [] => [none]
  | none, b :: bs =>
    match lead b with
    | .single c => some c :: scanFrom none bs
    | .first p => scanFrom (some p) bs
    | .invalid => none :: scanFrom none bs
  | some p, b :: bs =>
    if p.low ≤ b.toNat ∧ b.toNat ≤ p.high then
      let code := p.code * 64 + (b.toNat - 0x80)
      match p.further with
      | 0 => some (Char.ofNat code) :: scanFrom none bs
      | further + 1 => scanFrom (some ⟨code, further, 0x80, 0xbf⟩) bs
    else
      match lead b with
      | .single c => none :: some c :: scanFrom none bs
      | .first q => none :: scanFrom (some q) bs
      | .invalid => none :: none :: scanFrom none bs

/-- The characters of a run of bytes in order, with `none` for each
malformed piece. -/
def scan (bytes : List UInt8) : List (Option Char) :=
  scanFrom none bytes

/-- The text of well-formed bytes. -/
def decode? (bytes : List UInt8) : Option String :=
  ((scan bytes).mapM id).map String.ofList

/-- The text of any bytes, with U+FFFD for each malformed piece. -/
def decodeLossy (bytes : List UInt8) : String :=
  String.ofList ((scan bytes).map (·.getD '\uFFFD'))

end Utf8

end IdleStop
