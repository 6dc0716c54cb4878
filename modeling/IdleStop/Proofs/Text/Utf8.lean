import IdleStop.Text.Utf8
/-!
# Reading UTF-8 back

The bytes of a text are read as that text, one character after the other. A
byte after a character's first adds six bits to what the bytes before it say,
so what is pending after each byte is the code point less the bits to come.
-/

namespace IdleStop

namespace Utf8

variable {n further low high : Nat} {p : Pending} {c : Char} {b : UInt8} {bs : List UInt8}

/-- The byte that carries the last six bits of a number. -/
def tail (n : Nat) : UInt8 :=
  UInt8.ofNat (n % 64 + 0x80)

theorem toNat_ofNat (h : n < 256) : (UInt8.ofNat n).toNat = n :=
  UInt8.toNat_ofNat_of_lt h

theorem toNat_tail (n : Nat) : (tail n).toNat = n % 64 + 0x80 :=
  toNat_ofNat (by omega)

theorem scanFrom_of_single (h : lead b = .single c) :
    scanFrom none (b :: bs) = some c :: scanFrom none bs := by
  rw [scanFrom, h]

theorem scanFrom_of_first (h : lead b = .first p) :
    scanFrom none (b :: bs) = scanFrom (some p) bs := by
  rw [scanFrom, h]

/-- The last byte of a character. -/
theorem scanFrom_last (hlow : low ≤ n % 64 + 0x80) (hhigh : n % 64 + 0x80 ≤ high) :
    scanFrom (some ⟨n / 64, 0, low, high⟩) (tail n :: bs) =
      some (Char.ofNat n) :: scanFrom none bs := by
  have hcode : n / 64 * 64 + (n % 64 + 0x80 - 0x80) = n := by omega
  rw [scanFrom, toNat_tail, if_pos ⟨hlow, hhigh⟩]
  simp only [hcode]

/-- A byte of a character that more bytes follow. -/
theorem scanFrom_further (hlow : low ≤ n % 64 + 0x80) (hhigh : n % 64 + 0x80 ≤ high) :
    scanFrom (some ⟨n / 64, further + 1, low, high⟩) (tail n :: bs) =
      scanFrom (some ⟨n, further, 0x80, 0xbf⟩) bs := by
  have hcode : n / 64 * 64 + (n % 64 + 0x80 - 0x80) = n := by omega
  rw [scanFrom, toNat_tail, if_pos ⟨hlow, hhigh⟩]
  simp only [hcode]

/-! ## The first byte -/

theorem lead_one (h : n < 0x80) : lead (UInt8.ofNat n) = .single (Char.ofNat n) := by
  simp only [lead, toNat_ofNat (show n < 256 by omega)]
  rw [if_pos h]

theorem lead_two (hlow : 2 ≤ n) (hhigh : n < 0x20) :
    lead (UInt8.ofNat (n % 32 + 0xc0)) = .first ⟨n, 0, 0x80, 0xbf⟩ := by
  rw [Nat.mod_eq_of_lt hhigh]
  simp only [lead, toNat_ofNat (show n + 0xc0 < 256 by omega)]
  rw [if_neg (by omega), if_neg (by omega), if_pos (by omega), Nat.add_sub_cancel]

theorem lead_three (h : n < 0x10) :
    lead (UInt8.ofNat (n % 16 + 0xe0)) =
      .first ⟨n, 1, if n = 0 then 0xa0 else 0x80, if n = 0xd then 0x9f else 0xbf⟩ := by
  rw [Nat.mod_eq_of_lt h]
  simp only [lead, toNat_ofNat (show n + 0xe0 < 256 by omega), Nat.add_eq_right,
    Nat.reduceEqDiff]
  rw [if_neg (by omega), if_neg (by omega), if_neg (by omega), if_pos (by omega),
    Nat.add_sub_cancel]

theorem lead_four (h : n < 5) :
    lead (UInt8.ofNat (n % 8 + 0xf0)) =
      .first ⟨n, 2, if n = 0 then 0x90 else 0x80, if n = 4 then 0x8f else 0xbf⟩ := by
  rw [Nat.mod_eq_of_lt (show n < 8 by omega)]
  simp only [lead, toNat_ofNat (show n + 0xf0 < 256 by omega), Nat.add_eq_right,
    Nat.reduceEqDiff]
  rw [if_neg (by omega), if_neg (by omega), if_neg (by omega), if_neg (by omega),
    if_pos (by omega), Nat.add_sub_cancel]

/-- **The bytes of a character are read as that character.** -/
theorem scanFrom_utf8EncodeChar (c : Char) (bs : List UInt8) :
    scanFrom none (String.utf8EncodeChar c ++ bs) = some c :: scanFrom none bs := by
  have hvalid : c.val.toNat < 0xd800 ∨ 0xdfff < c.val.toNat ∧ c.val.toNat < 0x110000 := c.valid
  have hchar : Char.ofNat c.val.toNat = c := Char.ofNat_toNat c
  unfold String.utf8EncodeChar
  generalize c.val.toNat = v at hvalid hchar
  dsimp only
  split
  · rw [List.singleton_append, scanFrom_of_single (lead_one (by omega)), hchar]
  · split
    · change scanFrom none (_ :: tail v :: bs) = _
      rw [scanFrom_of_first (lead_two (by omega) (by omega)),
        scanFrom_last (by omega) (by omega), hchar]
    · -- the bounds of the second byte keep out what would be written shorter, and surrogates
      split
      · change scanFrom none (_ :: tail (v / 64) :: tail v :: bs) = _
        have hdiv : v / 64 / 64 = v / 4096 := Nat.div_div_eq_div_mul v 64 64
        rw [scanFrom_of_first (lead_three (by omega)), ← hdiv,
          scanFrom_further (by split <;> omega) (by split <;> omega),
          scanFrom_last (by omega) (by omega), hchar]
      · change scanFrom none (_ :: tail (v / 4096) :: tail (v / 64) :: tail v :: bs) = _
        have hdiv : v / 64 / 64 = v / 4096 := Nat.div_div_eq_div_mul v 64 64
        have hdiv' : v / 4096 / 64 = v / 262144 := Nat.div_div_eq_div_mul v 4096 64
        rw [scanFrom_of_first (lead_four (by omega)), ← hdiv',
          scanFrom_further (by split <;> omega) (by split <;> omega), ← hdiv,
          scanFrom_further (by omega) (by omega), scanFrom_last (by omega) (by omega), hchar]

/-- The bytes of characters are read as those characters. -/
theorem scan_utf8Encode (cs : List Char) :
    scan (cs.flatMap String.utf8EncodeChar) = cs.map some := by
  rw [scan]
  induction cs with
  | nil => rfl
  | cons c cs ih => rw [List.flatMap_cons, scanFrom_utf8EncodeChar, ih, List.map_cons]

/-- The bytes of a text are those of its characters. -/
theorem bytes_toUTF8 (s : String) :
    s.toUTF8.data.toList = s.toList.flatMap String.utf8EncodeChar := by
  conv => lhs; rw [← String.ofList_toList (s := s)]
  rw [String.toUTF8_eq_toByteArray, String.toByteArray_ofList, List.utf8Encode]
  simp

/-- **The bytes of a text are read as that text.** -/
theorem decodeLossy_toUTF8 (s : String) : decodeLossy s.toUTF8.data.toList = s := by
  rw [decodeLossy, bytes_toUTF8, scan_utf8Encode, List.map_map]
  exact (congrArg String.ofList (List.map_id _)).trans String.ofList_toList

/-- And they are well-formed. -/
theorem decode?_toUTF8 (s : String) : decode? s.toUTF8.data.toList = some s := by
  have hall : ∀ cs : List Char, (cs.map some).mapM id = some cs := by
    intro cs
    induction cs with
    | nil => rfl
    | cons c cs ih => simp [ih]
  rw [decode?, bytes_toUTF8, scan_utf8Encode, hall, Option.map_some, String.ofList_toList]

end Utf8

end IdleStop
