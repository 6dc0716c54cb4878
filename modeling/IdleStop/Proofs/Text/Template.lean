import IdleStop.Text.Template
import Mathlib.Data.List.Forall2
import Mathlib.Data.List.Induction
/-!
# Templates, position by position

A text fits a template just if it is the template written with one digit for
each digit position (`fits_iff_exists_write`), so a stretch of such a text is a
stretch of the template written with a stretch of the digits (`take_write`,
`drop_write`), and a stretch of digit positions reads as a number
(`ofDigitChars_write`).
-/

namespace IdleStop

namespace Digits

/-- A row of digits is below the power of ten of its length. -/
theorem toNat_lt {ds : List Nat} (h : ∀ d ∈ ds, d < 10) : toNat ds < Nat.pow 10 ds.length := by
  induction ds using List.reverseRecOn with
  | nil => exact Nat.one_pos
  | append_singleton ds d ih =>
    have hds := ih fun x hx => h x (List.mem_append_left _ hx)
    have hd := h d (by simp)
    have hpow : Nat.pow 10 (ds.length + 1) = 10 * Nat.pow 10 ds.length := Nat.mul_comm _ _
    rw [toNat_append, List.length_append, List.length_singleton, hpow]
    omega

/-- A row of digits is its number over as many digits. -/
theorem fixed_toNat {ds : List Nat} (h : ∀ d ∈ ds, d < 10) : fixed ds.length (toNat ds) = ds := by
  induction ds using List.reverseRecOn with
  | nil => rfl
  | append_singleton ds d ih =>
    have hds := ih fun x hx => h x (List.mem_append_left _ hx)
    have hd := h d (by simp)
    have hinit : (10 * toNat ds + d) / 10 = toNat ds := by omega
    have hlast : (10 * toNat ds + d) % 10 = d := by omega
    rw [List.length_append, List.length_singleton, fixed, toNat_append, hinit, hlast, hds]

/-! ## Stretches of digits -/

section Slice

variable {ds : List Nat} {start count : Nat}

theorem lt_ten_of_mem_slice (h : ∀ d ∈ ds, d < 10) :
    ∀ d ∈ (ds.drop start).take count, d < 10 := fun d hd =>
  h d (List.mem_of_mem_drop (List.mem_of_mem_take hd))

/-- A stretch of digits is below the power of ten of its length. -/
theorem toNat_slice_lt (h : ∀ d ∈ ds, d < 10) :
    toNat ((ds.drop start).take count) < Nat.pow 10 count :=
  Nat.lt_of_lt_of_le (toNat_lt (lt_ten_of_mem_slice h))
    (Nat.pow_le_pow_right (by omega) (List.length_take_le _ _))

/-- A stretch of digits is its number over as many digits. -/
theorem fixed_toNat_slice (h : ∀ d ∈ ds, d < 10) (hlen : start + count ≤ ds.length) :
    fixed count (toNat ((ds.drop start).take count)) = (ds.drop start).take count := by
  have hcount : ((ds.drop start).take count).length = count := by
    rw [List.length_take, List.length_drop]
    omega
  have hlt : ∀ d ∈ (ds.drop start).take count, d < 10 := lt_ten_of_mem_slice h
  have hfixed := fixed_toNat hlt
  rwa [hcount] at hfixed

end Slice

/-! ## Digits as characters -/

/-- The character of a digit is a decimal digit. -/
theorem isDigit_toChar {d : Nat} (h : d < 10) : (toChar d).isDigit = true := by
  rcases d with _ | _ | _ | _ | _ | _ | _ | _ | _ | _ | d <;> first | rfl | omega

/-- Every decimal digit is the character of a digit. -/
theorem exists_toChar_of_isDigit {c : Char} (h : c.isDigit = true) : ∃ d < 10, toChar d = c := by
  have hle : 48 ≤ c.toNat ∧ c.toNat ≤ 57 := by
    simpa [Char.isDigit, UInt32.le_iff_toNat_le] using h
  have hvalue : value? c = some (c.toNat - 48) := if_pos hle
  exact ⟨_, lt_ten_of_value? hvalue, toChar_of_value? hvalue⟩

theorem toNat_toChar {d : Nat} (h : d < 10) : (toChar d).toNat = 48 + d := by
  rcases d with _ | _ | _ | _ | _ | _ | _ | _ | _ | _ | d <;> first | rfl | omega

/-- Digits written out read as their number. -/
theorem ofDigitChars_map_toChar {ds : List Nat} (h : ∀ d ∈ ds, d < 10) :
    Nat.ofDigitChars 10 (ds.map toChar) 0 = toNat ds := by
  induction ds using List.reverseRecOn with
  | nil => rfl
  | append_singleton ds d ih =>
    have hds := ih fun x hx => h x (List.mem_append_left _ hx)
    have hd := toNat_toChar (h d (by simp))
    simp only [Nat.ofDigitChars, List.map_append, List.foldl_append] at hds ⊢
    rw [hds, toNat_append]
    simp [hd]

end Digits

/-- Whether a character may stand at a position. -/
def Slot.Fits : Slot → Char → Prop
  | .digit, c => c.isDigit = true
  | .mark m, c => c = m

namespace Template

variable {t : Template} {ds : List Nat} {cs rest : List Char}

/-! ## Stretches -/

theorem take_write (n : Nat) : (t.write ds).take n = write (t.take n) ds := by
  induction t generalizing n ds with
  | nil => simp [write]
  | cons s t ih =>
    cases n with
    | zero => simp [write]
    | succ n =>
      cases s with
      | digit => cases ds <;> simp [write, ih]
      | mark m => simp [write, ih]

theorem drop_write (n : Nat) :
    (t.write ds).drop n = write (t.drop n) (ds.drop (digitCount (t.take n))) := by
  induction t generalizing n ds with
  | nil => simp [write]
  | cons s t ih =>
    cases n with
    | zero => simp [digitCount]
    | succ n =>
      cases s with
      | digit => cases ds <;> simp [write, digitCount, ih]
      | mark m => simp [write, digitCount, ih]

/-- A template takes no more digits than it asks for. -/
theorem write_take : t.write (ds.take t.digitCount) = t.write ds := by
  induction t generalizing ds with
  | nil => rfl
  | cons s t ih =>
    cases s with
    | digit =>
      cases ds with
      | nil => rw [List.take_nil]
      | cons d ds => simpa [write, digitCount] using @ih ds
    | mark m => simpa [write, digitCount] using @ih ds

/-- Positions that are all digits take as many digits. -/
theorem write_replicate_digit {n : Nat} (h : n ≤ ds.length) :
    write (List.replicate n .digit) ds = (ds.take n).map Digits.toChar := by
  induction n generalizing ds with
  | zero => simp [write]
  | succ n ih =>
    cases ds with
    | nil => simp at h
    | cons d ds =>
      have hn : n ≤ ds.length := by simpa using h
      simp [List.replicate_succ, write, ih hn]

/-- A stretch of digit positions reads as the number of its digits. -/
theorem ofDigitChars_write {first count : Nat}
    (hslots : (t.drop first).take count = List.replicate count .digit)
    (hlen : digitCount (t.take first) + count ≤ ds.length) (hlt : ∀ d ∈ ds, d < 10) :
    Nat.ofDigitChars 10 (((t.write ds).drop first).take count) 0 =
      Digits.toNat ((ds.drop (digitCount (t.take first))).take count) := by
  have hcount : count ≤ (ds.drop (digitCount (t.take first))).length := by
    rw [List.length_drop]
    omega
  rw [drop_write, take_write, hslots, write_replicate_digit hcount]
  exact Digits.ofDigitChars_map_toChar (Digits.lt_ten_of_mem_slice hlt)

/-! ## Texts that fit -/

/-- **A text fits a template just if it is the template with some digits in
its digit positions.** -/
theorem fits_iff_exists_write :
    List.Forall₂ Slot.Fits t cs ↔
      ∃ ds, ds.length = t.digitCount ∧ (∀ d ∈ ds, d < 10) ∧ cs = t.write ds := by
  induction t generalizing cs with
  | nil => simp [List.forall₂_nil_left_iff, digitCount, write]
  | cons s t ih =>
    rw [List.forall₂_cons_left_iff]
    constructor
    · rintro ⟨c, cs, hc, hcs, rfl⟩
      obtain ⟨ds, hlen, hlt, rfl⟩ := ih.1 hcs
      cases s with
      | digit =>
        obtain ⟨d, hd, rfl⟩ := Digits.exists_toChar_of_isDigit hc
        refine ⟨d :: ds, ?_, List.forall_mem_cons.2 ⟨hd, hlt⟩, rfl⟩
        simpa [digitCount] using hlen
      | mark m =>
        obtain rfl : c = m := hc
        exact ⟨ds, by simpa [digitCount] using hlen, hlt, rfl⟩
    · rintro ⟨ds, hlen, hlt, rfl⟩
      cases s with
      | digit =>
        cases ds with
        | nil => simp [digitCount] at hlen
        | cons d ds =>
          obtain ⟨hd, hlt⟩ := List.forall_mem_cons.1 hlt
          exact ⟨_, _, Digits.isDigit_toChar hd,
            ih.2 ⟨ds, by simpa [digitCount] using hlen, hlt, rfl⟩, rfl⟩
      | mark m => exact ⟨m, _, rfl, ih.2 ⟨ds, by simpa [digitCount] using hlen, hlt, rfl⟩, rfl⟩

/-- What is read by a template is its digits written in it. -/
theorem read?_eq_some_iff :
    t.read? cs = some (ds, rest) ↔
      cs = t.write ds ++ rest ∧ ds.length = t.digitCount ∧ ∀ d ∈ ds, d < 10 := by
  refine ⟨eq_write_of_read?, ?_⟩
  rintro ⟨rfl, hlen, hlt⟩
  exact read?_write rest hlen hlt

/-- What a template reads in one go, its parts read one after the other. -/
theorem read?_append {t' : Template} (h : read? (t ++ t') cs = some (ds, rest)) :
    ∃ before behind between, t.read? cs = some (before, between) ∧
      t'.read? between = some (behind, rest) ∧ ds = before ++ behind := by
  induction t generalizing cs ds with
  | nil => exact ⟨[], ds, cs, rfl, h, rfl⟩
  | cons s t ih =>
    cases cs with
    | nil => cases s <;> cases h
    | cons c cs =>
      cases s with
      | digit =>
        obtain ⟨d, hd, h⟩ := Option.bind_eq_some_iff.1 h
        obtain ⟨⟨es, rest'⟩, hes, h⟩ := Option.bind_eq_some_iff.1 h
        obtain ⟨rfl, rfl⟩ := Prod.mk.inj (Option.some.inj h)
        obtain ⟨before, behind, between, hbefore, hbehind, rfl⟩ := ih hes
        refine ⟨d :: before, behind, between, ?_, hbehind, rfl⟩
        rw [read?, hd, hbefore]
        rfl
      | mark m =>
        change (if c = m then read? (t ++ t') cs else none) = some (ds, rest) at h
        split at h
        · next hc =>
          obtain ⟨before, behind, between, hbefore, hbehind, rfl⟩ := ih h
          exact ⟨before, behind, between, (if_pos hc).trans hbefore, hbehind, rfl⟩
        · cases h

end Template

end IdleStop
