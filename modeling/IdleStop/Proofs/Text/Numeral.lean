import IdleStop.Text.Digits
/-!
# How numerals are read

A numeral is read as the number that it spells, if that is within the limit, and
is wrong otherwise (`natural_eq_ok_iff`, `integer_eq_ok_iff`). Leading zeros do
not matter, and neither does a plus.
-/

namespace IdleStop

theorem Digits.value?_eq_some_iff {c : Char} {d : Nat} :
    value? c = some d ↔ d < 10 ∧ toChar d = c := by
  refine ⟨fun h => ⟨lt_ten_of_value? h, toChar_of_value? h⟩, ?_⟩
  rintro ⟨hd, rfl⟩
  exact value?_toChar hd

namespace Numeral

variable {limit n m : Nat} {i : Int} {beyond : NumeralFault} {ds : List Nat} {cs : List Char}

/-- Digits, at least one of them, that write a number. -/
inductive SpellsDigits (n : Nat) : List Char → Prop
  | mk {d : Nat} {ds : List Nat} (hds : ∀ e ∈ d :: ds, e < 10)
      (hn : Digits.toNat (d :: ds) = n) : SpellsDigits n ((d :: ds).map Digits.toChar)

/-- A natural number: digits, and a plus in front of them or nothing. -/
inductive SpellsNatural (n : Nat) : List Char → Prop
  | plain {cs : List Char} (h : SpellsDigits n cs) : SpellsNatural n cs
  | plus {cs : List Char} (h : SpellsDigits n cs) : SpellsNatural n ('+' :: cs)

/-- A whole number: a natural one, or digits with a minus in front of them. -/
inductive SpellsInteger (i : Int) : List Char → Prop
  | natural {n : Nat} {cs : List Char} (hi : i = n) (h : SpellsNatural n cs) : SpellsInteger i cs
  | minus {n : Nat} {cs : List Char} (hi : i = -n) (h : SpellsDigits n cs) :
    SpellsInteger i ('-' :: cs)

/-! ## Digits -/

/-- Digits make a number no smaller. -/
theorem le_foldl (n : Nat) (ds : List Nat) : n ≤ ds.foldl (fun n d => 10 * n + d) n := by
  induction ds generalizing n with
  | nil => exact Nat.le_refl n
  | cons d ds ih =>
    have hstep := ih (10 * n + d)
    rw [List.foldl_cons]
    omega

/-- Digits are appended just if they are digits and the number stays within the
limit. -/
theorem append_eq_ok_iff (hn : n ≤ limit) :
    append limit beyond n cs = .ok m ↔
      ∃ ds : List Nat, (∀ d ∈ ds, d < 10) ∧ ds.map Digits.toChar = cs ∧
        ds.foldl (fun n d => 10 * n + d) n = m ∧ m ≤ limit := by
  induction cs generalizing n with
  | nil =>
    rw [append]
    constructor
    · rintro ⟨⟩
      exact ⟨[], List.forall_mem_nil _, rfl, rfl, hn⟩
    · rintro ⟨ds, -, hds, rfl, -⟩
      rw [List.map_eq_nil_iff.1 hds]
      rfl
  | cons c cs ih =>
    rw [append]
    constructor
    · intro h
      cases hvalue : Digits.value? c with
      | none => simp [hvalue] at h
      | some d =>
        obtain ⟨hd, rfl⟩ := Digits.value?_eq_some_iff.1 hvalue
        simp only [hvalue] at h
        split at h
        · next hnext =>
          obtain ⟨ds, hds, rfl, hm, hlimit⟩ := (ih hnext).1 h
          exact ⟨d :: ds, List.forall_mem_cons.2 ⟨hd, hds⟩, rfl, hm, hlimit⟩
        · cases h
    · rintro ⟨ds, hds, hcs, hm, hlimit⟩
      obtain ⟨d, ds, rfl, rfl, rfl⟩ := List.map_eq_cons_iff.1 hcs
      obtain ⟨hd, hds⟩ := List.forall_mem_cons.1 hds
      have hnext : 10 * n + d ≤ limit := by
        have hfoldl := le_foldl (10 * n + d) ds
        rw [List.foldl_cons] at hm
        omega
      simp only [Digits.value?_toChar hd, if_pos hnext]
      exact (ih hnext).2 ⟨ds, hds, rfl, hm, hlimit⟩

theorem digits_eq_ok_iff :
    digits limit beyond cs = .ok n ↔ SpellsDigits n cs ∧ n ≤ limit := by
  cases cs with
  | nil =>
    refine iff_of_false nofun ?_
    rintro ⟨⟨⟩, -⟩
  | cons c cs =>
    have hdigits : digits limit beyond (c :: cs) = append limit beyond 0 (c :: cs) := rfl
    rw [hdigits, append_eq_ok_iff (Nat.zero_le limit)]
    constructor
    · rintro ⟨ds, hds, hcs, hn, hlimit⟩
      obtain ⟨d, ds, rfl, rfl, rfl⟩ := List.map_eq_cons_iff.1 hcs
      exact ⟨.mk hds hn, hlimit⟩
    · rintro ⟨⟨hds, hn⟩, hlimit⟩
      exact ⟨_, hds, rfl, hn, hlimit⟩

/-! ## Signs -/

/-- No sign is a digit. -/
theorem SpellsDigits.head?_ne (h : SpellsDigits n cs) {sign : Char}
    (hsign : Digits.value? sign = none) : cs.head? ≠ some sign := by
  obtain ⟨hds, -⟩ := h
  intro hhead
  cases hhead
  rw [Digits.value?_toChar (hds _ List.mem_cons_self)] at hsign
  cases hsign

/-- **Natural numbers are read as they are spelled**, up to the limit. -/
theorem natural_eq_ok_iff :
    natural limit cs = .ok n ↔ SpellsNatural n cs ∧ n ≤ limit := by
  unfold natural
  split
  · refine iff_of_false nofun ?_
    rintro ⟨⟨⟨⟩⟩, -⟩
  · rw [digits_eq_ok_iff]
    refine and_congr_left fun _ => ⟨.plus, fun h => ?_⟩
    cases h with
    | plain h => exact absurd rfl (h.head?_ne rfl)
    | plus h => exact h
  · next hplus =>
    rw [digits_eq_ok_iff]
    refine and_congr_left fun _ => ⟨.plain, fun h => ?_⟩
    cases h with
    | plain h => exact h
    | plus h => exact absurd rfl (hplus _)

theorem SpellsNatural.head?_ne_minus (h : SpellsNatural n cs) : cs.head? ≠ some '-' := by
  cases h with
  | plain h => exact h.head?_ne rfl
  | plus h => simp

/-- **Whole numbers are read as they are spelled**, between the limits. -/
theorem integer_eq_ok_iff :
    integer limit cs = .ok i ↔ SpellsInteger i cs ∧ -(limit + 1 : Int) ≤ i ∧ i ≤ limit := by
  unfold integer
  split
  · next cs =>
    constructor
    · intro h
      cases hdigits : digits (limit + 1) .tooSmall cs with
      | error fault =>
        rw [hdigits] at h
        cases h
      | ok n =>
        obtain ⟨hn, hlimit⟩ := digits_eq_ok_iff.1 hdigits
        rw [hdigits] at h
        obtain rfl : -(n : Int) = i := Except.ok.inj h
        exact ⟨.minus rfl hn, by omega, by omega⟩
    · rintro ⟨h, hlow, -⟩
      cases h with
      | natural _ h => exact absurd rfl h.head?_ne_minus
      | minus hi h =>
        rw [digits_eq_ok_iff.2 ⟨h, by omega⟩, hi]
        rfl
  · next hminus =>
    constructor
    · intro h
      cases hnatural : natural limit cs with
      | error fault =>
        rw [hnatural] at h
        cases h
      | ok n =>
        obtain ⟨hn, hlimit⟩ := natural_eq_ok_iff.1 hnatural
        rw [hnatural] at h
        obtain rfl : (n : Int) = i := Except.ok.inj h
        exact ⟨.natural rfl hn, by omega, by omega⟩
    · rintro ⟨h, -, hlimit⟩
      cases h with
      | natural hi h =>
        rw [natural_eq_ok_iff.2 ⟨h, by omega⟩, hi]
        rfl
      | minus _ _ => exact absurd rfl (hminus _)

end Numeral

end IdleStop
