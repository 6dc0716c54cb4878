import IdleStop.Proofs.Json.Integer
import IdleStop.Proofs.Time.Epoch
/-!
# Seconds within and beyond the reach of a clock

The microseconds near the ends of the clock are doubles `2 ^ 10` apart. Both ends are
doubles, and rounding never passes a double; so whole seconds a clock can show are
read as an instant within a millisecond (`Epoch.ofSeconds?_near`), and any others as
none (`Epoch.ofSeconds?_of_late`, `Epoch.ofSeconds?_of_early`). That holds of an
integer in JSON whatever its digits (`Epoch.parse_near`, `Epoch.parse_of_outside`).
-/

namespace IdleStop

open Instant (minSeconds maxSeconds)

namespace Epoch

variable {x million z : Binary64} {n : Int}

/-! ## Rounded microseconds -/

/-- The instant is that of the product with a million. -/
theorem exists_ofSeconds?_eq (x : Binary64) : ∃ million : Binary64, million.value = 1000000 ∧
    ofSeconds? x = (x.mul? million).bind fun z => Instant.ofMicroseconds? z.round := by
  obtain ⟨million, hmillion, hvalue⟩ := exists_million
  refine ⟨million, hvalue, ?_⟩
  rw [ofSeconds?_eq, hmillion]
  rfl

/-- Microseconds within the clock are an instant. -/
theorem exists_ofMicroseconds? {micros : Int} (hmin : minSeconds * 1000000 ≤ micros)
    (hmax : micros < (maxSeconds + 1) * 1000000) :
    ∃ i, Instant.ofMicroseconds? micros = some i ∧ i.nanoseconds = micros * 1000 := by
  cases hread : Instant.ofMicroseconds? micros with
  | some i => exact ⟨i, rfl, (Instant.ofMicroseconds?_eq_some_iff.1 hread).1⟩
  | none =>
    have hbeyond := Instant.ofMicroseconds?_eq_none_iff.1 hread
    omega

/-- The end of the clock is a double, and so is the microsecond its first second begins
with. -/
theorem isMagnitude_ends :
    Binary64.IsMagnitude |((minSeconds * 1000000 : Int) : ℚ)| ∧
      Binary64.IsMagnitude |(((maxSeconds + 1) * 1000000 : Int) : ℚ)| :=
  ⟨Binary64.isMagnitude_intCast (m := 8139259012500000) (k := 10) rfl (by decide) (by decide),
    Binary64.isMagnitude_intCast (m := 8017838746875000) (k := 10) rfl (by decide) (by decide)⟩

/-- So is the last double before the clock begins. -/
theorem isMagnitude_before :
    Binary64.IsMagnitude |((minSeconds * 1000000 - 1024 : Int) : ℚ)| :=
  Binary64.isMagnitude_intCast (m := 8139259012500001) (k := 10) rfl (by decide) (by decide)

/-- **Whole seconds that a clock can show are read within a millisecond.** -/
theorem ofSeconds?_near (hx : x.value = n) (hmin : minSeconds ≤ n) (hmax : n ≤ maxSeconds) :
    ∃ i, ofSeconds? x = some i ∧ |i.nanoseconds - n * 1000000000| ≤ 1000000 := by
  obtain ⟨million, hmillion, hread⟩ := exists_ofSeconds?_eq x
  have hproduct : x.value * million.value = (n * 1000000 : Int) := by
    rw [hx, hmillion]
    norm_num
  have hmin' : ((minSeconds * 1000000 : Int) : ℚ) ≤ x.value * million.value := by
    rw [hproduct]
    exact_mod_cast (by omega : minSeconds * 1000000 ≤ n * 1000000)
  have hmax' : x.value * million.value ≤ (maxSeconds * 1000000 : Int) := by
    rw [hproduct]
    exact_mod_cast (by omega : n * 1000000 ≤ maxSeconds * 1000000)
  have habs : |x.value * million.value| < 2 ^ (53 + 10 : Int) := by
    rw [abs_lt]
    norm_num [minSeconds, maxSeconds] at hmin' hmax' ⊢
    constructor <;> linarith
  have hsmall : (2 : ℚ) ^ (53 + 10 : Int) ≤ Binary64.greatest := by
    have hone := Binary64.mul_two_zpow_le_greatest (m := 1) (k := 53 + 10) (by decide) (by decide)
    rwa [Nat.cast_one, one_mul] at hone
  obtain ⟨z, hz⟩ := Binary64.exists_mul?_of_le (habs.le.trans hsmall)
  have hnear := abs_le.1 (Binary64.abs_value_sub_le hz (by decide) habs)
  have hlow : minSeconds * 1000000 ≤ z.round :=
    Binary64.le_round (Binary64.le_value_of_mul? hz isMagnitude_ends.1 hmin')
  have hhigh : z.round ≤ (maxSeconds + 1) * 1000000 - 1 := by
    refine Binary64.round_le ?_
    norm_num [minSeconds, maxSeconds] at hnear hmax' ⊢
    linarith [hnear.2]
  obtain ⟨i, hi, hnanos⟩ := exists_ofMicroseconds? hlow (by omega)
  refine ⟨i, ?_, ?_⟩
  · rw [hread, hz]
    exact hi
  · have hround := abs_le.1 (Binary64.abs_round_sub_le z)
    have hmicros : |z.round - n * 1000000| ≤ 1000 := by
      have hmicros' : |((z.round - n * 1000000 : Int) : ℚ)| ≤ (1000 : Int) := by
        rw [hproduct] at hnear
        norm_num at hnear hround
        rw [abs_le]
        push_cast
        constructor <;> linarith [hnear.1, hnear.2, hround.1, hround.2]
      exact_mod_cast hmicros'
    rw [abs_le] at hmicros ⊢
    rw [hnanos]
    omega

/-- **Seconds past the end of the clock are no instant.** -/
theorem ofSeconds?_of_late (h : ((maxSeconds + 1 : Int) : ℚ) ≤ x.value) : ofSeconds? x = none := by
  obtain ⟨million, hmillion, hread⟩ := exists_ofSeconds?_eq x
  rw [hread]
  cases hz : x.mul? million with
  | none => rfl
  | some z =>
    have hproduct : (((maxSeconds + 1) * 1000000 : Int) : ℚ) ≤ x.value * million.value := by
      rw [hmillion]
      push_cast at h ⊢
      linarith
    have hround : (maxSeconds + 1) * 1000000 ≤ z.round :=
      Binary64.le_round (Binary64.le_value_of_mul? hz isMagnitude_ends.2 hproduct)
    exact Instant.ofMicroseconds?_eq_none_iff.2 (Or.inr hround)

/-- **Seconds before its beginning are none either.** -/
theorem ofSeconds?_of_early (h : x.value ≤ ((minSeconds - 1 : Int) : ℚ)) : ofSeconds? x = none := by
  obtain ⟨million, hmillion, hread⟩ := exists_ofSeconds?_eq x
  rw [hread]
  cases hz : x.mul? million with
  | none => rfl
  | some z =>
    have hproduct : x.value * million.value ≤ ((minSeconds * 1000000 - 1024 : Int) : ℚ) := by
      rw [hmillion]
      push_cast at h ⊢
      linarith
    have hround : z.round ≤ minSeconds * 1000000 - 1024 :=
      Binary64.round_le (Binary64.value_le_of_mul? hz isMagnitude_before hproduct)
    exact Instant.ofMicroseconds?_eq_none_iff.2 (Or.inl (by omega))

/-! ## Integers -/

variable {t : Json.Tree}

/-- A number of 53 bits or more is no instant. -/
theorem ofSeconds?_of_large (h : ((Nat.pow 2 53 : Nat) : ℚ) ≤ x.magnitude) :
    ofSeconds? x = none := by
  have hreach : ((maxSeconds + 1 : Int) : ℚ) ≤ (Nat.pow 2 53 : Nat) ∧
      -((Nat.pow 2 53 : Nat) : ℚ) ≤ ((minSeconds - 1 : Int) : ℚ) := by
    norm_num [minSeconds, maxSeconds]
  rw [← Binary64.abs_value, le_abs] at h
  rcases h with h | h
  · exact ofSeconds?_of_late (hreach.1.trans h)
  · exact ofSeconds?_of_early (by linarith [hreach.2])

/-- **An integer that a clock can show as seconds is read within a millisecond.** -/
theorem parse_near (h : t.WritesInt n) (hmin : minSeconds ≤ n) (hmax : n ≤ maxSeconds) :
    ∃ l number i, t = .number l ∧ Json.Number.ofLiteral? l = some number ∧
      parse number = .ok i ∧ |i.nanoseconds - n * 1000000000| ≤ 1000000 := by
  have hbits : n.natAbs < Nat.pow 2 53 := by
    have hpow : Nat.pow 2 53 = 9007199254740992 := rfl
    rw [minSeconds] at hmin
    rw [maxSeconds] at hmax
    omega
  obtain ⟨l, number, x, rfl, hl, hx, hvalue⟩ := Json.Number.exists_of_writesInt h hbits
  obtain ⟨i, hi, hnear⟩ := ofSeconds?_near hvalue hmin hmax
  refine ⟨l, number, i, rfl, hl, ?_, hnear⟩
  rw [parse, hx, Option.bind_some, hi]

variable {l : Json.Literal} {number : Json.Number}

/-- An integer other than zero is read as one of its size. -/
theorem readsInteger_of_writesInt (h : (Json.Tree.number l).WritesInt n)
    (hds : ∀ d ∈ l.whole, d < 10) (hn : n ≠ 0) :
    Json.Number.ReadsInteger l.negative n.natAbs (Json.Number.ofLiteral? l) := by
  cases h with
  | positive h =>
    subst h
    rw [Int.natAbs_natCast]
    exact Json.Number.readsInteger false hds (by omega)
  | negative h =>
    subst h
    rw [Int.natAbs_neg, Int.natAbs_natCast]
    exact Json.Number.readsInteger true hds (by omega)

/-- **Any other integer is no instant**, however it is rounded. -/
theorem parse_of_outside (h : (Json.Tree.number l).WritesInt n) (hds : ∀ d ∈ l.whole, d < 10)
    (hout : n < minSeconds ∨ maxSeconds < n) (hl : Json.Number.ofLiteral? l = some number) :
    parse number = .error (.format number.text .epochSeconds) := by
  have hnone : ∀ x, number.toDouble? = some x → ofSeconds? x = none := by
    intro x hx
    by_cases hbits : n.natAbs < Nat.pow 2 53
    · obtain ⟨l', _, x', hsame, hl', hx', hvalue⟩ := Json.Number.exists_of_writesInt h hbits
      obtain rfl := Json.Tree.number.inj hsame
      obtain rfl := Option.some.inj (hl.symm.trans hl')
      obtain rfl := Option.some.inj (hx.symm.trans hx')
      rcases hout with hout | hout
      · exact ofSeconds?_of_early (hvalue.trans_le (Int.cast_le.2 (by omega)))
      · exact ofSeconds?_of_late ((Int.cast_le.2 (by omega)).trans_eq hvalue.symm)
    · have hzero : n ≠ 0 := by
        rintro rfl
        exact hbits (Nat.pow_pos (by decide))
      exact ofSeconds?_of_large
        ((readsInteger_of_writesInt h hds hzero).le_magnitude hl (not_lt.1 hbits) hx)
  rw [parse]
  cases hx : number.toDouble? with
  | none => rfl
  | some x => rw [Option.bind_some, hnone x hx]

end Epoch

end IdleStop
