import IdleStop.Numeric.Binary64
import Mathlib.Algebra.Order.Field.Power
import Mathlib.Data.Rat.Cast.Order
import Mathlib.Tactic.FieldSimp
import Mathlib.Tactic.Linarith
import Mathlib.Tactic.Positivity
import Mathlib.Tactic.Ring
/-!
# Doubles that come out exactly

A double has a rational value. The exponent for a quotient leaves 53 bits before
the point, or fewer only where it is the least exponent (`exponentOf_bounds`); so
a quotient that some double is comes out as that value and is not rounded
(`exists_ofRatio?`). Products and whole numbers are quotients like any other
(`exists_mul?`, `exists_ofInt?`), and a whole value is rounded to itself
(`round_eq`).
-/

namespace IdleStop

namespace Binary64

variable {num den : Nat} {negative : Bool} {x y : Binary64}

/-! ## Values -/

/-- The absolute value. -/
def magnitude (x : Binary64) : ℚ :=
  x.significand * 2 ^ x.exponent

/-- The number that a double is; both zeros are zero. -/
def value (x : Binary64) : ℚ :=
  if x.negative then -x.magnitude else x.magnitude

/-- The absolute value of some double. -/
def IsMagnitude (q : ℚ) : Prop :=
  ∃ (m : Nat) (k : Int), m < Nat.pow 2 53 ∧ minExponent ≤ k ∧ k ≤ maxExponent ∧ q = m * 2 ^ k

theorem cast_two_pow (n : Nat) : ((Nat.pow 2 n : Nat) : ℚ) = 2 ^ (n : Int) := by
  rw [zpow_natCast]
  exact Nat.cast_pow 2 n

theorem two_zpow_pos (e : Int) : (0 : ℚ) < 2 ^ e :=
  zpow_pos (by norm_num) e

theorem ratio_spec (x : Binary64) :
    0 < x.ratio.2 ∧ (x.ratio.1 : ℚ) / x.ratio.2 = x.magnitude := by
  rw [ratio, magnitude]
  split
  · next h =>
    refine ⟨Nat.one_pos, ?_⟩
    rw [Nat.cast_mul, cast_two_pow, Int.toNat_of_nonneg h, Nat.cast_one, div_one]
  · next h =>
    refine ⟨Nat.pow_pos (by decide), ?_⟩
    rw [cast_two_pow, Int.toNat_of_nonneg (by omega), zpow_neg, div_inv_eq_mul]

theorem scaled_spec (num : Nat) (hden : 0 < den) (e : Int) :
    0 < (scaled num den e).2 ∧
      ((scaled num den e).1 : ℚ) / (scaled num den e).2 = num / den / 2 ^ e := by
  rw [scaled]
  split
  · next h =>
    refine ⟨Nat.mul_pos hden (Nat.pow_pos (by decide)), ?_⟩
    rw [Nat.cast_mul, cast_two_pow, Int.toNat_of_nonneg h, div_div]
  · next h =>
    refine ⟨hden, ?_⟩
    rw [Nat.cast_mul, cast_two_pow, Int.toNat_of_nonneg (by omega), zpow_neg]
    ring

/-! ## Exponents -/

/-- The bit lengths bound a quotient on both sides. -/
theorem log2_bounds (hnum : 0 < num) (hden : 0 < den) :
    (2 : ℚ) ^ ((num.log2 : Int) - den.log2 - 1) < num / den ∧
      (num : ℚ) / den < 2 ^ ((num.log2 : Int) - den.log2 + 1) := by
  have bounds : ∀ {n : Nat}, 0 < n →
      (2 : ℚ) ^ (n.log2 : Int) ≤ n ∧ (n : ℚ) < 2 ^ ((n.log2 : Int) + 1) := by
    intro n hn
    constructor
    · exact_mod_cast Nat.log2_self_le (by omega)
    · exact_mod_cast Nat.lt_log2_self
  obtain ⟨hnum₁, hnum₂⟩ := bounds hnum
  obtain ⟨hden₁, hden₂⟩ := bounds hden
  have hden' : (0 : ℚ) < den := by exact_mod_cast hden
  constructor
  · rw [lt_div_iff₀ hden']
    calc (2 : ℚ) ^ ((num.log2 : Int) - den.log2 - 1) * den
        < 2 ^ ((num.log2 : Int) - den.log2 - 1) * 2 ^ ((den.log2 : Int) + 1) := by
          gcongr
      _ = 2 ^ (num.log2 : Int) := by
          rw [← zpow_add₀ two_ne_zero]
          congr 1
          omega
      _ ≤ num := hnum₁
  · rw [div_lt_iff₀ hden']
    calc (num : ℚ) < 2 ^ ((num.log2 : Int) + 1) := hnum₂
      _ = 2 ^ ((num.log2 : Int) - den.log2 + 1) * 2 ^ (den.log2 : Int) := by
          rw [← zpow_add₀ two_ne_zero]
          congr 1
          omega
      _ ≤ 2 ^ ((num.log2 : Int) - den.log2 + 1) * den := by
          gcongr

/-- Scaling by another power of two. -/
theorem div_two_zpow_lt_iff (q : ℚ) (e k : Int) : q / 2 ^ e < 2 ^ k ↔ q < 2 ^ (k + e) := by
  rw [div_lt_iff₀ (two_zpow_pos e), zpow_add₀ two_ne_zero]

/-- **The exponent for a quotient leaves 53 bits before the point**, or fewer if
it is the least one. -/
theorem exponentOf_bounds (hnum : 0 < num) (hden : 0 < den) :
    minExponent ≤ exponentOf num den ∧ (num : ℚ) / den / 2 ^ exponentOf num den < 2 ^ (53 : Int) ∧
      (exponentOf num den = minExponent ∨
        2 ^ (52 : Int) ≤ (num : ℚ) / den / 2 ^ exponentOf num den) := by
  obtain ⟨hlow, hhigh⟩ := log2_bounds hnum hden
  set guess := max minExponent ((num.log2 : Int) - den.log2 - 53) with hguess
  obtain ⟨hpos, hscaled⟩ := scaled_spec num hden guess
  have hfits : (scaled num den guess).1 / (scaled num den guess).2 < Nat.pow 2 53 ↔
      (num : ℚ) / den / 2 ^ guess < 2 ^ (53 : Int) := by
    rw [← hscaled, Nat.div_lt_iff_lt_mul hpos, div_lt_iff₀ (by exact_mod_cast hpos)]
    exact_mod_cast Iff.rfl
  have hexponent : exponentOf num den =
      if (scaled num den guess).1 / (scaled num den guess).2 < Nat.pow 2 53 then guess
      else guess + 1 := rfl
  by_cases h : (num : ℚ) / den / 2 ^ guess < 2 ^ (53 : Int)
  · rw [hexponent, if_pos (hfits.2 h)]
    refine ⟨le_max_left _ _, h, ?_⟩
    rcases max_choice minExponent ((num.log2 : Int) - den.log2 - 53) with hmax | hmax
    · exact Or.inl (hguess.trans hmax)
    · refine Or.inr (not_lt.1 fun hlt => ?_)
      rw [div_two_zpow_lt_iff, hguess, hmax] at hlt
      have := hlow.trans hlt
      rw [zpow_lt_zpow_iff_right₀ one_lt_two] at this
      omega
  · rw [hexponent, if_neg (mt hfits.1 h)]
    refine ⟨by omega, ?_, Or.inr (not_lt.1 fun hlt => h ?_)⟩
    · rw [div_two_zpow_lt_iff]
      refine hhigh.trans_le (zpow_le_zpow_right₀ one_le_two ?_)
      omega
    · rw [div_two_zpow_lt_iff] at hlt ⊢
      rwa [show 53 + guess = 52 + (guess + 1) by omega]

theorem exponentOf_zero_le (den : Nat) : exponentOf 0 den ≤ 0 := by
  have hguess : max minExponent (((0 : Nat).log2 : Int) - den.log2 - 53) ≤ 0 := by
    rw [Nat.log2_zero, minExponent]
    omega
  have hzero : (scaled 0 den (max minExponent (((0 : Nat).log2 : Int) - den.log2 - 53))).1 = 0 := by
    rw [scaled]
    split
    · rfl
    · exact Nat.zero_mul _
  rw [exponentOf]
  simp only [hzero, Nat.zero_div]
  exact hguess

/-! ## Exact results -/

/-- A quotient that is a whole number is not rounded. -/
theorem roundDiv_mul (n : Nat) (hden : 0 < den) : roundDiv (n * den) den = n := by
  have hrest : ¬(den < 2 * 0 ∨ 2 * 0 = den ∧ n % 2 = 1) := by omega
  rw [roundDiv, Nat.mul_div_cancel _ hden, Nat.mul_mod_left]
  exact if_neg hrest

/-- A quotient that has a double's value is that at the exponent for it. -/
theorem exists_significand (hden : 0 < den) (h : IsMagnitude ((num : ℚ) / den)) :
    exponentOf num den ≤ maxExponent ∧
      ∃ s < Nat.pow 2 53, (num : ℚ) / den = s * 2 ^ exponentOf num den := by
  rcases Nat.eq_zero_or_pos num with rfl | hnum
  · exact ⟨(exponentOf_zero_le den).trans (by decide), 0, by decide, by simp⟩
  · obtain ⟨m, k, hm, hmin, hmax, hq⟩ := h
    obtain ⟨-, hlt, hleast⟩ := exponentOf_bounds hnum hden
    set e := exponentOf num den
    have hle : e ≤ k := by
      rcases hleast with hleast | hleast
      · omega
      · by_contra hk
        refine not_lt.2 hleast ?_
        have hm' : (m : ℚ) < 2 ^ (53 : Int) := by exact_mod_cast hm
        rw [div_two_zpow_lt_iff, hq]
        calc (m : ℚ) * 2 ^ k < 2 ^ (53 : Int) * 2 ^ k := by
              gcongr
          _ = 2 ^ (53 + k) := (zpow_add₀ two_ne_zero _ _).symm
          _ ≤ 2 ^ (52 + e) := zpow_le_zpow_right₀ one_le_two (by omega)
    have hs : (num : ℚ) / den = (m * Nat.pow 2 (k - e).toNat : Nat) * 2 ^ e := by
      rw [hq, Nat.cast_mul, cast_two_pow, Int.toNat_of_nonneg (by omega), mul_assoc,
        ← zpow_add₀ two_ne_zero]
      congr 2
      omega
    refine ⟨hle.trans hmax, _, ?_, hs⟩
    rw [hs, mul_div_assoc, div_self (two_zpow_pos e).ne', mul_one] at hlt
    exact_mod_cast hlt

/-- **A quotient that has a double's value is not rounded.** -/
theorem exists_ofRatio? (hden : 0 < den) (h : IsMagnitude ((num : ℚ) / den)) (negative : Bool) :
    ∃ x, ofRatio? negative num den = some x ∧ x.negative = negative ∧
      x.magnitude = num / den := by
  obtain ⟨hmax, s, hs, hq⟩ := exists_significand hden h
  obtain ⟨hpos, hscaled⟩ := scaled_spec num hden (exponentOf num den)
  have hround : roundDiv (scaled num den (exponentOf num den)).1
      (scaled num den (exponentOf num den)).2 = s := by
    have hwhole : (scaled num den (exponentOf num den)).1 =
        s * (scaled num den (exponentOf num den)).2 := by
      rw [hq, mul_div_assoc, div_self (two_zpow_pos _).ne', mul_one,
        div_eq_iff (by exact_mod_cast hpos.ne')] at hscaled
      exact_mod_cast hscaled
    rw [hwhole, roundDiv_mul s hpos]
  refine ⟨⟨negative, s, exponentOf num den⟩, ?_, rfl, hq.symm⟩
  rw [ofRatio?]
  simp only [hround, if_neg hs.ne, if_pos hmax]

/-! ## Whole numbers and products -/

theorem magnitude_nonneg (x : Binary64) : 0 ≤ x.magnitude :=
  mul_nonneg (Nat.cast_nonneg _) (two_zpow_pos _).le

theorem abs_value (x : Binary64) : |x.value| = x.magnitude := by
  rw [value]
  split
  · rw [abs_neg, abs_of_nonneg (magnitude_nonneg x)]
  · rw [abs_of_nonneg (magnitude_nonneg x)]

/-- A whole number of at most 53 bits but for zeros behind them is a double. -/
theorem isMagnitude_intCast {i : Int} {m k : Nat} (h : i.natAbs = m * Nat.pow 2 k)
    (hm : m < Nat.pow 2 53) (hk : (k : Int) ≤ maxExponent) : IsMagnitude |(i : ℚ)| := by
  refine ⟨m, k, hm, ?_, hk, ?_⟩
  · rw [minExponent]
    omega
  · rw [← Int.cast_abs, ← Nat.cast_natAbs, h, Nat.cast_mul, cast_two_pow]

/-- A whole number that some double is comes out exactly. -/
theorem exists_ofInt? {i : Int} (h : IsMagnitude |(i : ℚ)|) :
    ∃ x, ofInt? i = some x ∧ x.value = i := by
  have hmagnitude : ((i.natAbs : Nat) : ℚ) / (1 : Nat) = |(i : ℚ)| := by
    rw [Nat.cast_one, div_one, Nat.cast_natAbs, Int.cast_abs]
  obtain ⟨x, hx, hnegative, habs⟩ :=
    exists_ofRatio? Nat.one_pos (hmagnitude.symm ▸ h) (decide (i < 0))
  refine ⟨x, hx, ?_⟩
  rw [value, hnegative, habs, hmagnitude]
  by_cases hi : i < 0
  · rw [if_pos (decide_eq_true hi), abs_of_neg (by exact_mod_cast hi), neg_neg]
  · rw [if_neg (by simpa using hi), abs_of_nonneg (by exact_mod_cast not_lt.1 hi)]

/-- A product that some double is comes out exactly. -/
theorem exists_mul? (h : IsMagnitude |x.value * y.value|) :
    ∃ z, x.mul? y = some z ∧ z.value = x.value * y.value := by
  obtain ⟨hx, hx'⟩ := ratio_spec x
  obtain ⟨hy, hy'⟩ := ratio_spec y
  have hmagnitude : ((x.ratio.1 * y.ratio.1 : Nat) : ℚ) / (x.ratio.2 * y.ratio.2 : Nat) =
      x.magnitude * y.magnitude := by
    rw [Nat.cast_mul, Nat.cast_mul, mul_div_mul_comm, hx', hy']
  rw [abs_mul, abs_value, abs_value, ← hmagnitude] at h
  obtain ⟨z, hz, hnegative, habs⟩ :=
    exists_ofRatio? (Nat.mul_pos hx hy) h (x.negative != y.negative)
  refine ⟨z, hz, ?_⟩
  rw [value, value, value, hnegative, habs, hmagnitude]
  cases x.negative <;> cases y.negative <;> simp

/-- A double that is a whole number is rounded to that. -/
theorem round_eq {i : Int} (h : x.value = i) : x.round = i := by
  obtain ⟨hpos, hratio⟩ := ratio_spec x
  have hmagnitude : x.magnitude = (i.natAbs : Nat) := by
    rw [← abs_value, h, Nat.cast_natAbs, Int.cast_abs]
  have hwhole : x.ratio.1 = i.natAbs * x.ratio.2 := by
    rw [hmagnitude, div_eq_iff (by exact_mod_cast hpos.ne')] at hratio
    exact_mod_cast hratio
  have hhalf : (2 * x.ratio.1 + x.ratio.2) / (2 * x.ratio.2) = i.natAbs := by
    have hrest : 2 * (i.natAbs * x.ratio.2) + x.ratio.2 =
        x.ratio.2 + i.natAbs * (2 * x.ratio.2) := by ring
    rw [hwhole, hrest, Nat.add_mul_div_right _ _ (by omega), Nat.div_eq_of_lt (by omega),
      Nat.zero_add]
  have hround : x.round = if x.negative then -(i.natAbs : Int) else i.natAbs := by
    rw [← hhalf]
    rfl
  rw [hround]
  rw [value] at h
  have hnonneg := magnitude_nonneg x
  split
  · next hneg =>
    rw [if_pos hneg] at h
    have : (i : ℚ) ≤ 0 := by linarith
    have : i ≤ 0 := by exact_mod_cast this
    omega
  · next hneg =>
    rw [if_neg hneg] at h
    have : (0 : ℚ) ≤ i := by linarith
    have : 0 ≤ i := by exact_mod_cast this
    omega

end Binary64

end IdleStop
