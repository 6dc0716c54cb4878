import IdleStop.Proofs.Numeric.Binary64
/-!
# Doubles that are rounded

A quotient is rounded by at most half of its last place
(`abs_magnitude_sub_le`), and never past a double: what is at least some double is
at least that double still (`le_magnitude`), and so for at most
(`magnitude_le`). Below half of the greatest double a quotient has a double at all
(`exists_ofRatio?_of_lt`). What holds of quotients holds of products with their
sign, and rounding to a whole number moves by one half at most.
-/

namespace IdleStop

namespace Binary64

variable {num den : Nat} {negative : Bool} {x y z : Binary64} {q r : ℚ} {k : Int}

/-! ## Whole quotients -/

/-- A whole number within one half of a quotient, from the numbers themselves. -/
theorem abs_sub_div_le_half {s : Nat} (hden : 0 < den) (hlow : 2 * num ≤ 2 * (s * den) + den)
    (hhigh : 2 * (s * den) ≤ 2 * num + den) : |(s : ℚ) - num / den| ≤ 1 / 2 := by
  have hden' : (0 : ℚ) < den := by exact_mod_cast hden
  have hlow' : 2 * (num : ℚ) ≤ 2 * (s * den) + den := by exact_mod_cast hlow
  have hhigh' : 2 * ((s : ℚ) * den) ≤ 2 * num + den := by exact_mod_cast hhigh
  have hsub : (s : ℚ) - num / den = (s * den - num) / den := by
    field_simp
  rw [hsub, abs_le, le_div_iff₀ hden', div_le_iff₀ hden']
  constructor <;> linarith

/-- A quotient is rounded by at most one half. -/
theorem abs_roundDiv_sub_le (num : Nat) (hden : 0 < den) :
    |(roundDiv num den : ℚ) - num / den| ≤ 1 / 2 := by
  have hnum : num / den * den + num % den = num := Nat.div_add_mod' num den
  have hrest : num % den < den := Nat.mod_lt num hden
  refine abs_sub_div_le_half hden ?_ ?_
  all_goals
    rw [roundDiv]
    split
    · rw [Nat.add_mul, Nat.one_mul]
      omega
    · omega

/-- No quotient is rounded past a whole number below it. -/
theorem le_roundDiv {a : Nat} (hden : 0 < den) (h : (a : ℚ) ≤ num / den) :
    a ≤ roundDiv num den := by
  have hnear := abs_le.1 (abs_roundDiv_sub_le num hden)
  have hlt : (a : ℚ) < (roundDiv num den + 1 : Nat) := by
    push_cast
    linarith [hnear.1]
  exact Nat.lt_succ_iff.1 (by exact_mod_cast hlt)

/-- Nor past one above it. -/
theorem roundDiv_le {a : Nat} (hden : 0 < den) (h : num / den ≤ (a : ℚ)) :
    roundDiv num den ≤ a := by
  have hnear := abs_le.1 (abs_roundDiv_sub_le num hden)
  have hlt : (roundDiv num den : ℚ) < (a + 1 : Nat) := by
    push_cast
    linarith [hnear.2]
  exact Nat.lt_succ_iff.1 (by exact_mod_cast hlt)

/-! ## Quotients -/

/-- The whole number of last places that a quotient is rounded to. -/
def places (num den : Nat) : Nat :=
  roundDiv (scaled num den (exponentOf num den)).1 (scaled num den (exponentOf num den)).2

theorem ofRatio?_eq (negative : Bool) (num den : Nat) :
    ofRatio? negative num den =
      if places num den = Nat.pow 2 53 then
        if exponentOf num den < maxExponent then
          some ⟨negative, Nat.pow 2 52, exponentOf num den + 1⟩ else none
      else if exponentOf num den ≤ maxExponent then
        some ⟨negative, places num den, exponentOf num den⟩ else none :=
  rfl

/-- A double is the places that its quotient is rounded to. -/
theorem ofRatio?_spec (h : ofRatio? negative num den = some x) :
    x.negative = negative ∧ x.magnitude = places num den * 2 ^ exponentOf num den := by
  rw [ofRatio?_eq] at h
  split at h
  · next hcarry =>
    -- the carry moves into the exponent
    split at h
    · obtain rfl := Option.some.inj h
      refine ⟨rfl, ?_⟩
      rw [magnitude, hcarry, cast_two_pow, cast_two_pow, ← zpow_add₀ two_ne_zero,
        ← zpow_add₀ two_ne_zero]
      congr 1
      change ((52 : Nat) : Int) + (exponentOf num den + 1) = (53 : Nat) + exponentOf num den
      omega
    · cases h
  · split at h
    · obtain rfl := Option.some.inj h
      exact ⟨rfl, rfl⟩
    · cases h

theorem abs_places_sub_le (num : Nat) (hden : 0 < den) :
    |(places num den : ℚ) - num / den / 2 ^ exponentOf num den| ≤ 1 / 2 := by
  obtain ⟨hpos, hscaled⟩ := scaled_spec num hden (exponentOf num den)
  rw [← hscaled]
  exact abs_roundDiv_sub_le _ hpos

/-- **A quotient is rounded by at most half of its last place.** -/
theorem abs_magnitude_sub_le (hden : 0 < den) (h : ofRatio? negative num den = some x) :
    |x.magnitude - num / den| ≤ 2 ^ exponentOf num den / 2 := by
  have hpos := two_zpow_pos (exponentOf num den)
  have hsub : x.magnitude - num / den =
      (places num den - num / den / 2 ^ exponentOf num den) * 2 ^ exponentOf num den := by
    rw [(ofRatio?_spec h).2, sub_mul, div_mul_cancel₀ _ hpos.ne']
  rw [hsub, abs_mul, abs_of_pos hpos]
  calc _ ≤ 1 / 2 * (2 : ℚ) ^ exponentOf num den := by
        gcongr
        exact abs_places_sub_le num hden
    _ = _ := by ring

theorem places_zero (hden : 0 < den) : places 0 den = 0 := by
  obtain ⟨hpos, hscaled⟩ := scaled_spec 0 hden (exponentOf 0 den)
  refine Nat.le_zero.1 (roundDiv_le hpos ?_)
  rw [hscaled]
  simp

/-- A quotient that is not zero has a last place as small as the quotient. -/
theorem exponentOf_le (hnum : 0 < num) (hden : 0 < den) (hk : minExponent ≤ k)
    (h : (num : ℚ) / den < 2 ^ (53 + k)) : exponentOf num den ≤ k := by
  obtain ⟨-, -, hleast | hlow⟩ := exponentOf_bounds hnum hden
  · exact hleast.trans_le hk
  · rw [le_div_iff₀ (two_zpow_pos _), ← zpow_add₀ two_ne_zero] at hlow
    have hlt := (zpow_lt_zpow_iff_right₀ one_lt_two).1 (hlow.trans_lt h)
    omega

/-- Quotients below a power of two are rounded by at most so much. -/
theorem abs_magnitude_sub_le_of_lt (hden : 0 < den) (hk : minExponent ≤ k)
    (hlt : (num : ℚ) / den < 2 ^ (53 + k)) (h : ofRatio? negative num den = some x) :
    |x.magnitude - num / den| ≤ 2 ^ k / 2 := by
  rcases Nat.eq_zero_or_pos num with rfl | hnum
  · rw [(ofRatio?_spec h).2, places_zero hden]
    have hpos := two_zpow_pos k
    simp only [Nat.cast_zero, zero_mul, zero_div, sub_zero, abs_zero]
    positivity
  · calc |x.magnitude - num / den| ≤ 2 ^ exponentOf num den / 2 := abs_magnitude_sub_le hden h
      _ ≤ 2 ^ k / 2 := by
        gcongr
        · exact one_le_two
        · exact exponentOf_le hnum hden hk hlt

/-! ## Relative error and range -/

/-- Half of the last place of a number between one and two. -/
def roundoff : ℚ := 1 / 2 ^ 53

/-- **A quotient of at least one is rounded by at most one part in `2 ^ 53`.** -/
theorem magnitude_bounds (hden : 0 < den) (hone : 1 ≤ (num : ℚ) / den)
    (h : ofRatio? negative num den = some x) :
    num / den * (1 - roundoff) ≤ x.magnitude ∧ x.magnitude ≤ num / den * (1 + roundoff) := by
  have hnum : 0 < num := by
    rcases Nat.eq_zero_or_pos num with rfl | hnum
    · rw [Nat.cast_zero, zero_div] at hone
      exact absurd hone (by norm_num)
    · exact hnum
  have hplace : 2 ^ exponentOf num den / 2 ≤ (num : ℚ) / den * roundoff := by
    have hlow : 2 ^ (52 : Int) ≤ (num : ℚ) / den / 2 ^ exponentOf num den := by
      obtain ⟨-, hlt, hleast | hlow⟩ := exponentOf_bounds hnum hden
      · -- the least exponent is for numbers far below one
        rw [hleast, div_two_zpow_lt_iff] at hlt
        have hfar : (2 : ℚ) ^ (53 + minExponent) ≤ 2 ^ (0 : Int) :=
          zpow_le_zpow_right₀ one_le_two (by decide)
        rw [zpow_zero] at hfar
        exact absurd (hone.trans_lt hlt) (not_lt.2 hfar)
      · exact hlow
    rw [le_div_iff₀ (two_zpow_pos _)] at hlow
    have hhalf : (2 : ℚ) ^ exponentOf num den / 2 =
        2 ^ (52 : Int) * 2 ^ exponentOf num den * roundoff := by
      rw [roundoff]
      ring
    rw [hhalf]
    gcongr
    exact (by norm_num [roundoff] : (0 : ℚ) ≤ roundoff)
  have hnear := abs_le.1 ((abs_magnitude_sub_le hden h).trans hplace)
  constructor <;> linarith [hnear.1, hnear.2]

/-- The greatest double. -/
def greatest : ℚ := (Nat.pow 2 53 - 1 : Nat) * 2 ^ maxExponent

theorem mul_two_zpow_le_greatest {m : Nat} (hm : m ≤ Nat.pow 2 53 - 1) (hk : k ≤ maxExponent) :
    m * 2 ^ k ≤ greatest :=
  mul_le_mul (Nat.cast_le.2 hm) (zpow_le_zpow_right₀ one_le_two hk) (two_zpow_pos k).le
    (Nat.cast_nonneg _)

/-- A quotient has 53 bits at most. -/
theorem places_le (num : Nat) (hden : 0 < den) : places num den ≤ Nat.pow 2 53 := by
  rcases Nat.eq_zero_or_pos num with rfl | hnum
  · rw [places_zero hden]
    exact Nat.zero_le _
  · obtain ⟨hpos, hscaled⟩ := scaled_spec num hden (exponentOf num den)
    obtain ⟨-, hlt, -⟩ := exponentOf_bounds hnum hden
    refine roundDiv_le hpos ?_
    rw [hscaled, cast_two_pow]
    exact hlt.le

/-- What a quotient is rounded to is not beyond the greatest double. -/
theorem magnitude_le_greatest (hden : 0 < den) (h : ofRatio? negative num den = some x) :
    x.magnitude ≤ greatest := by
  have hbits : x.significand ≤ Nat.pow 2 53 - 1 ∧ x.exponent ≤ maxExponent := by
    have hplaces := places_le num hden
    rw [ofRatio?_eq] at h
    split at h
    · split at h
      · next hexponent =>
        obtain rfl := Option.some.inj h
        exact ⟨(by decide : Nat.pow 2 52 ≤ Nat.pow 2 53 - 1), hexponent⟩
      · cases h
    · next hcarry =>
      split at h
      · next hexponent =>
        obtain rfl := Option.some.inj h
        exact ⟨Nat.le_sub_one_of_lt (Nat.lt_of_le_of_ne hplaces hcarry), hexponent⟩
      · cases h
  exact mul_two_zpow_le_greatest hbits.1 hbits.2

/-- **A quotient that is not beyond the greatest double has a double.** -/
theorem exists_ofRatio?_of_le (hden : 0 < den) (hle : (num : ℚ) / den ≤ greatest)
    (negative : Bool) : ∃ x, ofRatio? negative num den = some x := by
  have hexponent : exponentOf num den ≤ maxExponent := by
    rcases Nat.eq_zero_or_pos num with rfl | hnum
    · exact (exponentOf_zero_le den).trans (by decide)
    · refine exponentOf_le hnum hden (by decide) (hle.trans_lt ?_)
      rw [greatest, zpow_add₀ two_ne_zero]
      have hpos := two_zpow_pos maxExponent
      gcongr
      exact (Nat.cast_lt.2 (by decide)).trans_eq (cast_two_pow 53)
  rw [ofRatio?_eq]
  split
  · next hcarry =>
    -- at the greatest exponent there is no carry
    refine ⟨_, if_pos (lt_of_le_of_ne hexponent fun hmax => ?_)⟩
    obtain ⟨hpos, hscaled⟩ := scaled_spec num hden (exponentOf num den)
    have hplaces : places num den ≤ Nat.pow 2 53 - 1 := by
      refine roundDiv_le hpos ?_
      rw [hscaled, hmax, div_le_iff₀ (two_zpow_pos _)]
      exact hle
    rw [hcarry] at hplaces
    exact absurd hplaces (by decide)
  · exact ⟨_, rfl⟩

/-! ## Doubles in the way -/

/-- A double with a place below the last place of a quotient is below the quotient. -/
theorem lt_of_lt_exponentOf {m : Nat} (hnum : 0 < num) (hden : 0 < den) (hm : m < Nat.pow 2 53)
    (hk : minExponent ≤ k) (hlt : k < exponentOf num den) :
    (m : ℚ) * 2 ^ k < 2 ^ (52 : Int) * 2 ^ exponentOf num den ∧
      2 ^ (52 : Int) ≤ (num : ℚ) / den / 2 ^ exponentOf num den := by
  obtain ⟨-, -, hleast | hlow⟩ := exponentOf_bounds hnum hden
  · omega
  · refine ⟨?_, hlow⟩
    have hm' : (m : ℚ) < 2 ^ (53 : Int) := by exact_mod_cast hm
    calc (m : ℚ) * 2 ^ k < 2 ^ (53 : Int) * 2 ^ k := by
          have := two_zpow_pos k
          gcongr
      _ = 2 ^ (53 + k) := (zpow_add₀ two_ne_zero _ _).symm
      _ ≤ 2 ^ (52 + exponentOf num den) := zpow_le_zpow_right₀ one_le_two (by omega)
      _ = 2 ^ (52 : Int) * 2 ^ exponentOf num den := zpow_add₀ two_ne_zero _ _

/-- A double with a place that is no smaller is a whole number of last places. -/
theorem mul_two_zpow_eq {e : Int} (m : Nat) (h : e ≤ k) :
    (m : ℚ) * 2 ^ k = (m * Nat.pow 2 (k - e).toNat : Nat) * 2 ^ e := by
  rw [Nat.cast_mul, cast_two_pow, Int.toNat_of_nonneg (by omega), mul_assoc,
    ← zpow_add₀ two_ne_zero]
  congr 2
  omega

/-- **No quotient is rounded past a double below it.** -/
theorem le_magnitude (hden : 0 < den) (h : ofRatio? negative num den = some x)
    (hr : IsMagnitude r) (hle : r ≤ num / den) : r ≤ x.magnitude := by
  obtain ⟨m, k, hm, hk, -, rfl⟩ := hr
  rcases Nat.eq_zero_or_pos num with rfl | hnum
  · rw [Nat.cast_zero, zero_div] at hle
    exact hle.trans (magnitude_nonneg x)
  obtain ⟨hpos, hscaled⟩ := scaled_spec num hden (exponentOf num den)
  rw [(ofRatio?_spec h).2]
  rcases le_or_gt (exponentOf num den) k with hplace | hplace
  · rw [mul_two_zpow_eq m hplace, ← le_div_iff₀ (two_zpow_pos _), ← hscaled] at hle
    rw [mul_two_zpow_eq m hplace]
    gcongr
    exact_mod_cast le_roundDiv hpos hle
  · obtain ⟨hbelow, hlow⟩ := lt_of_lt_exponentOf hnum hden hm hk hplace
    have hplaces : Nat.pow 2 52 ≤ places num den := by
      refine le_roundDiv hpos ?_
      rw [hscaled, cast_two_pow]
      exact hlow
    have hplaces' : (2 : ℚ) ^ (52 : Int) ≤ places num den :=
      (cast_two_pow 52).symm.trans_le (Nat.cast_le.2 hplaces)
    refine hbelow.le.trans ?_
    gcongr

/-- **Nor past one above it.** -/
theorem magnitude_le (hden : 0 < den) (h : ofRatio? negative num den = some x)
    (hr : IsMagnitude r) (hle : num / den ≤ r) : x.magnitude ≤ r := by
  obtain ⟨m, k, hm, hk, -, rfl⟩ := hr
  rw [(ofRatio?_spec h).2]
  rcases Nat.eq_zero_or_pos num with rfl | hnum
  · rw [places_zero hden, Nat.cast_zero, zero_mul]
    have := two_zpow_pos k
    positivity
  obtain ⟨hpos, hscaled⟩ := scaled_spec num hden (exponentOf num den)
  rcases le_or_gt (exponentOf num den) k with hplace | hplace
  · rw [mul_two_zpow_eq m hplace, ← div_le_iff₀ (two_zpow_pos _), ← hscaled] at hle
    rw [mul_two_zpow_eq m hplace]
    gcongr
    exact_mod_cast roundDiv_le hpos hle
  · obtain ⟨hbelow, hlow⟩ := lt_of_lt_exponentOf hnum hden hm hk hplace
    rw [le_div_iff₀ (two_zpow_pos _)] at hlow
    exact absurd (hlow.trans hle) (not_le.2 hbelow)

/-! ## Products -/

/-- A product is the double for the product of the absolute values. -/
theorem exists_mul?_eq (x y : Binary64) : ∃ num den : Nat, 0 < den ∧
    (num : ℚ) / den = x.magnitude * y.magnitude ∧
    x.mul? y = ofRatio? (x.negative != y.negative) num den := by
  obtain ⟨hx, hx'⟩ := ratio_spec x
  obtain ⟨hy, hy'⟩ := ratio_spec y
  refine ⟨_, _, Nat.mul_pos hx hy, ?_, rfl⟩
  rw [Nat.cast_mul, Nat.cast_mul, mul_div_mul_comm, hx', hy']

/-- Signs are multiplied apart. -/
theorem value_mul_value (x y : Binary64) :
    x.value * y.value =
      if x.negative != y.negative then -(x.magnitude * y.magnitude)
      else x.magnitude * y.magnitude := by
  rw [value, value]
  cases x.negative <;> cases y.negative <;> simp

/-- A product that is not beyond the greatest double has a double. -/
theorem exists_mul?_of_le (h : |x.value * y.value| ≤ greatest) : ∃ z, x.mul? y = some z := by
  obtain ⟨num, den, hden, hratio, hmul⟩ := exists_mul?_eq x y
  rw [abs_mul, abs_value, abs_value, ← hratio] at h
  obtain ⟨z, hz⟩ := exists_ofRatio?_of_le hden h (x.negative != y.negative)
  exact ⟨z, hmul.trans hz⟩

/-- Products below a power of two are rounded by at most so much. -/
theorem abs_value_sub_le (hz : x.mul? y = some z) (hk : minExponent ≤ k)
    (h : |x.value * y.value| < 2 ^ (53 + k)) : |z.value - x.value * y.value| ≤ 2 ^ k / 2 := by
  obtain ⟨num, den, hden, hratio, hmul⟩ := exists_mul?_eq x y
  rw [abs_mul, abs_value, abs_value, ← hratio] at h
  have hnear := abs_magnitude_sub_le_of_lt hden hk h (hmul.symm.trans hz)
  rw [value_mul_value, value, (ofRatio?_spec (hmul.symm.trans hz)).1, ← hratio]
  split
  · rwa [neg_sub_neg, abs_sub_comm]
  · exact hnear

/-- No product is rounded past a double below it. -/
theorem le_value_of_mul? (hz : x.mul? y = some z) (hr : IsMagnitude |r|)
    (hle : r ≤ x.value * y.value) : r ≤ z.value := by
  obtain ⟨num, den, hden, hratio, hmul⟩ := exists_mul?_eq x y
  have hofRatio := hmul.symm.trans hz
  have hquotient : (0 : ℚ) ≤ num / den := by positivity
  rw [value_mul_value, ← hratio] at hle
  rw [value, (ofRatio?_spec hofRatio).1]
  split at hle
  · next hnegative =>
    have habs : |r| = -r := abs_of_nonpos (by linarith)
    have hbound : z.magnitude ≤ |r| := magnitude_le hden hofRatio hr (by linarith)
    rw [if_pos hnegative]
    linarith
  · next hnegative =>
    rw [if_neg hnegative]
    rcases le_total 0 r with hsign | hsign
    · rw [abs_of_nonneg hsign] at hr
      exact le_magnitude hden hofRatio hr hle
    · exact hsign.trans (magnitude_nonneg z)

/-- Nor past one above it. -/
theorem value_le_of_mul? (hz : x.mul? y = some z) (hr : IsMagnitude |r|)
    (hle : x.value * y.value ≤ r) : z.value ≤ r := by
  obtain ⟨num, den, hden, hratio, hmul⟩ := exists_mul?_eq x y
  have hofRatio := hmul.symm.trans hz
  have hquotient : (0 : ℚ) ≤ num / den := by positivity
  rw [value_mul_value, ← hratio] at hle
  rw [value, (ofRatio?_spec hofRatio).1]
  split at hle
  · next hnegative =>
    rw [if_pos hnegative]
    rcases le_total 0 r with hsign | hsign
    · linarith [magnitude_nonneg z]
    · have habs : |r| = -r := abs_of_nonpos hsign
      have hbound : |r| ≤ z.magnitude := le_magnitude hden hofRatio hr (by linarith)
      linarith
  · next hnegative =>
    rw [if_neg hnegative]
    rw [abs_of_nonneg (hquotient.trans hle)] at hr
    exact magnitude_le hden hofRatio hr hle

/-! ## Whole numbers -/

/-- **A double is rounded to a whole number by at most one half.** -/
theorem abs_round_sub_le (x : Binary64) : |(x.round : ℚ) - x.value| ≤ 1 / 2 := by
  obtain ⟨hpos, hratio⟩ := ratio_spec x
  set nearest := (2 * x.ratio.1 + x.ratio.2) / (2 * x.ratio.2) with hnearest
  have hround : x.round = if x.negative then -(nearest : Int) else nearest := rfl
  have hlow : nearest * (2 * x.ratio.2) ≤ 2 * x.ratio.1 + x.ratio.2 := Nat.div_mul_le_self _ _
  have hhigh : 2 * x.ratio.1 + x.ratio.2 < 2 * x.ratio.2 * (nearest + 1) :=
    Nat.lt_mul_div_succ _ (by omega)
  have hnear : |(nearest : ℚ) - x.magnitude| ≤ 1 / 2 := by
    rw [← hratio]
    refine abs_sub_div_le_half hpos ?_ ?_
    · linarith
    · linarith
  rw [hround, value]
  split
  · push_cast
    rwa [neg_sub_neg, abs_sub_comm]
  · exact_mod_cast hnear

/-- A whole number below a double is below what that is rounded to. -/
theorem le_round {i : Int} (h : (i : ℚ) ≤ x.value) : i ≤ x.round := by
  have hnear := abs_le.1 (abs_round_sub_le x)
  have hlt : (i : ℚ) < (x.round + 1 : Int) := by
    push_cast
    linarith [hnear.1]
  exact Int.lt_add_one_iff.1 (by exact_mod_cast hlt)

/-- And one above a double is above that. -/
theorem round_le {i : Int} (h : x.value ≤ i) : x.round ≤ i := by
  have hnear := abs_le.1 (abs_round_sub_le x)
  have hlt : (x.round : ℚ) < (i + 1 : Int) := by
    push_cast
    linarith [hnear.2]
  exact Int.lt_add_one_iff.1 (by exact_mod_cast hlt)

end Binary64

end IdleStop
