import IdleStop.Proofs.Json.Decoding
import IdleStop.Proofs.Numeric.Rounding
import IdleStop.Proofs.Text.Template
/-!
# Integers of any number of digits

An integer that fits into a word is kept as it is. Of any other the digits that fit
are collected, at least sixty bits of them, and those left over are told by a power
of ten (`Json.Number.ReadsInteger`). So there is a double within a few parts in
`2 ^ 53` of it, and none only where the integer is about `2 ^ 1024` or more.
-/

namespace IdleStop

/-! ## Digits that are collected -/

/-- Digits behind a number. -/
theorem Digits.foldl_eq (n : Nat) (ds : List Nat) :
    ds.foldl (fun n d => 10 * n + d) n = n * Nat.pow 10 ds.length + toNat ds := by
  induction ds generalizing n with
  | nil => exact (Nat.mul_one n).symm
  | cons d ds ih =>
    have hpow : Nat.pow 10 (d :: ds).length = 10 * Nat.pow 10 ds.length := Nat.mul_comm _ _
    have hhead : toNat (d :: ds) = d * Nat.pow 10 ds.length + toNat ds := by
      rw [toNat, List.foldl_cons, Nat.mul_zero, Nat.zero_add, ih]
    rw [List.foldl_cons, ih, hpow, hhead]
    ring

namespace Json

variable {negative : Bool} {n m k : Nat} {ds dropped : List Nat} {number : Number}
variable {x z : Binary64}

/-- What is collected are the first digits, and the next one does not fit. -/
theorem Literal.collect_spec (h : collect n ds = (m, dropped)) :
    ∃ taken, ds = taken ++ dropped ∧ m = taken.foldl (fun n d => 10 * n + d) n ∧
      ∀ d ∈ dropped.head?, Nat.pow 2 64 ≤ 10 * m + d := by
  induction ds generalizing n with
  | nil =>
    obtain ⟨rfl, rfl⟩ := Prod.mk.inj h
    exact ⟨[], rfl, rfl, nofun⟩
  | cons d ds ih =>
    rw [collect] at h
    split at h
    · obtain ⟨taken, rfl, hm, hnext⟩ := ih h
      exact ⟨d :: taken, rfl, hm, hnext⟩
    · next hfull =>
      obtain ⟨rfl, rfl⟩ := Prod.mk.inj h
      refine ⟨[], rfl, rfl, fun e he => ?_⟩
      obtain rfl := Option.some.inj he
      exact Nat.le_of_not_lt hfull

/-- The digits left over are less than one of the last collected. -/
theorem Literal.collect_bounds (hds : ∀ d ∈ ds, d < 10) (h : collect 0 ds = (m, dropped)) :
    m * Nat.pow 10 dropped.length ≤ Digits.toNat ds ∧
      Digits.toNat ds < (m + 1) * Nat.pow 10 dropped.length := by
  obtain ⟨taken, rfl, hm, -⟩ := collect_spec h
  have hdropped : Digits.toNat dropped < Nat.pow 10 dropped.length :=
    Digits.toNat_lt fun d hd => hds d (List.mem_append_right taken hd)
  have hall : Digits.toNat (taken ++ dropped) =
      m * Nat.pow 10 dropped.length + Digits.toNat dropped := by
    rw [Digits.toNat, List.foldl_append, ← hm, Digits.foldl_eq]
  rw [hall, Nat.add_mul, Nat.one_mul]
  omega

/-- Where digits are left over, sixty bits were collected. -/
theorem Literal.le_of_collect (hds : ∀ d ∈ ds, d < 10) (h : collect 0 ds = (m, dropped))
    (hdropped : dropped ≠ []) : Nat.pow 2 60 ≤ m := by
  obtain ⟨taken, rfl, -, hnext⟩ := collect_spec h
  obtain ⟨d, rest, rfl⟩ := List.exists_cons_of_ne_nil hdropped
  have hfull : Nat.pow 2 64 ≤ 10 * m + d := hnext d rfl
  have hd : d < 10 := hds d (List.mem_append_right taken List.mem_cons_self)
  have hword : Nat.pow 2 64 = 16 * Nat.pow 2 60 := by decide
  have hlarge : 10 ≤ Nat.pow 2 60 := by decide
  omega

/-! ## How integers are read -/

/-- The double for some digits and a power of ten. -/
def Number.scaled? (negative : Bool) (m k : Nat) : Option Binary64 :=
  (Binary64.ofRatio? negative m 1).bind fun x => x.scale? k

/-- How an integer other than zero is read. -/
inductive Number.ReadsInteger (negative : Bool) (n : Nat) : Option Number → Prop
  /-- As the word it is. -/
  | word {number : Number} (h : number.toDouble? = Binary64.ofRatio? negative n 1)
      (hfits : n < Nat.pow 2 64) : ReadsInteger negative n (some number)
  /-- As its first digits, times a power of ten. -/
  | scaled {m k : Nat} (hlow : m * Nat.pow 10 k ≤ n) (hhigh : n < (m + 1) * Nat.pow 10 k)
      (hm : Nat.pow 2 60 ≤ m) : ReadsInteger negative n ((scaled? negative m k).map .double)

theorem Number.toDouble?_natural (n : Nat) :
    (natural n).toDouble? = Binary64.ofRatio? false n 1 := by
  rw [toDouble?, Binary64.ofInt?, Int.natAbs_natCast, decide_eq_false (by omega)]

theorem Number.toDouble?_negative (hpos : 0 < n) :
    (Number.negative n).toDouble? = Binary64.ofRatio? true n 1 := by
  rw [toDouble?, Binary64.ofInt?, Int.natAbs_neg, Int.natAbs_natCast, decide_eq_true (by omega)]

/-- **An integer is read as a word or as a double for its digits.** -/
theorem Number.readsInteger (negative : Bool) (hds : ∀ d ∈ ds, d < 10)
    (hpos : 0 < Digits.toNat ds) :
    ReadsInteger negative (Digits.toNat ds) (ofLiteral? ⟨negative, ds, [], none⟩) := by
  cases hcollect : Literal.collect 0 ds with
  | mk m dropped =>
  obtain ⟨hlow, hhigh⟩ := Literal.collect_bounds hds hcollect
  by_cases hdropped : dropped = []
  · subst hdropped
    have hm : m = Digits.toNat ds := Literal.foldl_of_collect hcollect
    have hfits : m < Nat.pow 2 64 := by
      have hword := Literal.collect_lt (by decide : 0 < Nat.pow 2 64) ds
      rwa [hcollect] at hword
    rw [← hm] at hpos hlow hhigh ⊢
    cases negative with
    | false =>
      have hread : ofLiteral? ⟨false, ds, [], none⟩ = some (.natural m) := by
        rw [ofLiteral?, hcollect]
        rfl
      rw [hread]
      exact .word (toDouble?_natural m) hfits
    | true =>
      by_cases hsigned : m ≤ Nat.pow 2 63
      · have hread : ofLiteral? ⟨true, ds, [], none⟩ = some (.negative m) := by
          rw [ofLiteral?, hcollect]
          simp [Literal.isWhole, hpos.ne', hsigned]
        rw [hread]
        exact .word (toDouble?_negative hpos) hfits
      · have hread : ofLiteral? ⟨true, ds, [], none⟩ = (scaled? true m 0).map .double := by
          rw [ofLiteral?, hcollect]
          simp [Literal.isWhole, Literal.collect, Literal.exponentValue, scaled?, hpos.ne', hsigned,
            Option.map_eq_bind, Option.bind_assoc]
        rw [hread]
        refine .scaled hlow hhigh ?_
        have hhalf : Nat.pow 2 60 ≤ Nat.pow 2 63 := by decide
        omega
  · have hread : ofLiteral? ⟨negative, ds, [], none⟩ =
        (scaled? negative m dropped.length).map .double := by
      rw [ofLiteral?, hcollect]
      simp [Literal.isWhole, Literal.collect, Literal.exponentValue, scaled?, hdropped,
        Option.map_eq_bind, Option.bind_assoc]
    rw [hread]
    exact .scaled hlow hhigh (Literal.le_of_collect hds hcollect hdropped)

end Json

/-! ## The doubles of integers -/

namespace Binary64

variable {negative : Bool} {n m k : Nat} {x p z : Binary64}

/-- The place of the greatest double, of which `2 ^ 1024` is a whole multiple. -/
theorem exists_greatest_place : ∃ place : ℚ, 0 < place ∧ greatest = (2 ^ 53 - 1) * place ∧
    (2 : ℚ) ^ 1024 = 2 ^ 53 * place ∧ (2 : ℚ) ^ 974 = 2 ^ 3 * place := by
  refine ⟨2 ^ 971, by positivity, ?_, pow_add 2 53 971, pow_add 2 3 971⟩
  rw [greatest, show maxExponent = ((971 : Nat) : Int) from rfl, zpow_natCast]
  norm_num

/-- Other than zero, a number is scaled up by one power of ten. -/
theorem scale?_natCast (hx : 0 < x.magnitude) (k : Nat) :
    x.scale? k = if k ≤ maxPlaces then (powerOfTen? k).bind x.mul? else none := by
  have hsignificand : x.significand ≠ 0 := by
    intro hzero
    rw [magnitude, hzero, Nat.cast_zero, zero_mul] at hx
    exact lt_irrefl 0 hx
  rw [scale?, if_neg hsignificand, if_neg (by omega)]
  simp only [Nat.cast_le, Int.toNat_natCast]

/-- A whole number is rounded by at most one part in `2 ^ 53`. -/
theorem natCast_bounds (hn : 0 < n) (h : ofRatio? negative n 1 = some x) :
    n * (1 - roundoff) ≤ x.magnitude ∧ x.magnitude ≤ n * (1 + roundoff) := by
  have hone : 1 ≤ (n : ℚ) / (1 : Nat) := by
    rw [Nat.cast_one, div_one]
    exact_mod_cast hn
  have hbounds := magnitude_bounds Nat.one_pos hone h
  rwa [Nat.cast_one, div_one] at hbounds

/-- Nor is it rounded past a double below it. -/
theorem le_of_natCast {r : Nat} (hr : IsMagnitude r) (hle : r ≤ n)
    (h : ofRatio? negative n 1 = some x) : (r : ℚ) ≤ x.magnitude := by
  refine le_magnitude Nat.one_pos h hr ?_
  rw [Nat.cast_one, div_one]
  exact_mod_cast hle

theorem isMagnitude_two_pow {k : Nat} (hk : (k : Int) ≤ maxExponent) :
    IsMagnitude (Nat.pow 2 k : Nat) := by
  refine ⟨1, k, by decide, ?_, hk, ?_⟩
  · rw [minExponent]
    omega
  · rw [cast_two_pow, Nat.cast_one, one_mul]

theorem roundoff_pos : 0 < roundoff ∧ roundoff < 1 := by
  norm_num [roundoff]

theorem magnitude_pos_of_natCast (hn : 0 < n) (h : ofRatio? negative n 1 = some x) :
    0 < x.magnitude := by
  have hn' : (0 : ℚ) < n := by exact_mod_cast hn
  have hless : 0 < 1 - roundoff := by linarith [roundoff_pos.2]
  exact (mul_pos hn' hless).trans_le (natCast_bounds hn h).1

/-- Digits and a power of ten are rounded each, and so is their product. -/
theorem exists_of_scaled? (hm : 0 < m) (hz : Json.Number.scaled? negative m k = some z) :
    ∃ x p, ofRatio? negative m 1 = some x ∧ ofRatio? false (Nat.pow 10 k) 1 = some p ∧
      x.mul? p = some z := by
  obtain ⟨x, hx, hscale⟩ := Option.bind_eq_some_iff.1 hz
  rw [scale?_natCast (magnitude_pos_of_natCast hm hx)] at hscale
  split at hscale
  · obtain ⟨p, hp, hmul⟩ := Option.bind_eq_some_iff.1 hscale
    exact ⟨x, p, hx, hp, hmul⟩
  · cases hscale

/-- The double for at least 53 bits has as many. -/
theorem le_of_scaled? (hm : Nat.pow 2 53 ≤ m) (hz : Json.Number.scaled? negative m k = some z) :
    ((Nat.pow 2 53 : Nat) : ℚ) ≤ z.magnitude := by
  have hpos : 0 < m := (Nat.pow_pos (by decide)).trans_le hm
  obtain ⟨x, p, hx, hp, hmul⟩ := exists_of_scaled? hpos hz
  have hx' := le_of_natCast (isMagnitude_two_pow (by decide)) hm hx
  have hp' : ((Nat.pow 2 0 : Nat) : ℚ) ≤ p.magnitude :=
    le_of_natCast (isMagnitude_two_pow (by decide)) (Nat.pow_pos (by decide)) hp
  obtain ⟨num, den, hden, hratio, heq⟩ := exists_mul?_eq x p
  refine le_magnitude hden (heq.symm.trans hmul) (isMagnitude_two_pow (by decide)) ?_
  rw [hratio]
  calc ((Nat.pow 2 53 : Nat) : ℚ) = (Nat.pow 2 53 : Nat) * (Nat.pow 2 0 : Nat) := by norm_num
    _ ≤ x.magnitude * p.magnitude :=
      mul_le_mul hx' hp' (Nat.cast_nonneg _) (magnitude_nonneg x)

/-- Digits and a power of ten are less than the double for them by three roundings at
most. -/
theorem mul_le_of_scaled? (hm : 0 < m) (hz : Json.Number.scaled? negative m k = some z) :
    (m : ℚ) * Nat.pow 10 k * (1 - roundoff) ^ 3 ≤ z.magnitude := by
  obtain ⟨x, p, hx, hp, hmul⟩ := exists_of_scaled? hm hz
  obtain ⟨num, den, hden, hratio, heq⟩ := exists_mul?_eq x p
  have hten : 0 < Nat.pow 10 k := Nat.pow_pos (by decide)
  have hless : 0 < 1 - roundoff := by linarith [roundoff_pos.2]
  have hx' : ((Nat.pow 2 0 : Nat) : ℚ) ≤ x.magnitude :=
    le_of_natCast (isMagnitude_two_pow (by decide)) hm hx
  have hp' : ((Nat.pow 2 0 : Nat) : ℚ) ≤ p.magnitude :=
    le_of_natCast (isMagnitude_two_pow (by decide)) hten hp
  have hone : 1 ≤ (num : ℚ) / den := by
    rw [hratio]
    have hmul := mul_le_mul hx' hp' (Nat.cast_nonneg _) (magnitude_nonneg x)
    norm_num at hmul
    exact hmul
  calc (m : ℚ) * Nat.pow 10 k * (1 - roundoff) ^ 3
      = m * (1 - roundoff) * (Nat.pow 10 k * (1 - roundoff)) * (1 - roundoff) := by ring
    _ ≤ x.magnitude * p.magnitude * (1 - roundoff) := by
      gcongr
      · exact magnitude_nonneg x
      · exact (natCast_bounds hm hx).1
      · exact (natCast_bounds hten hp).1
    _ = num / den * (1 - roundoff) := by rw [hratio]
    _ ≤ z.magnitude := (magnitude_bounds hden hone (heq.symm.trans hmul)).1

/-- **Digits and a power of ten that have a double are below `2 ^ 1024`**, but for a few
roundings. -/
theorem lt_of_scaled? (hm : Nat.pow 2 60 ≤ m) (hn : n < (m + 1) * Nat.pow 10 k)
    (hz : Json.Number.scaled? negative m k = some z) : n < 2 ^ 1024 + 2 ^ 974 := by
  have hpos : 0 < m := (Nat.pow_pos (by decide)).trans_le hm
  obtain ⟨x, p, -, -, hmul⟩ := exists_of_scaled? hpos hz
  obtain ⟨num, den, hden, -, heq⟩ := exists_mul?_eq x p
  have hz' : (m : ℚ) * Nat.pow 10 k * (1 - roundoff) ^ 3 ≤ greatest :=
    (mul_le_of_scaled? hpos hz).trans (magnitude_le_greatest hden (heq.symm.trans hmul))
  have hn' : (n : ℚ) < (m + 1) * Nat.pow 10 k := by exact_mod_cast hn
  have hm' : (2 : ℚ) ^ 60 ≤ m := by exact_mod_cast hm
  have hless : 0 < 1 - roundoff := by linarith [roundoff_pos.2]
  by_contra hlarge
  have hlarge' : (2 : ℚ) ^ 1024 + 2 ^ 974 ≤ n := by exact_mod_cast not_lt.1 hlarge
  -- the digits left over are less than one part in `2 ^ 60`
  have hrest : ((m : ℚ) + 1) * 2 ^ 60 ≤ m * (2 ^ 60 + 1) := by linarith
  have hbound : ((2 : ℚ) ^ 1024 + 2 ^ 974) * 2 ^ 60 * (1 - roundoff) ^ 3 ≤
      greatest * (2 ^ 60 + 1) :=
    calc ((2 : ℚ) ^ 1024 + 2 ^ 974) * 2 ^ 60 * (1 - roundoff) ^ 3
        ≤ n * 2 ^ 60 * (1 - roundoff) ^ 3 := by gcongr
      _ ≤ (m + 1) * Nat.pow 10 k * 2 ^ 60 * (1 - roundoff) ^ 3 := by gcongr
      _ = (m + 1) * 2 ^ 60 * (Nat.pow 10 k * (1 - roundoff) ^ 3) := by ring
      _ ≤ m * (2 ^ 60 + 1) * (Nat.pow 10 k * (1 - roundoff) ^ 3) := by gcongr
      _ = m * Nat.pow 10 k * (1 - roundoff) ^ 3 * (2 ^ 60 + 1) := by ring
      _ ≤ greatest * (2 ^ 60 + 1) := by gcongr
  obtain ⟨place, hplace, hgreatest, hpow, hpow'⟩ := exists_greatest_place
  have hplaces : (2 ^ 53 - 1) * (2 ^ 60 + 1) < (2 ^ 53 + 2 ^ 3) * 2 ^ 60 * (1 - roundoff) ^ 3 := by
    norm_num [roundoff]
  have hexceeds := mul_lt_mul_of_pos_right hplaces hplace
  rw [hgreatest, hpow, hpow'] at hbound
  linarith

/-- Whole numbers short of `2 ^ 1024` are not beyond the greatest double, not even
rounded twice. -/
theorem mul_le_greatest {q : ℚ} (h : q + 2 ^ 974 < 2 ^ 1024) :
    q * (1 + roundoff) ^ 2 ≤ greatest := by
  obtain ⟨place, hplace, hgreatest, hpow, hpow'⟩ := exists_greatest_place
  rw [hpow, hpow'] at h
  have hq : q ≤ (2 ^ 53 - 2 ^ 3) * place := by linarith
  have hplaces : (2 ^ 53 - 2 ^ 3) * (1 + roundoff) ^ 2 ≤ 2 ^ 53 - 1 := by
    norm_num [roundoff]
  calc q * (1 + roundoff) ^ 2 ≤ (2 ^ 53 - 2 ^ 3) * place * (1 + roundoff) ^ 2 := by gcongr
    _ = (2 ^ 53 - 2 ^ 3) * (1 + roundoff) ^ 2 * place := by ring
    _ ≤ (2 ^ 53 - 1) * place := by gcongr
    _ = greatest := hgreatest.symm

theorem two_pow_lt_ten_pow : 2 ^ 1024 < 10 ^ 309 :=
  calc 2 ^ 1024 = (2 ^ 10) ^ 102 * 2 ^ 4 := by rw [← pow_mul, ← pow_add]
    _ < (10 ^ 3) ^ 103 := by norm_num
    _ = 10 ^ 309 := by rw [← pow_mul]

/-- **Digits and a power of ten that have no double are not below `2 ^ 1024`**, but for
a few roundings. -/
theorem le_of_scaled?_eq_none (hm : 0 < m) (hn : m * Nat.pow 10 k ≤ n)
    (hz : Json.Number.scaled? negative m k = none) : 2 ^ 1024 ≤ n + 2 ^ 974 := by
  by_contra hsmall
  have hn' : n + 2 ^ 974 < 2 ^ 1024 := not_le.1 hsmall
  have hten : 0 < Nat.pow 10 k := Nat.pow_pos (by decide)
  have hmore : 1 ≤ (1 + roundoff) ^ 2 := one_le_pow₀ (by linarith [roundoff_pos.1])
  have htwice : ∀ {a : Nat}, a ≤ n → (a : ℚ) * (1 + roundoff) ^ 2 ≤ greatest := by
    intro a ha
    refine mul_le_greatest ?_
    exact_mod_cast (Nat.add_le_add_right ha _).trans_lt hn'
  have hwhole : ∀ {a : Nat}, a ≤ n → (a : ℚ) / (1 : Nat) ≤ greatest := by
    intro a ha
    rw [Nat.cast_one, div_one]
    exact (le_mul_of_one_le_right (Nat.cast_nonneg a) hmore).trans (htwice ha)
  obtain ⟨x, hx⟩ := exists_ofRatio?_of_le Nat.one_pos
    (hwhole ((Nat.le_mul_of_pos_right m hten).trans hn)) negative
  obtain ⟨p, hp⟩ := exists_ofRatio?_of_le Nat.one_pos
    (hwhole ((Nat.le_mul_of_pos_left _ hm).trans hn)) false
  have hplaces : k ≤ maxPlaces := by
    by_contra hk
    have hpow : 10 ^ 309 ≤ 10 ^ k := pow_le_pow_right₀ (by norm_num) (not_le.1 hk)
    have hten' : 10 ^ k ≤ n := (Nat.le_mul_of_pos_left _ hm).trans hn
    exact absurd (two_pow_lt_ten_pow.trans_le (hpow.trans hten')) (not_lt.2 ((Nat.le_add_right _ _).trans hn'.le))
  have hless : |x.value * p.value| ≤ greatest := by
    rw [abs_mul, abs_value, abs_value]
    calc x.magnitude * p.magnitude
        ≤ m * (1 + roundoff) * (Nat.pow 10 k * (1 + roundoff)) :=
          mul_le_mul (natCast_bounds hm hx).2 (natCast_bounds hten hp).2 (magnitude_nonneg p)
            (mul_nonneg (Nat.cast_nonneg m) (by linarith [roundoff_pos.1]))
      _ = (m * Nat.pow 10 k : Nat) * (1 + roundoff) ^ 2 := by
          rw [Nat.cast_mul]
          ring
      _ ≤ greatest := htwice hn
  obtain ⟨z, hmul⟩ := exists_mul?_of_le hless
  have hscaled : Json.Number.scaled? negative m k = some z := by
    rw [Json.Number.scaled?, hx, Option.bind_some,
      scale?_natCast (magnitude_pos_of_natCast hm hx), if_pos hplaces, powerOfTen?, hp]
    exact hmul
  rw [hscaled] at hz
  cases hz

end Binary64

/-! ## What is read of an integer -/

namespace Json.Number.ReadsInteger

variable {negative : Bool} {n : Nat} {read : Option Number} {number : Number} {x : Binary64}

/-- An integer of more than 53 bits is read as a number of as many. -/
theorem le_magnitude (h : ReadsInteger negative n read) (hread : read = some number)
    (hn : Nat.pow 2 53 ≤ n) (hx : number.toDouble? = some x) :
    ((Nat.pow 2 53 : Nat) : ℚ) ≤ x.magnitude := by
  cases h with
  | word h _ =>
    obtain rfl := Option.some.inj hread
    exact Binary64.le_of_natCast (Binary64.isMagnitude_two_pow (by decide)) hn (h.symm.trans hx)
  | scaled _ _ hm =>
    obtain ⟨z, hz, rfl⟩ := Option.map_eq_some_iff.1 hread
    obtain rfl := Option.some.inj hx
    exact Binary64.le_of_scaled? ((by decide : Nat.pow 2 53 ≤ Nat.pow 2 60).trans hm) hz

/-- An integer that is read is below `2 ^ 1024`, but for a few roundings. -/
theorem lt_of_some (h : ReadsInteger negative n read) (hread : read = some number) :
    n < 2 ^ 1024 + 2 ^ 974 := by
  cases h with
  | word _ hfits =>
    have hpow : 2 ^ 64 ≤ 2 ^ 1024 := pow_le_pow_right₀ (by norm_num) (by norm_num)
    exact hfits.trans_le (hpow.trans (Nat.le_add_right _ _))
  | scaled _ hhigh hm =>
    obtain ⟨z, hz, -⟩ := Option.map_eq_some_iff.1 hread
    exact Binary64.lt_of_scaled? hm hhigh hz

/-- An integer that is not read is not below `2 ^ 1024`, but for a few roundings. -/
theorem le_of_none (h : ReadsInteger negative n read) (hread : read = none) :
    2 ^ 1024 ≤ n + 2 ^ 974 := by
  cases h with
  | word => cases hread
  | scaled hlow _ hm =>
    exact Binary64.le_of_scaled?_eq_none ((Nat.pow_pos (by decide)).trans_le hm) hlow
      (Option.map_eq_none_iff.1 hread)

end Json.Number.ReadsInteger

end IdleStop
