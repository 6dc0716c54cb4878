import IdleStop.Proofs.Json.Record
import IdleStop.Proofs.Numeric.Binary64
import IdleStop.Proofs.Time.Civil
import IdleStop.Time.Epoch
/-!
# Whole epoch seconds

A million is `15625 * 2 ^ 6`, so the microseconds of whole seconds are a double
even where there are more than `2 ^ 53` of them, and whole epoch seconds are read
as that many seconds exactly (`Epoch.parse_of_value`). No end of a 64-bit word is an
instant, so that microseconds are kept in a word makes no difference
(`Epoch.ofSeconds?_eq`). An integer in JSON gives a double of its value
(`Json.Number.exists_of_writesInt`).
-/

namespace IdleStop

/-! ## Seconds as microseconds -/

theorem Instant.ofMicroseconds?_of_seconds {n : Int} (h : (ofSeconds n).InRange) :
    ofMicroseconds? (n * 1000000) = some (ofSeconds n) := by
  have hstart : (⟨n * 1000000 / 1000000, (n * 1000000 % 1000000).toNat * 1000, by omega⟩ : Instant) =
      ofSeconds n := by
    refine ext ?_ ?_
    · exact Int.mul_ediv_cancel n (by decide)
    · change (n * 1000000 % 1000000).toNat * 1000 = 0
      rw [Int.mul_emod_left]
      rfl
  simp only [ofMicroseconds?, hstart, if_pos h]

/-- The microseconds that a clock can show run from the first of its first second to
the last of its last. -/
theorem Instant.ofMicroseconds?_eq_none_iff {micros : Int} :
    ofMicroseconds? micros = none ↔
      micros < minSeconds * 1000000 ∨ (maxSeconds + 1) * 1000000 ≤ micros := by
  have hnone : ofMicroseconds? micros = none ↔
      ¬(minSeconds ≤ micros / 1000000 ∧ micros / 1000000 ≤ maxSeconds) := by
    rw [ofMicroseconds?]
    refine ite_eq_right_iff.trans ⟨fun h hrange => ?_, fun h hrange => absurd hrange h⟩
    cases h hrange
  rw [hnone, minSeconds, maxSeconds]
  omega

namespace Epoch

variable {x : Binary64} {n : Int}

/-! ## Words -/

/-- **The word for a number is an instant just where the number is**, and the same
one. -/
theorem ofMicroseconds?_word (n : Int) :
    Instant.ofMicroseconds? (word n) = Instant.ofMicroseconds? n := by
  have hword : word n = max (-9223372036854775808) (min 9223372036854775807 n) := rfl
  by_cases hfits : -9223372036854775808 ≤ n ∧ n ≤ 9223372036854775807
  · rw [hword, min_eq_right hfits.2, max_eq_right hfits.1]
  · have hbeyond : ∀ {m : Int}, m ≤ -9223372036854775808 ∨ 9223372036854775807 ≤ m →
        Instant.ofMicroseconds? m = none := by
      intro m hm
      rw [Instant.ofMicroseconds?_eq_none_iff, Instant.minSeconds, Instant.maxSeconds]
      omega
    rw [hbeyond (by omega), hbeyond (by omega)]

/-- A million is exact. -/
theorem exists_million : ∃ million, Binary64.ofInt? 1000000 = some million ∧
    million.value = 1000000 := by
  obtain ⟨million, hmillion, hvalue⟩ := Binary64.exists_ofInt? (i := 1000000) <|
    Binary64.isMagnitude_intCast (m := 15625) (k := 6) rfl (by decide) (by decide)
  exact ⟨million, hmillion, hvalue.trans (by norm_num)⟩

/-- **Neither a word nor an infinite product makes an instant of its own.** -/
theorem ofSeconds?_eq (x : Binary64) :
    ofSeconds? x = (do
      let micros ← x.mul? (← Binary64.ofInt? 1000000)
      Instant.ofMicroseconds? micros.round) := by
  obtain ⟨million, hmillion, -⟩ := exists_million
  simp only [ofSeconds?, microseconds?, hmillion, Option.bind_eq_bind, Option.bind_some,
    Option.pure_def]
  cases hmicros : x.mul? million with
  | some micros => exact ofMicroseconds?_word micros.round
  | none =>
    change Instant.ofMicroseconds? (if x.negative then minWord else maxWord) = none
    cases x.negative
    · exact Instant.ofMicroseconds?_eq_none_iff.2 (Or.inr (by decide))
    · exact Instant.ofMicroseconds?_eq_none_iff.2 (Or.inl (by decide))

/-! ## Exact seconds -/

/-- A million is exact, and so is the product with it. -/
theorem ofSeconds?_of_value (hx : x.value = n) (hn : n.natAbs * 15625 < Nat.pow 2 53) :
    ofSeconds? x = Instant.ofMicroseconds? (n * 1000000) := by
  obtain ⟨million, hmillion, hvalue⟩ := exists_million
  have hproduct : x.value * million.value = (n * 1000000 : Int) := by
    rw [hx, hvalue]
    norm_num
  have hexact : Binary64.IsMagnitude |x.value * million.value| := by
    rw [hproduct]
    refine Binary64.isMagnitude_intCast (k := 6) ?_ hn (by decide)
    have hmul : (n * 1000000).natAbs = n.natAbs * 1000000 := Int.natAbs_mul n 1000000
    rw [hmul, Nat.mul_assoc]
  obtain ⟨micros, hmicros, hmicros'⟩ := Binary64.exists_mul? hexact
  rw [ofSeconds?_eq, hmillion, Option.bind_eq_bind, Option.bind_some, hmicros,
    Option.bind_some, Binary64.round_eq (hmicros'.trans hproduct)]

/-- **A whole number of epoch seconds is read as that second.** -/
theorem parse_of_value {number : Json.Number} (hnumber : number.toDouble? = some x)
    (hx : x.value = n) (hn : n.natAbs * 15625 < Nat.pow 2 53) :
    parse number = .ok (.ofSeconds n) := by
  have hrange : (Instant.ofSeconds n).InRange := by
    have hpow : Nat.pow 2 53 = 9007199254740992 := rfl
    simp only [Instant.InRange, Instant.minSeconds, Instant.maxSeconds, Instant.ofSeconds]
    omega
  rw [parse, hnumber, Option.bind_some, ofSeconds?_of_value hx hn,
    Instant.ofMicroseconds?_of_seconds hrange]

end Epoch

/-! ## Any number of seconds -/

/-- The instant of a number of microseconds has as many nanoseconds as these have,
and none of a leap second. -/
theorem Instant.ofMicroseconds?_eq_some_iff {micros : Int} {i : Instant} :
    ofMicroseconds? micros = some i ↔
      i.nanoseconds = micros * 1000 ∧ i.isLeap = false ∧ i.InRange := by
  have hperSecond : (Duration.perSecond : Int) = 1000000000 := rfl
  rw [ofMicroseconds?]
  constructor
  · intro h
    split at h
    · next hrange =>
      obtain rfl := Option.some.inj h
      refine ⟨?_, ?_, hrange⟩
      · rw [nanoseconds, hperSecond]
        dsimp only
        omega
      · rw [isLeap, decide_eq_false_iff_not]
        dsimp only
        omega
    · cases h
  · rintro ⟨hnanos, hleap, hrange⟩
    rw [nanoseconds, hperSecond] at hnanos
    rw [isLeap, decide_eq_false_iff_not] at hleap
    have hsame : (⟨micros / 1000000, (micros % 1000000).toNat * 1000, by omega⟩ : Instant) = i := by
      refine ext ?_ ?_
      · dsimp only
        omega
      · dsimp only
        omega
    simp only [hsame, if_pos hrange]

/-- A number tells an instant that a clock can show: as a double, times a million, it
is rounded to the microseconds of that instant. -/
def Epoch.Tells (n : Json.Number) (i : Instant) : Prop :=
  ∃ seconds million micros, n.toDouble? = some seconds ∧
    Binary64.ofInt? 1000000 = some million ∧ seconds.mul? million = some micros ∧
    i.nanoseconds = micros.round * 1000 ∧ i.isLeap = false ∧ i.InRange

/-- **A number is read as the instant it tells.** -/
theorem Epoch.parse_eq_ok_iff {n : Json.Number} {i : Instant} : parse n = .ok i ↔ Tells n i := by
  have hread : parse n = .ok i ↔ n.toDouble?.bind ofSeconds? = some i := by
    rw [parse]
    cases n.toDouble?.bind ofSeconds? with
    | none => exact ⟨nofun, nofun⟩
    | some j => rw [Except.ok.injEq, Option.some.injEq]
  simp only [hread, Tells, ofSeconds?_eq, Option.bind_eq_bind, Option.bind_eq_some_iff,
    Instant.ofMicroseconds?_eq_some_iff]
  constructor
  · rintro ⟨seconds, hseconds, million, hmillion, micros, hmicros, htold⟩
    exact ⟨seconds, million, micros, hseconds, hmillion, hmicros, htold⟩
  · rintro ⟨seconds, million, micros, hseconds, hmillion, hmicros, htold⟩
    exact ⟨seconds, hseconds, million, hmillion, micros, hmicros, htold⟩

/-! ## Integers in JSON -/

namespace Json

/-- What may stand for an integer: its digits, with a minus sign if it is negative.
Zero may have one too. -/
inductive Tree.WritesInt : Int → Tree → Prop
  | positive {n : Int} {ds : List Nat} (h : n = Digits.toNat ds) :
    WritesInt n (.number ⟨false, ds, [], none⟩)
  | negative {n : Int} {ds : List Nat} (h : n = -(Digits.toNat ds : Int)) :
    WritesInt n (.number ⟨true, ds, [], none⟩)

variable {n : Int} {t : Tree}

/-- **An integer of at most 53 bits is read as a double of its value.** -/
theorem Number.exists_of_writesInt (h : t.WritesInt n) (hn : n.natAbs < Nat.pow 2 53) :
    ∃ l number x, t = .number l ∧ ofLiteral? l = some number ∧ number.toDouble? = some x ∧
      x.value = n := by
  obtain ⟨x, hx, hvalue⟩ := Binary64.exists_ofInt? (i := n) <|
    Binary64.isMagnitude_intCast (k := 0) (Nat.mul_one _).symm hn (by decide)
  have hcollect : ∀ {ds}, Digits.toNat ds < Nat.pow 2 53 →
      Literal.collect 0 ds = (Digits.toNat ds, []) := fun hds =>
    Literal.collect_of_lt (hds.trans (by decide))
  cases h with
  | @positive ds h =>
    subst h
    have hds : Digits.toNat ds < Nat.pow 2 53 := by omega
    refine ⟨_, .natural (Digits.toNat ds), x, rfl, ?_, hx, hvalue⟩
    rw [ofLiteral?, hcollect hds]
    rfl
  | @negative ds h =>
    subst h
    have hds : Digits.toNat ds < Nat.pow 2 53 := by omega
    by_cases hzero : Digits.toNat ds = 0
    · -- minus zero is a double of its own
      refine ⟨_, .double (.zero true), _, rfl, ?_, rfl, ?_⟩
      · rw [ofLiteral?, hcollect hds, hzero]
        rfl
      · simp [Binary64.value, Binary64.magnitude, Binary64.zero, hzero]
    · refine ⟨_, .negative (Digits.toNat ds), x, rfl, ?_, hx, hvalue⟩
      have hfits : Digits.toNat ds ≤ Nat.pow 2 63 := (hds.trans (by decide)).le
      rw [ofLiteral?, hcollect hds]
      simp [Literal.isWhole, hzero, hfits]

end Json

end IdleStop
