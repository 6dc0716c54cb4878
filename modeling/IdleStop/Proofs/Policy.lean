import IdleStop.Proofs.Check.Plan
import IdleStop.Proofs.Time.Elapsed
/-!
# The idle time in words of 64 bits

A machine makes a threshold in three steps: it takes the minutes sixty times in a word
of 64 bits, gives the word a sign, and takes it for the seconds of a span of time
(`Policy.span?`). Each step has a limit of its own and makes nothing of a number beyond
it. The last limit is the least, so the idle times that are accepted are one interval
(`Policy.span?_eq`), and no step cuts anything off what it makes.
-/

namespace IdleStop

namespace Policy

variable {minutes : UInt64} {ignoreConnections : Bool} {port : UInt16} {p : Policy}

/-! ## Three steps -/

/-- The product of two words, unless it does not fit into one. -/
def product? (a b : UInt64) : Option UInt64 :=
  if a.toNat * b.toNat < Nat.pow 2 64 then some (a * b) else none

/-- The bits of a word as a word with a sign, unless they would make it negative. -/
def signed? (a : UInt64) : Option Int64 :=
  if a.toNat < Nat.pow 2 63 then some a.toInt64 else none

/-- The span of so many minutes. -/
def span? (minutes : UInt64) : Option Span := do
  let seconds ← product? minutes 60
  let signed ← signed? seconds
  Span.checked? ⟨signed.toInt, 0, Nat.zero_lt_succ _⟩

/-- A product that fits is not cut off. -/
theorem toNat_of_product? {a b c : UInt64} (h : product? a b = some c) :
    c.toNat = a.toNat * b.toNat := by
  obtain ⟨hfits, rfl⟩ := Option.ite_some_none_eq_some.1 h
  exact (UInt64.toNat_mul a b).trans (Nat.mod_eq_of_lt hfits)

/-- A word that fits is the same number with a sign. -/
theorem toInt_of_signed? {a : UInt64} {i : Int64} (h : signed? a = some i) :
    i.toInt = a.toNat := by
  obtain ⟨hfits, rfl⟩ := Option.ite_some_none_eq_some.1 h
  have hhalf : 2 * a.toBitVec.toNat < 2 ^ 64 := by
    have hfits' : a.toBitVec.toNat < 2 ^ 63 := hfits
    omega
  exact BitVec.toInt_eq_toNat_of_lt hhalf

/-! ## One interval -/

/-- The longest idle time in minutes. -/
def maxMinutes : Nat := 153722867280912

theorem sixty_mul_le_maxSeconds_iff {n : Nat} : 60 * n ≤ maxSeconds ↔ n ≤ maxMinutes := by
  rw [maxSeconds, maxMinutes]
  omega

theorem inRange_ofSeconds_iff {n : Nat} :
    (Span.mk (60 * n) 0 (by decide)).InRange ↔ n ≤ maxMinutes := by
  simp only [Span.InRange, Span.nanoseconds_toDuration, Span.maxMillis, maxMinutes]
  omega

/-- **The last limit is the least**: what the steps make is so many seconds, up to the
longest idle time and no further. -/
theorem span?_eq (minutes : UInt64) :
    span? minutes =
      if minutes.toNat ≤ maxMinutes then some ⟨60 * minutes.toNat, 0, by decide⟩ else none := by
  by_cases hlong : minutes.toNat ≤ maxMinutes
  · have hsmall : minutes.toNat ≤ 153722867280912 := hlong
    have hproduct : product? minutes 60 = some (minutes * 60) :=
      if_pos (show minutes.toNat * 60 < 2 ^ 64 by omega)
    have hseconds : (minutes * 60).toNat = minutes.toNat * 60 := toNat_of_product? hproduct
    have hsigned : signed? (minutes * 60) = some (minutes * 60).toInt64 :=
      if_pos (show (minutes * 60).toNat < 2 ^ 63 by omega)
    have hsame : (minutes * 60).toInt64.toInt = 60 * minutes.toNat := by
      rw [toInt_of_signed? hsigned, hseconds]
      omega
    rw [if_pos hlong]
    simp only [span?, hproduct, hsigned, Option.bind_eq_bind, Option.bind_some, hsame]
    exact if_pos (inRange_ofSeconds_iff.2 hlong)
  · rw [if_neg hlong, span?]
    -- whichever step stops it, nothing comes out
    cases hproduct : product? minutes 60 with
    | none => rfl
    | some seconds =>
      rw [Option.bind_eq_bind, Option.bind_some]
      cases hsigned : signed? seconds with
      | none => rfl
      | some signed =>
        have hsame : signed.toInt = 60 * minutes.toNat := by
          have hsixty : (60 : UInt64).toNat = 60 := rfl
          rw [toInt_of_signed? hsigned, toNat_of_product? hproduct, hsixty]
          omega
        rw [Option.bind_eq_bind, Option.bind_some]
        simp only [hsame]
        exact if_neg (mt inRange_ofSeconds_iff.1 hlong)

/-- The policy for an idle time, made in words. -/
def ofWord (minutes : UInt64) (ignoreConnections : Bool) (port : UInt16) :
    Except CheckError Policy :=
  if minutes = 0 then .error (.configuration .noIdleTime)
  else
    match span? minutes with
    | some span => .ok ⟨span.toDuration, ignoreConnections, port⟩
    | none => .error (.configuration (.longIdleTime minutes.toNat))

/-- **A policy that is made in words is the policy for that number of minutes.** -/
theorem ofWord_eq (minutes : UInt64) (ignoreConnections : Bool) (port : UInt16) :
    ofWord minutes ignoreConnections port = ofMinutes minutes.toNat ignoreConnections port := by
  have hzero : minutes = 0 ↔ minutes.toNat = 0 := UInt64.toNat_inj.symm
  simp only [ofWord, ofMinutes, span?_eq, hzero, sixty_mul_le_maxSeconds_iff]
  by_cases hlong : minutes.toNat ≤ maxMinutes
  · simp only [if_pos hlong]
    rfl
  · simp only [if_neg hlong]

/-- An idle time is accepted just in that interval. -/
theorem exists_ofMinutes_iff {n : Nat} :
    (∃ p, ofMinutes n ignoreConnections port = .ok p) ↔ 1 ≤ n ∧ n ≤ maxMinutes := by
  simp only [ofMinutes_eq_ok_iff, sixty_mul_le_maxSeconds_iff, exists_and_left, exists_eq, and_true]

/-- A policy with a threshold of so many minutes to the nanosecond, and with all else as
it was told. -/
structure MadeOf (minutes : UInt64) (ignoreConnections : Bool) (port : UInt16) (p : Policy) :
    Prop where
  nanoseconds : p.threshold.nanoseconds = 60 * minutes.toNat * 1000000000
  seconds : p.thresholdSeconds = 60 * minutes.toNat
  ignoreConnections : p.ignoreConnections = ignoreConnections
  port : p.port = port

theorem madeOf_of_ofMinutes (h : ofMinutes minutes.toNat ignoreConnections port = .ok p) :
    MadeOf minutes ignoreConnections port p := by
  obtain ⟨-, rfl⟩ := ofMinutes_eq_ok_iff.1 h
  refine ⟨?_, Duration.wholeSeconds_ofSeconds _, rfl, rfl⟩
  simp [Duration.ofSeconds, Duration.ofParts, Duration.perSecond]

/-- **The threshold of an idle time is exact.** From one minute to the longest idle time
the policy has sixty times as many seconds and keeps all else it is told; for every other
number of minutes there is no policy, but an error of configuration. Made in words, step
by step, it is the same. So thresholds grow with the minutes, from a minute on. -/
theorem ofMinutes_exact (minutes : UInt64) (ignoreConnections : Bool) (port : UInt16) :
    ofWord minutes ignoreConnections port = ofMinutes minutes.toNat ignoreConnections port ∧
    ((∃ p, ofMinutes minutes.toNat ignoreConnections port = .ok p) ↔
      1 ≤ minutes.toNat ∧ minutes.toNat ≤ 153722867280912) ∧
    (∀ p, ofMinutes minutes.toNat ignoreConnections port = .ok p →
      MadeOf minutes ignoreConnections port p) ∧
    (∀ e, ofMinutes minutes.toNat ignoreConnections port = .error e →
      ∃ fault, e = .configuration fault) ∧
    ∀ (minutes' : UInt64) ignoreConnections' port' p p',
      ofMinutes minutes.toNat ignoreConnections port = .ok p →
      ofMinutes minutes'.toNat ignoreConnections' port' = .ok p' →
      Duration.ofSeconds 60 ≤ p.threshold ∧ (p.threshold < p'.threshold ↔ minutes < minutes') := by
  refine ⟨ofWord_eq _ _ _, exists_ofMinutes_iff, fun p hp => madeOf_of_ofMinutes hp,
    fun e he => configuration_of_ofMinutes he,
    fun minutes' _ _ p p' hp hp' => ⟨minute_le_threshold hp, ?_⟩⟩
  have hthreshold := (madeOf_of_ofMinutes hp).nanoseconds
  have hthreshold' := (madeOf_of_ofMinutes hp').nanoseconds
  change p.threshold.nanoseconds < p'.threshold.nanoseconds ↔ minutes.toNat < minutes'.toNat
  omega

-- cut off to a word, so many minutes would be 44 seconds
example : (307445734561825861 : UInt64) * 60 = 44 ∧
    ofMinutes 307445734561825861 false 8443 =
      .error (.configuration (.longIdleTime 307445734561825861)) :=
  ⟨by decide, rfl⟩

end Policy

end IdleStop
