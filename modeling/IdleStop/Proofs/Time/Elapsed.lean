import IdleStop.Proofs.Time.Instant
import IdleStop.Time.Civil
/-!
# Time elapsed, part by part

A clock measures from one instant to another in parts: the days from date to
date, the seconds from one time of day to the other, with the leap second that
these leave out, and the nanoseconds from fraction to fraction, which borrow a
second if they are negative. The parts are added with a carry, every sum has to
stay within 64 bits of milliseconds, and spans are compared by their seconds
first.

All this is the one number of nanoseconds that `Instant.since` is, and between
instants a clock can show no sum leaves its bounds (`Instant.exists_elapsed?`).
So the comparison with a threshold is exact, but for the leap second
(`Instant.isOlderThan_exact`).
-/

namespace IdleStop

/-- A span of time in parts: whole seconds, rounded down, and the nanoseconds
past them. -/
structure Span where
  seconds : Int
  nanos : Nat
  valid : nanos < 1000000000

namespace Span

variable {a b : Span}

def toDuration (s : Span) : Duration :=
  .ofParts s.seconds s.nanos

theorem nanoseconds_toDuration (s : Span) :
    s.toDuration.nanoseconds = s.seconds * 1000000000 + s.nanos :=
  rfl

/-- So many nanoseconds in parts. -/
def ofDuration (d : Duration) : Span :=
  ⟨d.nanoseconds / 1000000000, (d.nanoseconds % 1000000000).toNat, by omega⟩

theorem toDuration_ofDuration (d : Duration) : (ofDuration d).toDuration = d := by
  have hparts : (ofDuration d).toDuration.nanoseconds = d.nanoseconds := by
    rw [nanoseconds_toDuration]
    dsimp only [ofDuration]
    omega
  exact congrArg Duration.mk hparts

/-- Seconds first, then nanoseconds. -/
instance : LT Span :=
  ⟨fun a b => a.seconds < b.seconds ∨ (a.seconds = b.seconds ∧ a.nanos < b.nanos)⟩

/-- Part by part or as a whole, the order is the same. -/
theorem lt_iff : a < b ↔ a.toDuration < b.toDuration := by
  change (a.seconds < b.seconds ∨ (a.seconds = b.seconds ∧ a.nanos < b.nanos)) ↔
    a.toDuration.nanoseconds < b.toDuration.nanoseconds
  have ha := a.valid
  have hb := b.valid
  rw [nanoseconds_toDuration, nanoseconds_toDuration]
  omega

/-! ## Sums within their bounds -/

/-- The greatest number of milliseconds that 64 bits hold. -/
def maxMillis : Nat := 9223372036854775807

/-- No longer, forward or backward, than the milliseconds that 64 bits hold. -/
def InRange (s : Span) : Prop :=
  -(maxMillis * 1000000 : Int) ≤ s.toDuration.nanoseconds ∧
    s.toDuration.nanoseconds ≤ maxMillis * 1000000

instance (s : Span) : Decidable s.InRange :=
  inferInstanceAs (Decidable (_ ∧ _))

/-- A span, unless it is out of range. -/
def checked? (s : Span) : Option Span :=
  if s.InRange then some s else none

/-- So many days. -/
def ofDays (days : Int) : Span :=
  ⟨days * 86400, 0, by decide⟩

/-- The sum of two spans; a billion nanoseconds carry a second. -/
def plus (a b : Span) : Span :=
  if h : a.nanos + b.nanos < 1000000000 then ⟨a.seconds + b.seconds, a.nanos + b.nanos, h⟩
  else
    ⟨a.seconds + b.seconds + 1, a.nanos + b.nanos - 1000000000, by
      have ha := a.valid
      have hb := b.valid
      omega⟩

theorem nanoseconds_plus (a b : Span) :
    (a.plus b).toDuration.nanoseconds =
      a.toDuration.nanoseconds + b.toDuration.nanoseconds := by
  have ha := a.valid
  rw [nanoseconds_toDuration, nanoseconds_toDuration, nanoseconds_toDuration, plus]
  split
  · dsimp only
    omega
  · dsimp only
    omega

end Span

namespace Instant

variable {later earlier last now : Instant} {threshold : Duration}

/-- From one time of day to the other, with the leap second they leave out. The
nanoseconds borrow a second if they are negative, and carry one from a leap
second. -/
def betweenClocks (later earlier : Instant) : Span :=
  let nanos : Int := later.nanos - earlier.nanos
  ⟨later.secondOfDay - earlier.secondOfDay + leapBetween later earlier + nanos / 1000000000,
    (nanos % 1000000000).toNat, by omega⟩

/-- The span from one instant to another, from date to date and from one time of
day to the other, unless a part or the whole is out of range. -/
def elapsed? (later earlier : Instant) : Option Span := do
  let days ← (Span.ofDays (later.civil.date.toDays - earlier.civil.date.toDays)).checked?
  let clocks ← (betweenClocks later earlier).checked?
  (days.plus clocks).checked?

theorem nanoseconds_betweenClocks (later earlier : Instant) :
    (betweenClocks later earlier).toDuration.nanoseconds =
      (later.secondOfDay - earlier.secondOfDay + leapBetween later earlier) * 1000000000 +
        (later.nanos - earlier.nanos) := by
  rw [Span.nanoseconds_toDuration]
  dsimp only [betweenClocks]
  omega

theorem toDays_civil (i : Instant) : i.civil.date.toDays = i.seconds / 86400 :=
  Date.toDays_ofDays _

/-- Days, seconds and nanoseconds add up to the time between. -/
theorem nanoseconds_days_plus_clocks (later earlier : Instant) :
    ((Span.ofDays (later.civil.date.toDays - earlier.civil.date.toDays)).plus
      (betweenClocks later earlier)).toDuration.nanoseconds = (later.since earlier).nanoseconds := by
  rw [Span.nanoseconds_plus, nanoseconds_betweenClocks, Span.nanoseconds_toDuration, Span.ofDays,
    toDays_civil, toDays_civil]
  simp only [since, nanoseconds, secondOfDay, Duration.perSecond]
  omega

/-- **Between instants a clock can show, nothing is out of range**, and the span
is the time between them. -/
theorem exists_elapsed? (hlater : later.InRange) (hearlier : earlier.InRange) :
    ∃ s, later.elapsed? earlier = some s ∧ s.InRange ∧ s.toDuration = later.since earlier := by
  have hleap := leapBetween_bounds later earlier
  have hnanos := later.valid
  have hnanos' := earlier.valid
  simp only [InRange, minSeconds, maxSeconds] at hlater hearlier
  have hdays : (Span.ofDays (later.civil.date.toDays - earlier.civil.date.toDays)).InRange := by
    simp only [Span.InRange, Span.maxMillis, Span.nanoseconds_toDuration, Span.ofDays, toDays_civil]
    omega
  have hclocks : (betweenClocks later earlier).InRange := by
    simp only [Span.InRange, Span.maxMillis, nanoseconds_betweenClocks, secondOfDay]
    omega
  have hsum := nanoseconds_days_plus_clocks later earlier
  have hwhole : ((Span.ofDays (later.civil.date.toDays - earlier.civil.date.toDays)).plus
      (betweenClocks later earlier)).InRange := by
    simp only [Span.InRange, Span.maxMillis, hsum, since, nanoseconds, Duration.perSecond]
    omega
  refine ⟨_, ?_, hwhole, congrArg Duration.mk hsum⟩
  simp only [elapsed?, Span.checked?, if_pos hdays, if_pos hclocks, Option.bind_eq_bind,
    Option.bind_some, if_pos hwhole]

/-- **The comparison with a threshold is exact and strict.** The clock's own
arithmetic stays in range, and its comparison of parts is that of the
nanoseconds between the instants: equal to the threshold is not older, and one
nanosecond more is. A leap second on either side shifts the limit by a second at
most. -/
theorem isOlderThan_exact (hlast : last.InRange) (hnow : now.InRange) :
    (∃ elapsed, now.elapsed? last = some elapsed ∧ elapsed.InRange ∧
      (last.isOlderThan threshold now = true ↔ Span.ofDuration threshold < elapsed)) ∧
    (last.isLeap = false → now.isLeap = false →
      (last.isOlderThan threshold now = true ↔
        threshold.nanoseconds < now.nanoseconds - last.nanoseconds)) ∧
    (last.isLeap = true ∨ now.isLeap = true →
      (threshold.nanoseconds + 1000000000 < now.nanoseconds - last.nanoseconds →
        last.isOlderThan threshold now = true) ∧
      (now.nanoseconds - last.nanoseconds ≤ threshold.nanoseconds - 1000000000 →
        last.isOlderThan threshold now = false)) := by
  have holder : last.isOlderThan threshold now = true ↔
      threshold.nanoseconds < (now.since last).nanoseconds := decide_eq_true_iff
  have hsince : (now.since last).nanoseconds =
      now.nanoseconds - last.nanoseconds + leapBetween now last * 1000000000 := rfl
  have hleap := leapBetween_bounds now last
  refine ⟨?_, ?_, ?_⟩
  · obtain ⟨elapsed, helapsed, hrange, hduration⟩ := exists_elapsed? hnow hlast
    refine ⟨elapsed, helapsed, hrange, ?_⟩
    rw [Span.lt_iff, Span.toDuration_ofDuration, hduration]
    exact holder
  · intro hlast hnow
    rw [holder, since_of_not_isLeap hnow hlast]
  · intro _
    rw [← Bool.not_eq_true, holder, hsince]
    constructor
    · intro hlong
      omega
    · intro hshort
      omega

/-- The longest time that a clock can show, to the nanosecond; and a minute from
within a leap second, of which midnight takes a quarter of a second back. -/
theorem isOlderThan_exact_longest :
    let first : Instant := ⟨minSeconds, 0, by decide⟩
    let final : Instant := ⟨maxSeconds, 999999999, by decide⟩
    let leap : Instant := ⟨1704067139, 1500000000, by decide⟩
    let midnight : Instant := ⟨1704067200, 250000000, by decide⟩
    (first.InRange ∧ final.InRange ∧ first.isLeap = false ∧ final.isLeap = false ∧
      first.isOlderThan ⟨16544868105599999999998⟩ final = true ∧
      ¬ first.isOlderThan ⟨16544868105599999999999⟩ final = true) ∧
    (leap.InRange ∧ midnight.InRange ∧ leap.isLeap = true ∧
      leap.isOlderThan ⟨58749999999⟩ midnight = true ∧
      leap.isOlderThan ⟨60750000000⟩ midnight = false) := by
  intro first final leap midnight
  have hfirst : first.InRange := by decide
  have hfinal : final.InRange := by decide
  have hleap : leap.InRange := by decide
  have hmidnight : midnight.InRange := by decide
  refine ⟨⟨hfirst, hfinal, rfl, rfl, ?_, ?_⟩, hleap, hmidnight, rfl, ?_, ?_⟩
  · exact ((isOlderThan_exact hfirst hfinal).2.1 rfl rfl).2 (by decide)
  · exact fun h => absurd (((isOlderThan_exact hfirst hfinal).2.1 rfl rfl).1 h) (by decide)
  · exact ((isOlderThan_exact hleap hmidnight).2.2 (Or.inl rfl)).1 (by decide)
  · exact ((isOlderThan_exact hleap hmidnight).2.2 (Or.inl rfl)).2 (by decide)

end Instant

end IdleStop
