import IdleStop.Policy
import IdleStop.Proofs.Time.Instant
import IdleStop.Time.ActivityStamp
/-!
# How stamps age

What is older than the threshold should stay so. The time since an ordinary
stamp grows with the clock. The time since a leap second is a second longer at
later times of day than at earlier ones, so midnight takes a second back: a wait
that began in a leap second and ends at midnight is over just before midnight
and not yet over just after it (`Instant.Relapses`).

This is the only way in which what was older is not older later
(`Instant.isOlderThan_later_iff`). A leap second that ends its day, as those
that are kept do, has all of the next day after it and is not concerned.
-/

namespace IdleStop

namespace Instant

variable {last now now' : Instant} {minutes : Nat}

/-- Seen from outside leap seconds, the time since a leap second is a second
longer at later times of day. -/
theorem since_nanoseconds (hnow : now.isLeap = false) :
    (now.since last).nanoseconds = now.nanoseconds - last.nanoseconds +
      if last.secondOfDay < now.secondOfDay ∧ last.isLeap = true then 1000000000 else 0 := by
  have hback : ¬ (now.secondOfDay < last.secondOfDay ∧ now.isLeap = true) := by simp [hnow]
  simp only [since, leapBetween, if_neg hback]
  split <;> rfl

theorem isOlderThan_minutes_iff (hnow : now.isLeap = false) :
    last.isOlderThan (.ofSeconds (60 * minutes)) now = true ↔
      60 * minutes * 1000000000 < now.nanoseconds - last.nanoseconds +
        if last.secondOfDay < now.secondOfDay ∧ last.isLeap = true then 1000000000 else 0 := by
  rw [← since_nanoseconds hnow, isOlderThan, decide_eq_true_iff]
  change (60 * minutes : Int) * Duration.perSecond + 0 < _ ↔ _
  rw [Duration.perSecond, Int.add_zero]
  rfl

/-- A wait of whole minutes that began in a leap second ends at midnight, with
`now` in the second before and `now'` in the second after, no further past
midnight than the wait began past the start of the leap second. -/
structure Relapses (last : Instant) (minutes : Nat) (now now' : Instant) : Prop where
  leap : last.isLeap = true
  ends : now'.seconds = last.seconds + 1 + 60 * minutes
  midnight : now'.secondOfDay = 0
  before : now.seconds + 1 = now'.seconds
  early : now'.nanos + 1000000000 ≤ last.nanos

/-- **What is older than whole minutes is so later, unless it relapses.** -/
theorem isOlderThan_later_iff (hnow : now.isLeap = false) (hnow' : now'.isLeap = false)
    (hle : now ≤ now') (hold : last.isOlderThan (.ofSeconds (60 * minutes)) now = true) :
    last.isOlderThan (.ofSeconds (60 * minutes)) now' = true ↔ ¬ Relapses last minutes now now' := by
  have hvalid := last.valid
  have hleap : last.isLeap = true ↔ 1000000000 ≤ last.nanos := decide_eq_true_iff
  have hnanos : now.nanos < 1000000000 := by simpa [isLeap] using hnow
  have hnanos' : now'.nanos < 1000000000 := by simpa [isLeap] using hnow'
  have horder : now.seconds < now'.seconds ∨
      now.seconds = now'.seconds ∧ now.nanos ≤ now'.nanos := hle
  rw [isOlderThan_minutes_iff hnow] at hold
  rw [isOlderThan_minutes_iff hnow']
  simp only [nanoseconds, secondOfDay, Duration.perSecond, hleap] at hold ⊢
  constructor
  · rintro hold' ⟨-, hends, hmidnight, hbefore, hearly⟩
    simp only [secondOfDay] at hmidnight
    omega
  · intro hnot
    refine Decidable.of_not_not fun hyoung => hnot ?_
    -- the time has shrunk, so the second counted at `now` is not counted at `now'`
    have hlast : 1000000000 ≤ last.nanos := by omega
    have hbefore : now.seconds + 1 = now'.seconds := by omega
    have hmidnight : now'.seconds % 86400 = 0 := by omega
    -- both the leap second and the wait end on a full minute, and so does the day
    have hends : now'.seconds = last.seconds + 1 + 60 * minutes := by omega
    exact ⟨hleap.2 hlast, hends, hmidnight, hbefore, by omega⟩

/-- Outside leap seconds, and in those that end a day, there is no relapse. -/
theorem not_relapses (hnow : now.isLeap = false)
    (hold : last.isOlderThan (.ofSeconds (60 * minutes)) now = true)
    (hlast : last.isLeap = false ∨ last.secondOfDay = 86399) : ¬ Relapses last minutes now now' := by
  rintro ⟨hleap, hends, hmidnight, hbefore, hearly⟩
  rcases hlast with hlast | hlast
  · simp [hlast] at hleap
  · have hnanos : now.nanos < 1000000000 := by simpa [isLeap] using hnow
    rw [isOlderThan_minutes_iff hnow] at hold
    simp only [nanoseconds, secondOfDay, Duration.perSecond] at hold hmidnight hlast
    omega

end Instant

namespace ActivityStamp

variable {s : String} {last : Instant} {threshold : Duration} {now : Instant}

theorem isOlderThan_of_parse (hs : parse s = .ok last) :
    isOlderThan s threshold now = .ok (last.isOlderThan threshold now) := by
  rw [isOlderThan, hs]
  rfl

/-- **A stamp that is older than the threshold is so at any later time, but for
one midnight.** The exception is a stamp of a leap second before the last one of
its day whose threshold is reached at midnight, and then only the second before
midnight and the second after. -/
theorem older_later_iff_not_relapses {minutes : Nat} {ignoreConnections : Bool} {port : UInt16}
    {p : Policy} (hpolicy : Policy.ofMinutes minutes ignoreConnections port = .ok p)
    (hs : parse s = .ok last) {now now' : Instant} (hnow : now.isLeap = false)
    (hnow' : now'.isLeap = false) (hle : now ≤ now')
    (hold : isOlderThan s p.threshold now = .ok true) :
    (isOlderThan s p.threshold now' = .ok true ↔ ¬ last.Relapses minutes now now') ∧
    (isOlderThan s p.threshold now' = .ok false ↔ last.Relapses minutes now now') ∧
    (last.isLeap = false ∨ last.secondOfDay = 86399 →
      isOlderThan s p.threshold now' = .ok true) := by
  obtain ⟨-, rfl⟩ := Policy.ofMinutes_eq_ok_iff.1 hpolicy
  simp only [isOlderThan_of_parse hs, Except.ok.injEq] at hold ⊢
  have hiff := Instant.isOlderThan_later_iff hnow hnow' hle hold
  refine ⟨hiff, ?_, fun hlast => hiff.2 (Instant.not_relapses hnow hold hlast)⟩
  rw [← Bool.not_eq_true, hiff, Classical.not_not]

/-- A leap second a minute before midnight: half a second is counted on, and
three quarters of a second past midnight the minute is over, as it was a quarter
of a second before midnight. -/
theorem older_later_iff_not_relapses_midnight :
    let p : Policy := ⟨.ofSeconds 60, false, 8443⟩
    let last : Instant := ⟨1704067139, 1500000000, by decide⟩
    let now : Instant := ⟨1704067199, 750000000, by decide⟩
    let now' : Instant := ⟨1704067200, 750000000, by decide⟩
    Policy.ofMinutes 1 false 8443 = .ok p ∧ parse "2023-12-31T23:58:60.500000z" = .ok last ∧
      now.isLeap = false ∧ now'.isLeap = false ∧ now ≤ now' ∧
      isOlderThan "2023-12-31T23:58:60.500000z" p.threshold now = .ok true ∧
      ¬ last.Relapses 1 now now' ∧
      isOlderThan "2023-12-31T23:58:60.500000z" p.threshold now' = .ok true := by
  intro p last now now'
  have hpolicy : Policy.ofMinutes 1 false 8443 = .ok p := rfl
  have hs : parse "2023-12-31T23:58:60.500000z" = .ok last := rfl
  have hold : isOlderThan "2023-12-31T23:58:60.500000z" p.threshold now = .ok true := by
    rw [isOlderThan_of_parse hs, Except.ok.injEq]
    decide
  have hle : now ≤ now' := by decide
  have hnot : ¬ last.Relapses 1 now now' := fun h => absurd h.early (by decide)
  have hnow : now.isLeap = false := rfl
  have hnow' : now'.isLeap = false := rfl
  obtain ⟨hiff, -, -⟩ := older_later_iff_not_relapses hpolicy hs hnow hnow' hle hold
  exact ⟨hpolicy, hs, hnow, hnow', hle, hold, hnot, hiff.2 hnot⟩

/-- A quarter of a second past that midnight the minute is not over any more. -/
theorem older_not_later_across_midnight :
    let p : Policy := ⟨.ofSeconds 60, false, 8443⟩
    let now : Instant := ⟨1704067199, 750000000, by decide⟩
    let now' : Instant := ⟨1704067200, 250000000, by decide⟩
    Policy.ofMinutes 1 false 8443 = .ok p ∧ now.isLeap = false ∧ now'.isLeap = false ∧
      now ≤ now' ∧ isOlderThan "2023-12-31T23:58:60.500000z" p.threshold now = .ok true ∧
      isOlderThan "2023-12-31T23:58:60.500000z" p.threshold now' = .ok false := by
  have hs : parse "2023-12-31T23:58:60.500000z" = .ok ⟨1704067139, 1500000000, by decide⟩ := rfl
  simp only [isOlderThan_of_parse hs, Except.ok.injEq]
  exact ⟨rfl, rfl, rfl, by decide, by decide, by decide⟩

end ActivityStamp

end IdleStop
