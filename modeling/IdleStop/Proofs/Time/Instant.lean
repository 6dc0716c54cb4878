import IdleStop.Time.Instant
/-!
# Elapsed time and the order of instants

The time from one instant to another is not the distance of their places in
the order: a leap second on either side is counted by the time of day alone.
The time to an instant from a later one can therefore be positive, across
midnight, but it never comes to a second (`since_lt_of_lt`).
-/

namespace IdleStop

namespace Instant

/-- The leap second between two instants counts forward only from within it. -/
theorem leapBetween_mul_le (later earlier : Instant) :
    leapBetween later earlier * Duration.perSecond ≤ earlier.nanos := by
  unfold leapBetween
  split
  · next h =>
    have hleap : 1000000000 ≤ earlier.nanos := by simpa [isLeap] using h.2
    simp only [Duration.perSecond]
    omega
  · split <;> simp only [Duration.perSecond] <;> omega

/-- At most one leap second is left out. -/
theorem leapBetween_bounds (later earlier : Instant) :
    -1 ≤ leapBetween later earlier ∧ leapBetween later earlier ≤ 1 := by
  unfold leapBetween
  split
  · omega
  · split <;> omega

/-- Within one second no leap second lies between. -/
theorem leapBetween_of_seconds_eq {later earlier : Instant} (h : later.seconds = earlier.seconds) :
    leapBetween later earlier = 0 := by
  have hday : later.secondOfDay = earlier.secondOfDay := by rw [secondOfDay, h, secondOfDay]
  rw [leapBetween, hday, if_neg (by omega), if_neg (by omega)]

/-- **The time from a later instant is less than a second.** -/
theorem since_lt_of_lt {now last : Instant} (h : now < last) :
    now.since last < Duration.ofSeconds 1 := by
  have hleap := leapBetween_mul_le now last
  have hvalid := now.valid
  change now.nanoseconds - last.nanoseconds + leapBetween now last * Duration.perSecond <
    1 * Duration.perSecond + 0
  simp only [nanoseconds, Duration.perSecond] at hleap ⊢
  rcases h with hseconds | ⟨hseconds, hnanos⟩
  · omega
  · rw [leapBetween_of_seconds_eq hseconds]
    omega

/-- A leap second and the midnight after it: half a second counts as passed
since an instant half a second ahead. -/
example :
    let now : Instant := ⟨86399, 1500000000, by decide⟩
    let last : Instant := ⟨86400, 0, by decide⟩
    now < last ∧ now.since last = ⟨500000000⟩ := by
  decide

end Instant

end IdleStop
