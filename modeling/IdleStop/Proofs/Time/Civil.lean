import IdleStop.Time.Civil
import Mathlib.Algebra.BigOperators.Intervals
/-!
# Days counted, civil times from their parts

The calendar numbers days by a closed formula. `toDays_eq_countedDays` says
that from year 0 on this is the count one would make by hand: the days of the
years before, month by month, the days of the months before, and the days of
the month itself. A civil time is what its parts say, and there is one for
parts in their bounds (`ofParts?_eq_some_iff`, `exists_ofParts?_iff`).
Instants and civil times drop the fraction of their microsecond alike
(`toInstant_wholeMicros`).
-/

namespace IdleStop

theorem daysInMonth_le (year : Int) (month : Nat) : daysInMonth year month ≤ 31 := by
  unfold daysInMonth
  repeat' split
  all_goals omega

/-- The days of a year, month by month. -/
def daysInYear (year : Int) : Nat :=
  ∑ month ∈ Finset.Ico 1 13, daysInMonth year month

namespace Date

/-- The days from 1970-01-01 to a date of year 0 or later, counted: those of
the years before it, of the months before it and of its month up to it, less
the days of the years before 1970. -/
def countedDays (year month day : Nat) : Int :=
  (∑ y ∈ Finset.range year, daysInYear y + ∑ m ∈ Finset.Ico 1 month, daysInMonth year m : Nat) +
    (day - 1) - (∑ y ∈ Finset.range 1970, daysInYear y : Nat)

theorem daysBeforeMonth_eq_sum (year : Int) {month : Nat} (h : 1 ≤ month) :
    daysBeforeMonth year month = ∑ m ∈ Finset.Ico 1 month, daysInMonth year m := by
  induction month, h using Nat.le_induction with
  | base => rfl
  | succ month h ih => rw [daysBeforeMonth_succ year h, Finset.sum_Ico_succ_top h, ih]

theorem daysBeforeYear_eq_sum (n : Nat) :
    daysBeforeYear n = (∑ y ∈ Finset.range n, daysInYear y : Nat) := by
  induction n with
  | zero => rfl
  | succ n ih =>
    have h13 := daysBeforeMonth_thirteen n
    rw [daysBeforeMonth_eq_sum _ (by omega), ← daysInYear] at h13
    have hsucc : ((n + 1 : Nat) : Int) = n + 1 := rfl
    rw [Finset.sum_range_succ, hsucc]
    omega

/-- **The number of a date is its count of days.** -/
theorem toDays_eq_countedDays (d : Date) {year : Nat} (h : d.year = year) :
    d.toDays = countedDays year d.month d.day := by
  have hyear := daysBeforeYear_eq_sum year
  have hepoch : daysBeforeYear 1970 = _ := daysBeforeYear_eq_sum 1970
  have hmonth := daysBeforeMonth_eq_sum year d.valid.1.1
  rw [toDays, countedDays, h, hmonth]
  omega

end Date

namespace CivilTime

variable {year : Int} {month day hour minute second nanos : Nat}

/-- A civil time has the parts it was made of. -/
theorem ofParts?_eq_some_iff {t : CivilTime} :
    ofParts? year month day hour minute second nanos = some t ↔
      (t.date.year = year ∧ t.date.month = month ∧ t.date.day = day) ∧
        t.hour = hour ∧ t.minute = minute ∧ t.second = second ∧ t.nanos = nanos := by
  constructor
  · intro h
    rw [ofParts?, Date.ofParts?] at h
    split at h
    · cases h
    · next date hdate =>
      split at hdate
      · obtain rfl := Option.some.inj hdate
        split at h
        · obtain rfl := Option.some.inj h
          exact ⟨⟨rfl, rfl, rfl⟩, rfl, rfl, rfl, rfl⟩
        · cases h
      · cases hdate
  · rintro ⟨⟨rfl, rfl, rfl⟩, rfl, rfl, rfl, rfl⟩
    rw [ofParts?, Date.ofParts?, dif_pos t.date.valid]
    exact dif_pos t.valid

/-- There is a civil time with parts that the calendar and the clock have. -/
theorem exists_ofParts?_iff :
    (∃ t, ofParts? year month day hour minute second nanos = some t) ↔
      ((1 ≤ month ∧ month ≤ 12) ∧ 1 ≤ day ∧ day ≤ daysInMonth year month) ∧
        hour < 24 ∧ minute < 60 ∧ second ≤ 60 ∧ nanos < 1000000000 := by
  constructor
  · rintro ⟨t, ht⟩
    obtain ⟨⟨rfl, rfl, rfl⟩, rfl, rfl, rfl, rfl⟩ := ofParts?_eq_some_iff.1 ht
    exact ⟨t.date.valid, t.valid⟩
  · rintro ⟨hdate, hclock⟩
    exact ⟨⟨⟨year, month, day, hdate⟩, hour, minute, second, nanos, hclock⟩,
      ofParts?_eq_some_iff.2 ⟨⟨rfl, rfl, rfl⟩, rfl, rfl, rfl, rfl⟩⟩

end CivilTime

/-! ## Years of four digits -/

/-- The first second of year 0. -/
def Instant.firstOfYearZero : Int := -62167219200

/-- The last second of year 9999. -/
def Instant.lastOfYear9999 : Int := 253402300799

/-- Between these seconds four digits hold the year. -/
theorem Instant.year_bounds {i : Instant} (hfirst : firstOfYearZero ≤ i.seconds)
    (hlast : i.seconds ≤ lastOfYear9999) :
    0 ≤ i.civil.date.year ∧ i.civil.date.year ≤ 9999 := by
  have hyear : i.civil.date.year = Date.yearOfDays (i.seconds / 86400 + 719528) := rfl
  obtain ⟨hlow, hhigh⟩ := Date.yearOfDays_bounds (i.seconds / 86400 + 719528)
  simp only [firstOfYearZero, lastOfYear9999] at hfirst hlast
  rw [hyear]
  generalize Date.yearOfDays (i.seconds / 86400 + 719528) = year at hlow hhigh
  have hzero : Date.daysBeforeYear 0 = 0 := rfl
  have hmyriad : Date.daysBeforeYear 10000 = 3652425 := rfl
  constructor
  · by_contra hnegative
    have := Date.daysBeforeYear_mono (show year + 1 ≤ 0 by omega)
    omega
  · by_contra hlarge
    have := Date.daysBeforeYear_mono (show 10000 ≤ year by omega)
    omega

/-! ## Whole microseconds -/

@[ext]
theorem Instant.ext {a b : Instant} (hseconds : a.seconds = b.seconds) (hnanos : a.nanos = b.nanos) :
    a = b := by
  cases a
  cases b
  cases hseconds
  cases hnanos
  rfl

/-- The start of a second. -/
def Instant.ofSeconds (seconds : Int) : Instant :=
  ⟨seconds, 0, Or.inl (by decide)⟩

/-- An instant without the fraction of its microsecond. -/
def Instant.wholeMicros (i : Instant) : Instant :=
  ⟨i.seconds, i.nanos / 1000 * 1000, by
    have := i.valid
    omega⟩

/-- A whole second has nothing to lose. -/
theorem Instant.wholeMicros_of_nanos (i : Instant) (h : i.nanos = 0) : i.wholeMicros = i := by
  have hnanos : i.wholeMicros.nanos = i.nanos := by
    dsimp only [wholeMicros]
    omega
  exact ext rfl hnanos

/-- A leap second is still one. -/
theorem Instant.isLeap_wholeMicros (i : Instant) : i.wholeMicros.isLeap = i.isLeap := by
  change decide (1000000000 ≤ i.nanos / 1000 * 1000) = decide (1000000000 ≤ i.nanos)
  rw [decide_eq_decide]
  omega

/-- A civil time without the fraction of its microsecond. -/
def CivilTime.wholeMicros (t : CivilTime) : CivilTime :=
  { t with
    nanos := t.nanos / 1000 * 1000
    valid := by
      have := t.valid
      omega }

theorem CivilTime.toInstant_wholeMicros (t : CivilTime) :
    t.wholeMicros.toInstant = t.toInstant.wholeMicros := by
  apply Instant.ext
  · rfl
  · simp only [toInstant, wholeMicros, Instant.wholeMicros]
    omega

end IdleStop
