/-!
# The calendar

Dates of the proleptic Gregorian calendar, with a year before year 1 for
every whole number, and their numbering by days since 1970-01-01. The
first day of a year is a closed formula (`daysBeforeYear`), and a day's
year is found beside the one the mean length of a year suggests, so
`ofDays` and `toDays` are inverse to each other (`ofDays_toDays`,
`toDays_ofDays`).
-/

namespace IdleStop

/-- Whether a year has a February 29. -/
def isLeapYear (year : Int) : Bool :=
  year % 4 = 0 ∧ (year % 100 ≠ 0 ∨ year % 400 = 0)

/-- The number of days of a month. -/
def daysInMonth (year : Int) : Nat → Nat
  | 2 => if isLeapYear year then 29 else 28
  | 4 | 6 | 9 | 11 => 30
  | _ => 31

/-- A day of the calendar. -/
structure Date where
  year : Int
  month : Nat
  day : Nat
  valid : (1 ≤ month ∧ month ≤ 12) ∧ 1 ≤ day ∧ day ≤ daysInMonth year month
  deriving DecidableEq

namespace Date

/-- The date with these parts, if the calendar has it. -/
def ofParts? (year : Int) (month day : Nat) : Option Date :=
  if h : (1 ≤ month ∧ month ≤ 12) ∧ 1 ≤ day ∧ day ≤ daysInMonth year month then
    some ⟨year, month, day, h⟩
  else none

/-- The days from the first day of year 0 to the first day of a year: 365
for each year between, and one for each leap year among them. -/
def daysBeforeYear (year : Int) : Int :=
  365 * year + (year + 3) / 4 - (year + 99) / 100 + (year + 399) / 400

/-- The days of a year before the first day of a month. -/
def daysBeforeMonth (year : Int) : Nat → Nat
  | 0 | 1 => 0
  | month + 1 => daysBeforeMonth year month + daysInMonth year month

/-- The days from 1970-01-01 to a date. -/
def toDays (d : Date) : Int :=
  daysBeforeYear d.year + daysBeforeMonth d.year d.month + (d.day - 1) - daysBeforeYear 1970

/-- The year of the day `n` days after the first day of year 0. The guess
divides by the mean length of a year and is off by at most one. -/
def yearOfDays (n : Int) : Int :=
  let guess := 400 * n / 146097
  if n < daysBeforeYear guess then guess - 1
  else if n < daysBeforeYear (guess + 1) then guess
  else guess + 1

/-- The last month, among those up to `month`, that starts on day `n` of
its year or before. -/
def monthOfDays (year : Int) (n : Nat) : Nat → Nat
  | 0 | 1 => 1
  | month + 1 =>
    if daysBeforeMonth year (month + 1) ≤ n then month + 1 else monthOfDays year n month

theorem daysBeforeYear_succ (year : Int) :
    daysBeforeYear (year + 1) = daysBeforeYear year + if isLeapYear year then 366 else 365 := by
  simp only [daysBeforeYear, isLeapYear, ne_eq, decide_eq_true_eq]
  split <;> omega

/-- A day lies in the year `yearOfDays` names. -/
theorem yearOfDays_bounds (n : Int) :
    daysBeforeYear (yearOfDays n) ≤ n ∧ n < daysBeforeYear (yearOfDays n + 1) := by
  simp only [yearOfDays]
  split
  · next h =>
    constructor <;> simp only [daysBeforeYear, Int.sub_add_cancel] at * <;> omega
  · split
    · next h₁ h₂ => exact ⟨by omega, h₂⟩
    · next h₁ h₂ => constructor <;> simp only [daysBeforeYear] at * <;> omega

theorem daysBeforeYear_mono {a b : Int} (h : a ≤ b) : daysBeforeYear a ≤ daysBeforeYear b := by
  simp only [daysBeforeYear]
  omega

theorem yearOfDays_eq {n year : Int} (h₁ : daysBeforeYear year ≤ n)
    (h₂ : n < daysBeforeYear (year + 1)) : yearOfDays n = year := by
  have hb := yearOfDays_bounds n
  rcases Int.lt_trichotomy (yearOfDays n) year with h | h | h
  · have := daysBeforeYear_mono (show yearOfDays n + 1 ≤ year by omega)
    omega
  · exact h
  · have := daysBeforeYear_mono (show year + 1 ≤ yearOfDays n by omega)
    omega

/-- Twelve months make the year. -/
theorem daysBeforeMonth_thirteen (year : Int) :
    (daysBeforeMonth year 13 : Int) = daysBeforeYear (year + 1) - daysBeforeYear year := by
  rw [daysBeforeYear_succ]
  simp only [daysBeforeMonth, daysInMonth]
  split <;> omega

theorem daysBeforeMonth_mono (year : Int) {a b : Nat} (h : a ≤ b) :
    daysBeforeMonth year a ≤ daysBeforeMonth year b := by
  induction b with
  | zero => simp_all
  | succ b ih =>
    rcases Nat.lt_or_ge a (b + 1) with hlt | hge
    · cases b with
      | zero =>
        have : a = 0 := by omega
        simp [this, daysBeforeMonth]
      | succ b => exact Nat.le_trans (ih (by omega)) (by simp [daysBeforeMonth])
    · obtain rfl : a = b + 1 := by omega
      exact Nat.le_refl _

theorem daysBeforeMonth_succ (year : Int) {month : Nat} (h : 1 ≤ month) :
    daysBeforeMonth year (month + 1) = daysBeforeMonth year month + daysInMonth year month := by
  cases month with
  | zero => omega
  | succ m => simp [daysBeforeMonth]

/-- The search for a month ends at the month whose days hold day `n`. -/
theorem monthOfDays_bounds (year : Int) (n month : Nat) (hpos : 1 ≤ month)
    (h : n < daysBeforeMonth year (month + 1)) :
    (1 ≤ monthOfDays year n month ∧ monthOfDays year n month ≤ month) ∧
      daysBeforeMonth year (monthOfDays year n month) ≤ n ∧
        n < daysBeforeMonth year (monthOfDays year n month + 1) := by
  induction month with
  | zero => omega
  | succ m ih =>
    cases m with
    | zero => simpa [monthOfDays, daysBeforeMonth] using h
    | succ m =>
      simp only [monthOfDays]
      split
      · next hle => exact ⟨by omega, hle, h⟩
      · next hlt =>
        have := ih (by omega) (by omega)
        omega

theorem monthOfDays_eq (year : Int) {n month : Nat} (h : 1 ≤ month ∧ month ≤ 12)
    (hlo : daysBeforeMonth year month ≤ n) (hhi : n < daysBeforeMonth year (month + 1)) :
    monthOfDays year n 12 = month := by
  have h13 : n < daysBeforeMonth year 13 :=
    Nat.lt_of_lt_of_le hhi (daysBeforeMonth_mono year (by omega))
  have hb := monthOfDays_bounds year n 12 (by omega) (by simpa using h13)
  rcases Nat.lt_trichotomy (monthOfDays year n 12) month with h' | h' | h'
  · have := daysBeforeMonth_mono year (show monthOfDays year n 12 + 1 ≤ month by omega)
    omega
  · exact h'
  · have := daysBeforeMonth_mono year (show month + 1 ≤ monthOfDays year n 12 by omega)
    omega

/-- A day of a year has a month in it. -/
theorem monthOfDays_twelve_bounds (year : Int) {n : Nat} (h : n < daysBeforeMonth year 13) :
    (1 ≤ monthOfDays year n 12 ∧ monthOfDays year n 12 ≤ 12) ∧
      daysBeforeMonth year (monthOfDays year n 12) ≤ n ∧
        n < daysBeforeMonth year (monthOfDays year n 12 + 1) :=
  monthOfDays_bounds year n 12 (by omega) h

/-- The date so many days after 1970-01-01. -/
def ofDays (days : Int) : Date :=
  let n := days + daysBeforeYear 1970
  let year := yearOfDays n
  let dayOfYear := (n - daysBeforeYear year).toNat
  let month := monthOfDays year dayOfYear 12
  ⟨year, month, dayOfYear - daysBeforeMonth year month + 1, by
    have hy := yearOfDays_bounds n
    have h13 := daysBeforeMonth_thirteen year
    have hm := monthOfDays_twelve_bounds year (n := dayOfYear)
      (by simp only [year, dayOfYear] at *; omega)
    have hs := daysBeforeMonth_succ year hm.1.1
    simp only [month] at *
    omega⟩

theorem toDays_ofDays (days : Int) : (ofDays days).toDays = days := by
  simp only [ofDays, toDays]
  generalize hn : days + daysBeforeYear 1970 = n
  have hy := yearOfDays_bounds n
  have h13 := daysBeforeMonth_thirteen (yearOfDays n)
  have hm := monthOfDays_twelve_bounds (yearOfDays n)
    (n := (n - daysBeforeYear (yearOfDays n)).toNat) (by omega)
  omega

theorem ofDays_toDays (d : Date) : ofDays d.toDays = d := by
  obtain ⟨year, month, day, hmonth, hday⟩ := d
  have hsucc := daysBeforeMonth_succ year hmonth.1
  have hle := daysBeforeMonth_mono year (show month + 1 ≤ 13 by omega)
  have h13 := daysBeforeMonth_thirteen year
  have hyear : yearOfDays (daysBeforeYear year + daysBeforeMonth year month + (day - 1)) = year :=
    yearOfDays_eq (by omega) (by omega)
  have hn : (daysBeforeYear year + daysBeforeMonth year month + (day - 1)
      - daysBeforeYear year).toNat = daysBeforeMonth year month + (day - 1) := by omega
  have hmon : monthOfDays year (daysBeforeMonth year month + (day - 1)) 12 = month :=
    monthOfDays_eq year hmonth (by omega) (by omega)
  simp only [ofDays, toDays, Int.sub_add_cancel, hyear, hn, hmon, Date.mk.injEq, true_and]
  omega

/-- Two dates with the same number are the same date. -/
theorem toDays_injective {a b : Date} (h : a.toDays = b.toDays) : a = b := by
  rw [← ofDays_toDays a, h, ofDays_toDays]

end Date

end IdleStop
