import IdleStop.Text.Digits
import IdleStop.Time.Calendar
import IdleStop.Time.Instant
/-!
# Civil time

A date with a time of day, in UTC. Second 60 is a leap second, which any
minute may have. Civil times and instants name each other
(`civil_toInstant`, `toInstant_civil`).
-/

namespace IdleStop

/-- A date and a time of day. -/
structure CivilTime where
  date : Date
  hour : Nat
  minute : Nat
  second : Nat
  nanos : Nat
  valid : hour < 24 ∧ minute < 60 ∧ second ≤ 60 ∧ nanos < 1000000000
  deriving DecidableEq

namespace CivilTime

/-- The civil time with these parts, if the calendar and the clock have it. -/
def ofParts? (year : Int) (month day hour minute second nanos : Nat) : Option CivilTime :=
  match Date.ofParts? year month day with
  | none => none
  | some date =>
    if h : hour < 24 ∧ minute < 60 ∧ second ≤ 60 ∧ nanos < 1000000000 then
      some ⟨date, hour, minute, second, nanos, h⟩
    else none

/-- The civil time that fourteen digits name, `YYYYMMDDHHMMSS`, and
nanoseconds past it. -/
def ofDigits? (ds : List Nat) (nanos : Nat) : Option CivilTime :=
  let field (first count : Nat) := Digits.toNat ((ds.drop first).take count)
  ofParts? (field 0 4) (field 4 2) (field 6 2) (field 8 2) (field 10 2) (field 12 2) nanos

/-- The instant of a civil time. Second 60 is the second before it, a
billion nanoseconds on. -/
def toInstant (t : CivilTime) : Instant :=
  ⟨t.date.toDays * 86400 + t.hour * 3600 + t.minute * 60 + min t.second 59,
    t.nanos + t.second / 60 * 1000000000, by
      have := t.valid
      omega⟩

end CivilTime

/-- The civil time of an instant. -/
def Instant.civil (i : Instant) : CivilTime :=
  let second := i.secondOfDay.toNat
  ⟨Date.ofDays (i.seconds / 86400), second / 3600, second / 60 % 60,
    second % 60 + i.nanos / 1000000000, i.nanos % 1000000000, by
      have := i.valid
      simp only [second, Instant.secondOfDay]
      omega⟩

namespace CivilTime

theorem toInstant_civil (i : Instant) : i.civil.toInstant = i := by
  obtain ⟨seconds, nanos, hvalid⟩ := i
  simp only [Instant.civil, toInstant, Instant.secondOfDay, Date.toDays_ofDays, Instant.mk.injEq]
  omega

theorem civil_toInstant (t : CivilTime) : t.toInstant.civil = t := by
  obtain ⟨date, hour, minute, second, nanos, hvalid⟩ := t
  have hday : (date.toDays * 86400 + hour * 3600 + minute * 60 + (min second 59 : Nat)) / 86400
      = date.toDays := by omega
  simp only [Instant.civil, toInstant, Instant.secondOfDay, hday, Date.ofDays_toDays,
    CivilTime.mk.injEq, true_and]
  omega

/-- Two civil times of one instant are the same. -/
theorem toInstant_injective {a b : CivilTime} (h : a.toInstant = b.toInstant) : a = b := by
  rw [← civil_toInstant a, h, civil_toInstant]

end CivilTime

end IdleStop
