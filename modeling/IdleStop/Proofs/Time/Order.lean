import IdleStop.Proofs.Text.Order
import IdleStop.Proofs.Time.ActivityStamp
/-!
# The order of time

Dates are ordered by their year, then their month, then their day; civil times
by their date, then their hour, and so on down to the nanosecond, with second 60
last in its minute. The count of days and the instant keep that order
(`Date.toDays_lt_iff`, `CivilTime.toInstant_lt_iff`), and so do the digits of a
stamp, from the first digit of the year to the last of the fraction. So stamps
are ordered as texts just as the instants they name, and no two bodies name the
same instant (`ActivityStamp.body_lt_iff_instant_lt`).
-/

namespace IdleStop

/-! ## Dates -/

namespace Date

variable {a b : Date}

/-- The year first, then the month, then the day. -/
instance : LT Date :=
  ⟨fun a b => a.year < b.year ∨ a.year = b.year ∧
    (a.month < b.month ∨ a.month = b.month ∧ a.day < b.day)⟩

theorem lt_iff :
    a < b ↔ a.year < b.year ∨ a.year = b.year ∧
      (a.month < b.month ∨ a.month = b.month ∧ a.day < b.day) :=
  Iff.rfl

theorem ext_iff : a = b ↔ a.year = b.year ∧ a.month = b.month ∧ a.day = b.day := by
  cases a
  cases b
  simp

/-- A date lies in its month, which lies in its year. -/
theorem toDays_bounds (d : Date) :
    daysBeforeYear d.year + daysBeforeMonth d.year d.month ≤ d.toDays + daysBeforeYear 1970 ∧
      d.toDays + daysBeforeYear 1970 <
        daysBeforeYear d.year + daysBeforeMonth d.year (d.month + 1) ∧
      daysBeforeYear d.year + daysBeforeMonth d.year (d.month + 1) ≤ daysBeforeYear (d.year + 1) := by
  obtain ⟨hmonth, hday⟩ := d.valid
  have hsucc := daysBeforeMonth_succ d.year hmonth.1
  have hle := daysBeforeMonth_mono d.year (show d.month + 1 ≤ 13 by omega)
  have hthirteen := daysBeforeMonth_thirteen d.year
  rw [toDays]
  omega

theorem toDays_lt (h : a < b) : a.toDays < b.toDays := by
  have ha := a.toDays_bounds
  have hb := b.toDays_bounds
  rcases h with hyear | ⟨hyear, hmonth | ⟨hmonth, hday⟩⟩
  · have hyears := daysBeforeYear_mono (show a.year + 1 ≤ b.year by omega)
    omega
  · have hmonths := daysBeforeMonth_mono b.year (show a.month + 1 ≤ b.month by omega)
    rw [hyear] at ha
    omega
  · rw [toDays, toDays, hyear, hmonth]
    omega

/-- **Earlier dates have smaller numbers.** -/
theorem toDays_lt_iff : a.toDays < b.toDays ↔ a < b := by
  refine ⟨fun h => ?_, toDays_lt⟩
  by_contra hnot
  -- of two dates that are not the same, one is the earlier
  have hother : a = b ∨ b < a := by
    rw [lt_iff] at hnot
    rw [ext_iff, lt_iff]
    omega
  rcases hother with rfl | hba
  · exact absurd h (Int.lt_irrefl _)
  · exact absurd (toDays_lt hba) (by omega)

theorem toDays_inj : a.toDays = b.toDays ↔ a = b :=
  ⟨toDays_injective, fun h => h ▸ rfl⟩

end Date

/-! ## Civil times -/

namespace CivilTime

variable {a b : CivilTime}

/-- The date first, then the hour, the minute, the second and the nanosecond. -/
instance : LT CivilTime :=
  ⟨fun a b => a.date < b.date ∨ a.date = b.date ∧
    (a.hour < b.hour ∨ a.hour = b.hour ∧
      (a.minute < b.minute ∨ a.minute = b.minute ∧
        (a.second < b.second ∨ a.second = b.second ∧ a.nanos < b.nanos)))⟩

theorem lt_iff :
    a < b ↔ a.date < b.date ∨ a.date = b.date ∧
      (a.hour < b.hour ∨ a.hour = b.hour ∧
        (a.minute < b.minute ∨ a.minute = b.minute ∧
          (a.second < b.second ∨ a.second = b.second ∧ a.nanos < b.nanos))) :=
  Iff.rfl

/-- **Earlier civil times are earlier instants**, leap seconds included. -/
theorem toInstant_lt_iff : a.toInstant < b.toInstant ↔ a < b := by
  have ha := a.valid
  have hb := b.valid
  rw [lt_iff, ← Date.toDays_lt_iff, ← Date.toDays_inj]
  change (a.toInstant.seconds < b.toInstant.seconds ∨
    a.toInstant.seconds = b.toInstant.seconds ∧ a.toInstant.nanos < b.toInstant.nanos) ↔ _
  simp only [toInstant]
  omega

end CivilTime

/-! ## Stamps -/

namespace ActivityStamp

variable {s s' : String} {i i' : Instant} {t t' : CivilTime} {ds ds' : List Nat}

/-- **The digits of a time are ordered as time is**, where they tell all of it. -/
theorem digits_lt_iff (hyear : 0 ≤ t.date.year ∧ t.date.year ≤ 9999) (hmicros : t.nanos % 1000 = 0)
    (hyear' : 0 ≤ t'.date.year ∧ t'.date.year ≤ 9999) (hmicros' : t'.nanos % 1000 = 0) :
    digits t < digits t' ↔ t < t' := by
  have hvalid := t.valid
  have hvalid' := t'.valid
  obtain ⟨hmonth, hday⟩ := t.date.valid
  obtain ⟨hmonth', hday'⟩ := t'.date.valid
  have hdays := daysInMonth_le t.date.year t.date.month
  have hdays' := daysInMonth_le t'.date.year t'.date.month
  have htwo : Nat.pow 10 2 = 100 := rfl
  have hfour : Nat.pow 10 4 = 10000 := rfl
  have hsix : Nat.pow 10 6 = 1000000 := rfl
  rw [CivilTime.lt_iff, Date.lt_iff, Date.ext_iff]
  -- stretch by stretch, from the year on, the digits compare the parts
  simp only [digits, List.append_assoc]
  simp (disch := omega) only [Digits.fixed_append_lt_iff, Digits.fixed_lt_fixed_iff]
  omega

/-- The bytes of a text but for the last. -/
def bodyBytes (s : String) : List UInt8 :=
  s.toUTF8.data.toList.dropLast

theorem bodyBytes_eq
    (hs : s.toList = template.write ds ++ ['z'] ∨ s.toList = template.write ds ++ ['Z']) :
    bodyBytes s = template.bytes ds := by
  have hlast : ∃ last, s.toUTF8.data.toList = template.bytes ds ++ [last] := by
    rw [Utf8.bytes_toUTF8]
    rcases hs with hs | hs
    · exact ⟨0x7a, by rw [hs, List.flatMap_append]; rfl⟩
    · exact ⟨0x5a, by rw [hs, List.flatMap_append]; rfl⟩
  obtain ⟨last, hlast⟩ := hlast
  rw [bodyBytes, hlast, List.dropLast_concat]

/-- **Reading stamps keeps their order strictly.** The bodies of two stamps, of
26 bytes each, are ordered byte by byte as the instants they name, leap seconds
included. So two stamps of one instant differ in the case of their last letter at
most. -/
theorem body_lt_iff_instant_lt (hs : parse s = .ok i) (hs' : parse s' = .ok i') :
    ((bodyBytes s).length = 26 ∧ (bodyBytes s').length = 26) ∧
    (bodyBytes s < bodyBytes s' ↔ i < i') ∧ (bodyBytes s = bodyBytes s' ↔ i = i') ∧
    (i = i' → ∃ body, (s.toList = body ++ ['z'] ∨ s.toList = body ++ ['Z']) ∧
      (s'.toList = body ++ ['z'] ∨ s'.toList = body ++ ['Z'])) := by
  obtain ⟨t, rfl, hchars, htime, hyear, hmicros⟩ := exists_digits_of_parse hs
  obtain ⟨t', rfl, hchars', htime', hyear', hmicros'⟩ := exists_digits_of_parse hs'
  obtain ⟨hlen, hlt⟩ := isRow_iff.1 (isRow_digits t)
  obtain ⟨hlen', hlt'⟩ := isRow_iff.1 (isRow_digits t')
  have hmarks : ∀ m, Slot.mark m ∈ template → (String.utf8EncodeChar m).length = 1 := by
    have hall : template.all (fun
        | .mark m => (String.utf8EncodeChar m).length == 1
        | .digit => true) = true := by decide
    exact fun m hm => beq_iff_eq.1 (List.all_eq_true.1 hall _ hm)
  rw [bodyBytes_eq hchars, bodyBytes_eq hchars']
  refine ⟨⟨Template.length_bytes hmarks hlen hlt, Template.length_bytes hmarks hlen' hlt'⟩,
    ?_, ?_, ?_⟩
  · rw [Template.bytes_lt_iff hlen hlt hlen' hlt', digits_lt_iff hyear hmicros hyear' hmicros',
      CivilTime.toInstant_lt_iff]
  · rw [Template.bytes_inj hlen hlt hlen' hlt']
    constructor
    · intro hdigits
      rw [hdigits, htime'] at htime
      rw [Option.some.inj htime]
    · intro hinstant
      rw [CivilTime.toInstant_injective hinstant]
  · intro hinstant
    obtain rfl := CivilTime.toInstant_injective hinstant
    exact ⟨_, hchars, hchars'⟩

/-- The last microsecond of a leap second, and the first of the next year; and a
leap second with either letter. -/
theorem body_lt_iff_instant_lt_leapSecond :
    let leap : Instant := ⟨1704067199, 1999999000, by decide⟩
    let next : Instant := ⟨1704067200, 0, by decide⟩
    (parse "2023-12-31T23:59:60.999999z" = .ok leap ∧
      parse "2024-01-01T00:00:00.000000Z" = .ok next ∧ leap < next ∧
      bodyBytes "2023-12-31T23:59:60.999999z" < bodyBytes "2024-01-01T00:00:00.000000Z") ∧
    parse "2023-12-31T23:59:60.999999Z" = .ok leap ∧
      bodyBytes "2023-12-31T23:59:60.999999z" = bodyBytes "2023-12-31T23:59:60.999999Z" := by
  intro leap next
  have hsmall : parse "2023-12-31T23:59:60.999999z" = .ok leap := rfl
  have hcapital : parse "2023-12-31T23:59:60.999999Z" = .ok leap := rfl
  have hnext : parse "2024-01-01T00:00:00.000000Z" = .ok next := rfl
  have hlt : leap < next := by decide
  obtain ⟨-, hbody, -, -⟩ := body_lt_iff_instant_lt hsmall hnext
  obtain ⟨-, -, hsame, -⟩ := body_lt_iff_instant_lt hsmall hcapital
  exact ⟨⟨hsmall, hnext, hlt, hbody.2 hlt⟩, hcapital, hsame.2 rfl⟩

end ActivityStamp

end IdleStop
