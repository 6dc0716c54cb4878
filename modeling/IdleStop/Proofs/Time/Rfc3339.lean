import IdleStop.Proofs.Time.ActivityStamp
import IdleStop.Time.Rfc3339
/-!
# Stamps and seconds as RFC 3339

The body of a stamp is a date and time of RFC 3339 but for the offset. Read so,
it names the same civil time (`read?_of_template`), which an offset behind it
takes back to UTC (`read?_body_zone`). A whole second in UTC is written without
a fraction, and read as that second (`parse_secondText`).
-/

namespace IdleStop

namespace Rfc3339

open ActivityStamp (template dateTemplate clockTemplate fractionTemplate)

variable {cs rest zone : List Char} {ds : List Nat} {i : Instant}

/-! ## Fractions -/

/-- Six digits are microseconds. -/
theorem nanosOf_of_length_six (h : ds.length = 6) : nanosOf ds = Digits.toNat ds * 1000 := by
  have hdigits : (ds ++ List.replicate 9 0).take 9 = ds ++ [0] ++ [0] ++ [0] := by
    rw [List.take_append, List.take_of_length_le (by omega), h, List.append_assoc,
      List.append_assoc]
    rfl
  rw [nanosOf, hdigits, Digits.toNat_append, Digits.toNat_append, Digits.toNat_append]
  omega

/-- A text does not go on with a digit. -/
def StopsDigits (cs : List Char) : Prop :=
  ∀ c, cs.head? = some c → Digits.value? c = none

/-- All digits behind a point are read, where another cannot follow. -/
theorem fraction?_digits (hne : ds ≠ []) (hlt : ∀ d ∈ ds, d < 10) (hrest : StopsDigits rest) :
    fraction? ('.' :: (ds.map Digits.toChar ++ rest)) = some (nanosOf ds, rest) := by
  have hdigit : ∀ c ∈ ds.map Digits.toChar, (Digits.value? c).isSome = true := by
    intro c hc
    obtain ⟨d, hd, rfl⟩ := List.mem_map.1 hc
    rw [Digits.value?_toChar (hlt d hd)]
    rfl
  have hstop : rest.takeWhile (fun c => (Digits.value? c).isSome) = [] := by
    cases rest with
    | nil => rfl
    | cons c rest => simp [hrest c rfl]
  have hvalues : (ds.map Digits.toChar).filterMap Digits.value? = ds := by
    have hvalue : ∀ d ∈ ds, (Digits.value? ∘ Digits.toChar) d = some d := fun d hd =>
      Digits.value?_toChar (hlt d hd)
    rw [List.filterMap_map, List.filterMap_congr hvalue, List.filterMap_some]
  have hempty : ds.isEmpty = false := List.isEmpty_eq_false_iff.2 hne
  rw [fraction?, List.takeWhile_append_of_pos hdigit, hstop, List.append_nil, hvalues]
  simp [hempty]

/-- Without a point there is no fraction. -/
theorem fraction?_of_ne_point (h : zone.head? ≠ some '.') : fraction? zone = some (0, zone) := by
  unfold fraction?
  split
  · exact absurd rfl h
  · rfl

/-! ## Date and time -/

/-- `YYYY-MM-DDTHH:MM:SS` -/
def secondTemplate : Template :=
  dateTemplate ++ .mark 'T' :: clockTemplate

/-- A date and time is the civil time that its digits name, and the offset behind
it takes that back to UTC. -/
theorem read?_of_secondTemplate {nanos : Nat} (h : secondTemplate.read? cs = some (ds, rest))
    (hfraction : fraction? rest = some (nanos, zone)) :
    read? cs = (offset? zone).bind fun offset =>
      (CivilTime.ofDigits? ds nanos).map fun t => t.toInstant.plusMinutes (-offset) := by
  obtain ⟨date, clock, cs₁, hdate, hrest, rfl⟩ := Template.read?_append h
  cases cs₁ with
  | nil => cases hrest
  | cons c cs₁ =>
    change (if c = 'T' then clockTemplate.read? cs₁ else none) = some (clock, rest) at hrest
    split at hrest
    · next hc =>
      have hseparator : isSeparator c = true := by
        rw [hc]
        decide
      rw [read?, hdate]
      simp only [if_pos hseparator, hrest, hfraction, Option.bind_eq_bind, Option.bind_some,
        Option.pure_def, Option.map_eq_bind, Function.comp_def]
    · cases hrest

/-- **The body of a stamp is read as the civil time it names**, with whatever
offset stands behind it. -/
theorem read?_of_template (h : template.read? cs = some (ds, zone)) (hzone : StopsDigits zone) :
    read? cs = (offset? zone).bind fun offset =>
      (ActivityStamp.civil? ds).map fun t => t.toInstant.plusMinutes (-offset) := by
  have hsplit : Template.read? (secondTemplate ++ fractionTemplate) cs = some (ds, zone) := h
  obtain ⟨second, micros, rest, hsecond, hmicros, rfl⟩ := Template.read?_append hsplit
  obtain ⟨-, hlen, -⟩ := Template.read?_eq_some_iff.1 hsecond
  obtain ⟨rfl, hlen', hlt⟩ := Template.read?_eq_some_iff.1 hmicros
  have hfourteen : second.length = 14 := hlen
  have hsix : micros.length = 6 := hlen'
  have hchars : fractionTemplate.write micros ++ zone =
      '.' :: (micros.map Digits.toChar ++ zone) := by
    have hslots : fractionTemplate = .mark '.' :: List.replicate 6 .digit := rfl
    rw [hslots, Template.write, Template.write_replicate_digit (by omega),
      List.take_of_length_le (by omega), List.cons_append]
  have hne : micros ≠ [] := List.ne_nil_of_length_pos (by omega)
  have hfraction : fraction? (fractionTemplate.write micros ++ zone) =
      some (Digits.toNat micros * 1000, zone) := by
    rw [hchars, fraction?_digits hne hlt hzone, nanosOf_of_length_six hsix]
  have hcivil : ActivityStamp.civil? (second ++ micros) =
      CivilTime.ofDigits? second (Digits.toNat micros * 1000) := by
    rw [ActivityStamp.civil?, List.take_left' hfourteen, List.drop_left' hfourteen]
  rw [read?_of_secondTemplate hsecond hfraction, hcivil]

/-! ## Offsets -/

theorem plusMinutes_neg_zero (i : Instant) : i.plusMinutes (-0) = i :=
  Instant.ext (show i.seconds + -0 * 60 = i.seconds by omega) rfl

/-- An offset from UTC, behind or ahead of it. -/
structure Offset where
  west : Bool
  hours : Fin 24
  minutes : Fin 60

namespace Offset

/-- A sign, two digits of hours and two of minutes. -/
def text (o : Offset) : List Char :=
  (if o.west then '-' else '+') ::
    Template.write offsetTemplate (Digits.fixed 2 o.hours ++ Digits.fixed 2 o.minutes)

/-- How far ahead of UTC a clock with this offset is. -/
def seconds (o : Offset) : Int :=
  if o.west then -(o.hours * 3600 + o.minutes * 60 : Nat) else (o.hours * 3600 + o.minutes * 60 : Nat)

theorem offset?_text (o : Offset) :
    ∃ minutes, offset? o.text = some minutes ∧ minutes * 60 = o.seconds := by
  obtain ⟨west, ⟨hours, hhours⟩, ⟨minutes, hminutes⟩⟩ := o
  have hread : Template.read? offsetTemplate
      (Template.write offsetTemplate (Digits.fixed 2 hours ++ Digits.fixed 2 minutes) ++ []) =
        some ([hours / 10 % 10, hours % 10, minutes / 10 % 10, minutes % 10], []) := by
    refine Template.read?_write [] rfl fun d hd => ?_
    rcases List.mem_append.1 hd with hd | hd <;> exact Digits.lt_ten_of_mem_fixed hd
  have hhours' : 10 * (hours / 10 % 10) + hours % 10 = hours := by omega
  have hminutes' : 10 * (minutes / 10 % 10) + minutes % 10 = minutes := by omega
  rw [List.append_nil] at hread
  unfold text offset?
  split
  · next h => cases (List.cons.inj h).2
  · next h => cases (List.cons.inj h).2
  · next sign cs h =>
    obtain ⟨rfl, rfl⟩ := List.cons.inj h
    simp only [hread, hhours', hminutes', hhours, hminutes, true_and, if_true]
    cases west with
    | true =>
      refine ⟨-(hours * 60 + minutes : Nat), rfl, ?_⟩
      simp only [seconds, if_true]
      omega
    | false =>
      refine ⟨(hours * 60 + minutes : Nat), rfl, ?_⟩
      simp only [seconds, Bool.false_eq_true, if_false]
      omega
  · next h => cases h

theorem stopsDigits_text (o : Offset) : StopsDigits o.text := by
  intro c hc
  obtain rfl := Option.some.inj hc
  cases o.west <;> decide

/-- A stamp with this offset in place of its last letter. -/
def replaceLetter (o : Offset) (s : String) : String :=
  String.ofList (s.toList.dropLast ++ o.text)

end Offset

theorem stopsDigits_letter {last : Char} (h : last = 'z' ∨ last = 'Z') : StopsDigits [last] := by
  intro c hc
  obtain rfl := Option.some.inj hc
  rcases h with rfl | rfl <;> decide

theorem offset?_letter {last : Char} (h : last = 'z' ∨ last = 'Z') : offset? [last] = some 0 := by
  rcases h with rfl | rfl <;> rfl

/-! ## Stamps -/

section Stamp

variable {s : String}

/-- The body of a stamp, read with an offset behind it, is the instant of the
stamp less the offset. -/
theorem read?_body_zone (hs : ActivityStamp.parse s = .ok i) {offset : Int}
    (hzone : StopsDigits zone) (hoffset : offset? zone = some offset) :
    read? (s.toList.dropLast ++ zone) = some (i.plusMinutes (-offset)) := by
  obtain ⟨t, rfl, hchars, htime, -, -⟩ := ActivityStamp.exists_digits_of_parse hs
  have hbody : s.toList.dropLast = template.write (ActivityStamp.digits t) := by
    rcases hchars with hchars | hchars <;> rw [hchars, List.dropLast_concat]
  have hread : template.read? (s.toList.dropLast ++ zone) = some (ActivityStamp.digits t, zone) :=
    Template.read?_eq_some_iff.2
      ⟨by rw [hbody], ActivityStamp.isRow_iff.1 (ActivityStamp.isRow_digits t)⟩
  rw [read?_of_template hread hzone, hoffset, htime]
  rfl

/-- **A stamp is read as RFC 3339 as it is read as a stamp.** -/
theorem parse_stamp (hs : ActivityStamp.parse s = .ok i) : parse s = .ok i := by
  obtain ⟨t, -, hchars, -⟩ := ActivityStamp.exists_digits_of_parse hs
  obtain ⟨last, hlast, hletter⟩ : ∃ last, (last = 'z' ∨ last = 'Z') ∧
      s.toList.dropLast ++ [last] = s.toList := by
    rcases hchars with hchars | hchars
    · exact ⟨'z', Or.inl rfl, by rw [hchars, List.dropLast_concat]⟩
    · exact ⟨'Z', Or.inr rfl, by rw [hchars, List.dropLast_concat]⟩
  have hread := read?_body_zone hs (stopsDigits_letter hlast) (offset?_letter hlast)
  rw [hletter, plusMinutes_neg_zero] at hread
  rw [parse, hread]

/-- **With an offset for its last letter, it is read as that much earlier.** -/
theorem parse_replaceLetter (hs : ActivityStamp.parse s = .ok i) (o : Offset) :
    ∃ j, parse (o.replaceLetter s) = .ok j ∧ j.seconds = i.seconds - o.seconds ∧
      j.nanos = i.nanos := by
  obtain ⟨offset, hoffset, hseconds⟩ := o.offset?_text
  refine ⟨i.plusMinutes (-offset), ?_, ?_, rfl⟩
  · rw [parse, Offset.replaceLetter, String.toList_ofList,
      read?_body_zone hs o.stopsDigits_text hoffset]
  · change i.seconds + -offset * 60 = _
    omega

end Stamp

/-! ## Whole seconds -/

/-- What may stand for UTC behind a date and time. -/
def utcZones : List (List Char) :=
  ["Z".toList, "z".toList, "+00:00".toList, "-00:00".toList]

/-- The second of an instant as date and time, and a zone. -/
def secondText (i : Instant) (zone : List Char) : String :=
  let t := i.civil
  String.ofList (ActivityStamp.yearText t.date.year ++
    Template.write (template.drop 4 |>.take 15) ((ActivityStamp.digits t).drop 4) ++ zone)

/-- A whole second is written without a fraction. -/
theorem format_eq_secondText (h : i.nanos = 0) : format i = secondText i "+00:00".toList := by
  have hnanos : i.civil.nanos = 0 := by
    change i.nanos % 1000000000 = 0
    omega
  rw [format, secondText, hnanos]
  simp [fractionText]

/-- In a year of four digits, date and time are written digit by digit. -/
theorem toList_secondText (h : 0 ≤ i.civil.date.year ∧ i.civil.date.year ≤ 9999)
    (zone : List Char) :
    (secondText i zone).toList =
      secondTemplate.write ((ActivityStamp.digits i.civil).take 14) ++ zone := by
  have hstamp : ActivityStamp.yearText i.civil.date.year ++
      Template.write (template.drop 4) ((ActivityStamp.digits i.civil).drop 4) =
        template.write (ActivityStamp.digits i.civil) :=
    List.append_cancel_right (ActivityStamp.write_eq h)
  have hlength : (ActivityStamp.yearText i.civil.date.year).length = 4 := by
    rw [ActivityStamp.yearText, if_neg (by omega), if_neg (by omega), List.length_map,
      Digits.length_fixed]
  -- the first nineteen characters of the stamp, of which four are the year
  have hfront := congrArg (List.take 19) hstamp
  rw [List.take_append, hlength, List.take_of_length_le (by omega), Template.take_write,
    Template.take_write] at hfront
  have hdigits : secondTemplate.write ((ActivityStamp.digits i.civil).take 14) =
      secondTemplate.write (ActivityStamp.digits i.civil) := Template.write_take
  rw [secondText, String.toList_ofList, hdigits]
  exact congrArg (· ++ zone) hfront

/-- **A whole second of UTC is read as that second.** -/
theorem parse_secondText (hyear : 0 ≤ i.civil.date.year ∧ i.civil.date.year ≤ 9999)
    (hi : i.nanos = 0) (hzone : zone ∈ utcZones) : parse (secondText i zone) = .ok i := by
  have hutc : ∀ zone ∈ utcZones, zone.head? ≠ some '.' ∧ offset? zone = some 0 := by decide
  obtain ⟨hpoint, hoffset⟩ := hutc zone hzone
  have hrow := ActivityStamp.isRow_digits i.civil
  have hread : secondTemplate.read? (secondText i zone).toList =
      some ((ActivityStamp.digits i.civil).take 14, zone) := by
    refine Template.read?_eq_some_iff.2 ⟨toList_secondText hyear zone, ?_, fun d hd =>
      hrow.lt_ten d (List.mem_of_mem_take hd)⟩
    rw [List.length_take, hrow.length]
    rfl
  -- nothing is lost of a time without a fraction
  have hnanos : i.civil.nanos = 0 := by
    change i.nanos % 1000000000 = 0
    omega
  have htime : CivilTime.ofDigits? ((ActivityStamp.digits i.civil).take 14) 0 = some i.civil := by
    have hmicros : Digits.toNat ((ActivityStamp.digits i.civil).drop 14) * 1000 = 0 := by
      simp [ActivityStamp.digits, List.drop_append, List.drop_of_length_le, hnanos,
        Digits.toNat_fixed]
    have hwhole : i.civil.wholeMicros = i.civil := by
      refine CivilTime.toInstant_injective ?_
      rw [CivilTime.toInstant_wholeMicros, CivilTime.toInstant_civil, i.wholeMicros_of_nanos hi]
    have hcivil := ActivityStamp.civil?_digits hyear
    rwa [ActivityStamp.civil?, hmicros, hwhole] at hcivil
  rw [parse, read?_of_secondTemplate hread (fraction?_of_ne_point hpoint), hoffset, htime]
  simp only [Option.bind_some, Option.map_some, plusMinutes_neg_zero, CivilTime.toInstant_civil]

end Rfc3339

end IdleStop
