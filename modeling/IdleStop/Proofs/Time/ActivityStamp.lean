import IdleStop.Proofs.Text.Template
import IdleStop.Proofs.Time.Civil
import IdleStop.Time.ActivityStamp
/-!
# The language of activity stamps

Which texts are stamps, and of which instants. A stamp is 26 characters in one
fixed shape and a letter `z` or `Z`; its digits name a date of the calendar,
from year 0 to year 9999, and a time of the clock, with second 60 for a leap
second (`IsStamp`). Exactly these are read, and writing what was read gives the
stamp back. What is written is read back in whole microseconds, if four digits
hold the year; otherwise it is no stamp.

A body in the shape is the template with twenty digits
(`shape_iff_exists_write`), and the numbers in it share these out
(`ofBody_write`); so reading is a question about digits.
-/

namespace IdleStop

namespace ActivityStamp

/-- The shape of a stamp up to its last letter: `d` stands for any digit,
every other character for itself. -/
def layout : List Char :=
  "dddd-dd-ddTdd:dd:dd.dddddd".toList

/-- Whether a character may stand where the layout has this letter. -/
def Fits (letter c : Char) : Prop :=
  if letter = 'd' then c.isDigit = true else c = letter

/-- The number that `count` characters from the one at `first` on write. -/
def numberAt (body : List Char) (first count : Nat) : Nat :=
  Nat.ofDigitChars 10 ((body.drop first).take count) 0

/-- The numbers in a stamp. -/
structure Fields where
  year : Nat
  month : Nat
  day : Nat
  hour : Nat
  minute : Nat
  second : Nat
  micros : Nat

namespace Fields

/-- The numbers at their places in the shape `YYYY-MM-DDTHH:MM:SS.ffffff`. -/
def ofBody (body : List Char) : Fields where
  year := numberAt body 0 4
  month := numberAt body 5 2
  day := numberAt body 8 2
  hour := numberAt body 11 2
  minute := numberAt body 14 2
  second := numberAt body 17 2
  micros := numberAt body 20 6

/-- The numbers are a date that the calendar has and a time that the clock
has. -/
structure IsCivil (f : Fields) : Prop where
  month : 1 ≤ f.month ∧ f.month ≤ 12
  day : 1 ≤ f.day ∧ f.day ≤ daysInMonth f.year f.month
  hour : f.hour ≤ 23
  minute : f.minute ≤ 59
  second : f.second ≤ 60

/-- The seconds from 1970-01-01T00:00:00 to the time. Second 60 is second 59. -/
def seconds (f : Fields) : Int :=
  Date.countedDays f.year f.month f.day * 86400 + f.hour * 3600 + f.minute * 60 +
    (if f.second = 60 then 59 else f.second : Nat)

/-- The nanoseconds past the second; in second 60 a billion more. -/
def nanos (f : Fields) : Nat :=
  if f.second = 60 then 1000000000 + f.micros * 1000 else f.micros * 1000

/-- The civil time that has these numbers for its parts. -/
def time? (f : Fields) : Option CivilTime :=
  CivilTime.ofParts? f.year f.month f.day f.hour f.minute f.second (f.micros * 1000)

end Fields

/-- A text is a stamp: these characters in the shape of the layout, the numbers
in them a date and time, and then `z` or `Z`. -/
structure IsStamp (s : String) (body : List Char) : Prop where
  chars : s.toList = body ++ ['z'] ∨ s.toList = body ++ ['Z']
  shape : List.Forall₂ Fits layout body
  civil : (Fields.ofBody body).IsCivil

/-! ## Bodies and digits -/

variable {body cs : List Char} {ds : List Nat} {t : CivilTime}

/-- As many digits as a stamp holds. -/
structure IsRow (ds : List Nat) : Prop where
  length : ds.length = 20
  lt_ten : ∀ d ∈ ds, d < 10

/-- The position of a template that a letter of the layout stands for. -/
def slotOf (letter : Char) : Slot :=
  if letter = 'd' then .digit else .mark letter

theorem fits_eq : Fits = fun letter => (slotOf letter).Fits := by
  funext letter c
  rw [Fits, slotOf]
  split <;> rfl

theorem isRow_iff : IsRow ds ↔ ds.length = template.digitCount ∧ ∀ d ∈ ds, d < 10 := by
  have hcount : template.digitCount = 20 := by decide
  rw [hcount]
  exact ⟨fun h => ⟨h.length, h.lt_ten⟩, fun h => ⟨h.1, h.2⟩⟩

/-- A body in the shape of the layout is the template with twenty digits. -/
theorem shape_iff_exists_write :
    List.Forall₂ Fits layout body ↔ ∃ ds, IsRow ds ∧ body = template.write ds := by
  have htemplate : layout.map slotOf = template := by decide
  rw [fits_eq, ← List.forall₂_map_left_iff, htemplate, Template.fits_iff_exists_write]
  simp only [isRow_iff, and_assoc]

/-- A number in a body is that of its digits, which follow those of the
positions before it. -/
theorem numberAt_write {first count before : Nat}
    (hslots : (template.drop first).take count = List.replicate count .digit)
    (hbefore : Template.digitCount (template.take first) = before)
    (hlen : before + count ≤ ds.length) (hlt : ∀ d ∈ ds, d < 10) :
    numberAt (template.write ds) first count = Digits.toNat ((ds.drop before).take count) := by
  subst hbefore
  exact Template.ofDigitChars_write hslots hlen hlt

/-- The numbers in a body share its digits out in their order. -/
theorem ofBody_write (h : IsRow ds) :
    Fields.ofBody (template.write ds) =
      { year := Digits.toNat ((ds.drop 0).take 4)
        month := Digits.toNat ((ds.drop 4).take 2)
        day := Digits.toNat ((ds.drop 6).take 2)
        hour := Digits.toNat ((ds.drop 8).take 2)
        minute := Digits.toNat ((ds.drop 10).take 2)
        second := Digits.toNat ((ds.drop 12).take 2)
        micros := Digits.toNat ((ds.drop 14).take 6) } := by
  have hlen := h.length
  rw [Fields.ofBody, Fields.mk.injEq]
  refine ⟨?_, ?_, ?_, ?_, ?_, ?_, ?_⟩ <;>
    exact numberAt_write (by decide) (by decide) (by omega) h.lt_ten

/-- The digits of a stamp name the time that the numbers in its body name. -/
theorem civil?_eq_time? (h : IsRow ds) :
    civil? ds = (Fields.ofBody (template.write ds)).time? := by
  have hmicros : (ds.drop 14).take 6 = ds.drop 14 := List.take_of_length_le (by simp [h.length])
  rw [ofBody_write h, Fields.time?, civil?, CivilTime.ofDigits?, hmicros]
  simp only [List.drop_take, List.take_take]
  rfl

/-- The parts of a time are the numbers of the digits that name it. -/
theorem civil?_eq_some_iff (h : IsRow ds) :
    civil? ds = some t ↔
      (t.date.year = Digits.toNat ((ds.drop 0).take 4) ∧
        t.date.month = Digits.toNat ((ds.drop 4).take 2) ∧
        t.date.day = Digits.toNat ((ds.drop 6).take 2)) ∧
      t.hour = Digits.toNat ((ds.drop 8).take 2) ∧
      t.minute = Digits.toNat ((ds.drop 10).take 2) ∧
      t.second = Digits.toNat ((ds.drop 12).take 2) ∧
      t.nanos = Digits.toNat ((ds.drop 14).take 6) * 1000 := by
  rw [civil?_eq_time? h, ofBody_write h, Fields.time?, CivilTime.ofParts?_eq_some_iff]

/-! ## The numbers as a time -/

namespace Fields

variable {f : Fields}

/-- Numbers name a civil time just if the calendar and the clock have them. -/
theorem exists_time?_iff (h : f.micros < 1000000) : (∃ t, f.time? = some t) ↔ f.IsCivil := by
  rw [time?, CivilTime.exists_ofParts?_iff]
  constructor
  · rintro ⟨⟨hmonth, hday⟩, hhour, hminute, hsecond, -⟩
    exact ⟨hmonth, hday, by omega, by omega, hsecond⟩
  · rintro ⟨hmonth, hday, hhour, hminute, hsecond⟩
    exact ⟨⟨hmonth, hday⟩, by omega, by omega, hsecond, by omega⟩

/-- The instant of the time that numbers name. -/
theorem toInstant_of_time? (h : f.time? = some t) :
    t.toInstant.seconds = f.seconds ∧ t.toInstant.nanos = f.nanos := by
  obtain ⟨⟨hyear, hmonth, hday⟩, hhour, hminute, hsecond, hnanos⟩ :=
    CivilTime.ofParts?_eq_some_iff.1 h
  have hdays := t.date.toDays_eq_countedDays hyear
  have hvalid := t.valid
  rw [hmonth, hday] at hdays
  simp only [CivilTime.toInstant, seconds, nanos]
  constructor
  · split <;> omega
  · split <;> omega

end Fields

/-- The microseconds in a body are less than a second. -/
theorem micros_ofBody_lt (h : List.Forall₂ Fits layout body) :
    (Fields.ofBody body).micros < 1000000 := by
  obtain ⟨ds, hrow, rfl⟩ := shape_iff_exists_write.1 h
  rw [ofBody_write hrow]
  exact Digits.toNat_slice_lt hrow.lt_ten

/-! ## Reading -/

/-- What is read is a template full of digits and one last letter. -/
theorem read?_eq_some_iff :
    read? cs = some t ↔
      ∃ ds, IsRow ds ∧
        (cs = template.write ds ++ ['z'] ∨ cs = template.write ds ++ ['Z']) ∧
        civil? ds = some t := by
  constructor
  · intro h
    rw [read?] at h
    split at h
    · next ds rest hread =>
      obtain ⟨rfl, hrow⟩ := Template.read?_eq_some_iff.1 hread
      split at h
      · next hend =>
        refine ⟨ds, isRow_iff.2 hrow, ?_, h⟩
        rcases (by simpa [isEnd] using hend : rest = ['z'] ∨ rest = ['Z']) with rfl | rfl
        · exact .inl rfl
        · exact .inr rfl
      · cases h
    · cases h
  · rintro ⟨ds, hrow, hchars, htime⟩
    have hread (rest : List Char) : template.read? (template.write ds ++ rest) = some (ds, rest) :=
      Template.read?_eq_some_iff.2 ⟨rfl, isRow_iff.1 hrow⟩
    rcases hchars with rfl | rfl
    · rw [read?, hread, ← htime]
      rfl
    · rw [read?, hread, ← htime]
      rfl

/-- A text reads as the time that the numbers in its body name, if it is a
stamp. -/
theorem read?_toList_eq_some_iff {s : String} :
    read? s.toList = some t ↔
      ∃ body, IsStamp s body ∧ (Fields.ofBody body).time? = some t := by
  rw [read?_eq_some_iff]
  constructor
  · rintro ⟨ds, hrow, hchars, htime⟩
    rw [civil?_eq_time? hrow] at htime
    have hshape := shape_iff_exists_write.2 ⟨ds, hrow, rfl⟩
    have hcivil := (Fields.exists_time?_iff (micros_ofBody_lt hshape)).1 ⟨t, htime⟩
    exact ⟨_, ⟨hchars, hshape, hcivil⟩, htime⟩
  · rintro ⟨body, ⟨hchars, hshape, -⟩, htime⟩
    obtain ⟨ds, hrow, rfl⟩ := shape_iff_exists_write.1 hshape
    exact ⟨ds, hrow, hchars, (civil?_eq_time? hrow).trans htime⟩

theorem parse_eq_ok_iff {s : String} {i : Instant} :
    parse s = .ok i ↔ ∃ t, read? s.toList = some t ∧ t.toInstant = i := by
  rw [parse]
  cases h : read? s.toList with
  | none => simp
  | some t => simp

theorem parse_eq_error_iff {s : String} {e : CheckError} :
    parse s = .error e ↔ read? s.toList = none ∧ e = .format s .activity := by
  rw [parse]
  cases h : read? s.toList with
  | none => simp [eq_comm]
  | some t => simp

/-- **Exactly the stamps are read, each as the instant that it names.** Every
other text is an error of format that tells the text. -/
theorem parse_ok_iff_isStamp (s : String) :
    (∀ i, parse s = .ok i ↔
      ∃ body, IsStamp s body ∧
        i.seconds = (Fields.ofBody body).seconds ∧ i.nanos = (Fields.ofBody body).nanos) ∧
    (∀ e, parse s = .error e ↔ (∀ body, ¬ IsStamp s body) ∧ e = .format s .activity) := by
  -- a stamp names a time, so it is read
  have htime : ∀ body, IsStamp s body → ∃ t, (Fields.ofBody body).time? = some t := fun body h =>
    (Fields.exists_time?_iff (micros_ofBody_lt h.shape)).2 h.civil
  constructor
  · intro i
    rw [parse_eq_ok_iff]
    constructor
    · rintro ⟨t, hread, rfl⟩
      obtain ⟨body, hstamp, ht⟩ := read?_toList_eq_some_iff.1 hread
      exact ⟨body, hstamp, Fields.toInstant_of_time? ht⟩
    · rintro ⟨body, hstamp, hseconds, hnanos⟩
      obtain ⟨t, ht⟩ := htime body hstamp
      obtain ⟨hseconds', hnanos'⟩ := Fields.toInstant_of_time? ht
      exact ⟨t, read?_toList_eq_some_iff.2 ⟨body, hstamp, ht⟩,
        Instant.ext (hseconds'.trans hseconds.symm) (hnanos'.trans hnanos.symm)⟩
  · intro e
    rw [parse_eq_error_iff]
    refine and_congr_left fun _ => ?_
    rw [Option.eq_none_iff_forall_ne_some]
    constructor
    · intro hnone body hstamp
      obtain ⟨t, ht⟩ := htime body hstamp
      exact hnone t (read?_toList_eq_some_iff.2 ⟨body, hstamp, ht⟩)
    · intro hno t hread
      obtain ⟨body, hstamp, -⟩ := read?_toList_eq_some_iff.1 hread
      exact hno body hstamp

example : parse "2000-02-29T00:00:00.000000z" = .ok ⟨951782400, 0, by decide⟩ := rfl

example : parse "1900-02-29T00:00:00.000000z" =
    .error (.format "1900-02-29T00:00:00.000000z" .activity) := rfl

/-! ## Writing -/

/-- A time has the digits that name it. -/
theorem digits_of_civil? (hrow : IsRow ds) (h : civil? ds = some t) : digits t = ds := by
  obtain ⟨⟨hyear, hmonth, hday⟩, hhour, hminute, hsecond, hnanos⟩ := (civil?_eq_some_iff hrow).1 h
  have hlen := hrow.length
  have hmicros : t.nanos / 1000 = Digits.toNat ((ds.drop 14).take 6) := by omega
  rw [digits, hyear, hmonth, hday, hhour, hminute, hsecond, hmicros, Int.toNat_natCast]
  simp (disch := omega) only [Digits.fixed_toNat_slice hrow.lt_ten]
  -- the stretches follow each other up to the last digit
  simp only [List.drop_zero, ← List.take_add]
  exact List.take_of_length_le (by omega)

/-- The year of a time that is read has four digits. -/
theorem year_of_civil? (hrow : IsRow ds) (h : civil? ds = some t) :
    0 ≤ t.date.year ∧ t.date.year ≤ 9999 := by
  obtain ⟨⟨hyear, -⟩, -⟩ := (civil?_eq_some_iff hrow).1 h
  have hbound : Digits.toNat ((ds.drop 0).take 4) < 10000 := Digits.toNat_slice_lt hrow.lt_ten
  omega

theorem isRow_digits (t : CivilTime) : IsRow (digits t) where
  length := by simp [digits]
  lt_ten := by
    intro d hd
    simp only [digits, List.mem_append] at hd
    rcases hd with (((((hd | hd) | hd) | hd) | hd) | hd) | hd <;>
      exact Digits.lt_ten_of_mem_fixed hd

/-- The numbers in the digits of a time are its parts, each as far as its
places go. -/
theorem ofBody_write_digits (t : CivilTime) :
    Fields.ofBody (template.write (digits t)) =
      { year := t.date.year.toNat % 10000
        month := t.date.month % 100
        day := t.date.day % 100
        hour := t.hour % 100
        minute := t.minute % 100
        second := t.second % 100
        micros := t.nanos / 1000 % 1000000 } := by
  rw [ofBody_write (isRow_digits t)]
  simp [digits, List.drop_append, List.drop_of_length_le, List.take_of_length_le,
    Digits.toNat_fixed]

/-- The digits of a time in a year of four digits name it, in whole
microseconds. -/
theorem civil?_digits (h : 0 ≤ t.date.year ∧ t.date.year ≤ 9999) :
    civil? (digits t) = some t.wholeMicros := by
  have hvalid := t.valid
  obtain ⟨hmonth, hday⟩ := t.date.valid
  have hdays := daysInMonth_le t.date.year t.date.month
  rw [civil?_eq_time? (isRow_digits t), ofBody_write_digits, Fields.time?,
    CivilTime.ofParts?_eq_some_iff, CivilTime.wholeMicros]
  dsimp only
  omega

/-- In a year of four digits, a time is written as the template with its digits
and the letter. -/
theorem write_eq (h : 0 ≤ t.date.year ∧ t.date.year ≤ 9999) :
    write t = template.write (digits t) ++ ['z'] := by
  have hyear : yearText t.date.year = (template.write (digits t)).take 4 := by
    have hslots : template.take 4 = List.replicate 4 .digit := rfl
    have hdigits : (digits t).take 4 = Digits.fixed 4 t.date.year.toNat := by
      simp [digits]
    rw [yearText, if_neg (by omega), if_neg (by omega), Template.take_write, hslots,
      Template.write_replicate_digit (by simp [(isRow_digits t).length]), hdigits]
  have hrest : Template.write (template.drop 4) ((digits t).drop 4) =
      (template.write (digits t)).drop 4 := by
    rw [Template.drop_write]
    rfl
  rw [write, hyear, hrest, List.take_append_drop]

/-- A year that four digits cannot hold is written with a sign, which no stamp
begins with. -/
theorem read?_write_eq_none (h : ¬ (0 ≤ t.date.year ∧ t.date.year ≤ 9999)) :
    read? (write t) = none := by
  have hsign : ∃ sign cs, write t = sign :: cs ∧ Digits.value? sign = none := by
    rw [write, yearText]
    by_cases hneg : t.date.year < 0
    · rw [if_pos hneg]
      exact ⟨'-', _, rfl, by decide⟩
    · rw [if_neg hneg, if_pos (by omega)]
      exact ⟨'+', _, rfl, by decide⟩
  obtain ⟨sign, cs, hwrite, hvalue⟩ := hsign
  have htemplate : template.read? (sign :: cs) = none := by
    have hcons : template = .digit :: template.tail := rfl
    rw [hcons, Template.read?, hvalue]
    rfl
  rw [hwrite, read?, htemplate]

theorem read?_write (h : 0 ≤ t.date.year ∧ t.date.year ≤ 9999) :
    read? (write t) = some t.wholeMicros :=
  read?_eq_some_iff.2 ⟨digits t, isRow_digits t, .inl (write_eq h), civil?_digits h⟩

/-- A stamp that is read has the digits of its time in its body, and they tell all
of it. -/
theorem exists_digits_of_parse {s : String} {i : Instant} (hs : parse s = .ok i) :
    ∃ t : CivilTime, t.toInstant = i ∧
      (s.toList = template.write (digits t) ++ ['z'] ∨
        s.toList = template.write (digits t) ++ ['Z']) ∧
      civil? (digits t) = some t ∧ (0 ≤ t.date.year ∧ t.date.year ≤ 9999) ∧
      t.nanos % 1000 = 0 := by
  obtain ⟨t, hread, rfl⟩ := parse_eq_ok_iff.1 hs
  obtain ⟨ds, hrow, hchars, htime⟩ := read?_eq_some_iff.1 hread
  obtain ⟨-, -, -, -, hnanos⟩ := (civil?_eq_some_iff hrow).1 htime
  have hdigits := digits_of_civil? hrow htime
  refine ⟨t, rfl, ?_, ?_, year_of_civil? hrow htime, ?_⟩
  · rwa [hdigits]
  · rwa [hdigits]
  · rw [hnanos, Nat.mul_mod_left]

/-- **Writing and reading are inverse to each other, up to what a stamp cannot
say.** An instant in a year of four digits is read back in whole microseconds, in
a leap second if it was in one; in any other year the text written is no stamp.
And what is read is written back with a small letter at the end. -/
theorem format_round_trip :
    (∀ i : Instant,
      (parse (format i) =
        if 0 ≤ i.civil.date.year ∧ i.civil.date.year ≤ 9999 then .ok i.wholeMicros
        else .error (.format (format i) .activity)) ∧
      i.wholeMicros.isLeap = i.isLeap) ∧
    ∀ (s : String) (i : Instant), parse s = .ok i →
      ∃ body, (s.toList = body ++ ['z'] ∨ s.toList = body ++ ['Z']) ∧
        format i = String.ofList (body ++ ['z']) := by
  constructor
  · intro i
    have hchars : (format i).toList = write i.civil := String.toList_ofList
    refine ⟨?_, i.isLeap_wholeMicros⟩
    split
    · next hyear =>
      rw [parse_eq_ok_iff, hchars]
      refine ⟨_, read?_write hyear, ?_⟩
      rw [CivilTime.toInstant_wholeMicros, CivilTime.toInstant_civil]
    · next hyear =>
      rw [parse_eq_error_iff, hchars]
      exact ⟨read?_write_eq_none hyear, rfl⟩
  · intro s i h
    obtain ⟨t, hread, rfl⟩ := parse_eq_ok_iff.1 h
    obtain ⟨ds, hrow, hchars, htime⟩ := read?_eq_some_iff.1 hread
    refine ⟨_, hchars, ?_⟩
    rw [format, CivilTime.civil_toInstant, write_eq (year_of_civil? hrow htime),
      digits_of_civil? hrow htime]

/-- A leap second of February 29 in year 0. -/
theorem format_round_trip_leapSecond :
    let i : Instant := ⟨-62162035201, 1000001000, by decide⟩
    parse "0000-02-29T23:59:60.000001Z" = .ok i ∧
      ∃ body, ("0000-02-29T23:59:60.000001Z".toList = body ++ ['z'] ∨
          "0000-02-29T23:59:60.000001Z".toList = body ++ ['Z']) ∧
        format i = String.ofList (body ++ ['z']) := by
  intro i
  have hparse : parse "0000-02-29T23:59:60.000001Z" = .ok i := rfl
  exact ⟨hparse, format_round_trip.2 _ _ hparse⟩

end ActivityStamp

end IdleStop
