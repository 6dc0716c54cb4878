/-!
# Instants and durations

An instant is a number of whole seconds since 1970-01-01T00:00:00 UTC and
the nanoseconds past it. During a leap second the second before it is
counted on, so its nanoseconds run from one billion to two; only the last
second of a minute can be extended so.

Durations are plain numbers of nanoseconds. `Instant.since` measures from
one instant to another: a leap second adds a full second to the side of
the day on which it falls.
-/

namespace IdleStop

/-- A span of time, possibly negative. -/
structure Duration where
  nanoseconds : Int
  deriving DecidableEq, Repr

namespace Duration

/-- The nanoseconds of a second. -/
def perSecond : Nat := 1000000000

/-- A whole number of seconds and some nanoseconds. -/
def ofParts (seconds : Int) (nanos : Nat) : Duration :=
  ⟨seconds * perSecond + nanos⟩

/-- A whole number of seconds. -/
def ofSeconds (seconds : Int) : Duration :=
  ofParts seconds 0

/-- The whole seconds of a duration, the rest dropped. -/
def wholeSeconds (d : Duration) : Int :=
  d.nanoseconds.tdiv perSecond

instance : LT Duration := ⟨fun a b => a.nanoseconds < b.nanoseconds⟩
instance : LE Duration := ⟨fun a b => a.nanoseconds ≤ b.nanoseconds⟩

instance (a b : Duration) : Decidable (a < b) :=
  inferInstanceAs (Decidable (a.nanoseconds < b.nanoseconds))

instance (a b : Duration) : Decidable (a ≤ b) :=
  inferInstanceAs (Decidable (a.nanoseconds ≤ b.nanoseconds))

@[simp] theorem wholeSeconds_ofSeconds (s : Int) : (ofSeconds s).wholeSeconds = s := by
  simp [ofSeconds, ofParts, wholeSeconds, perSecond]

end Duration

/-- A point in time. -/
structure Instant where
  seconds : Int
  nanos : Nat
  valid : nanos < 1000000000 ∨ (nanos < 2000000000 ∧ seconds % 60 = 59)
  deriving DecidableEq

namespace Instant

/-- The instant with these parts, if they are within their bounds. -/
def ofParts? (seconds : Int) (nanos : Nat) : Option Instant :=
  if h : nanos < 1000000000 ∨ (nanos < 2000000000 ∧ seconds % 60 = 59) then
    some ⟨seconds, nanos, h⟩
  else none

/-- The first second a clock can show, in the year -262143. -/
def minSeconds : Int := -8334601228800

/-- The last second a clock can show, in the year 262142. -/
def maxSeconds : Int := 8210266876799

/-- An instant a clock can show. -/
def InRange (i : Instant) : Prop :=
  minSeconds ≤ i.seconds ∧ i.seconds ≤ maxSeconds

instance (i : Instant) : Decidable i.InRange :=
  inferInstanceAs (Decidable (_ ∧ _))

/-- The instant so many microseconds after the start of 1970, if a clock
can show it. -/
def ofMicroseconds? (micros : Int) : Option Instant :=
  let i : Instant := ⟨micros / 1000000, (micros % 1000000).toNat * 1000, by omega⟩
  if i.InRange then some i else none

/-- An instant moved by whole minutes. -/
def plusMinutes (i : Instant) (minutes : Int) : Instant :=
  ⟨i.seconds + minutes * 60, i.nanos, by
    have := i.valid
    omega⟩

/-- Whether an instant lies within a leap second. -/
def isLeap (i : Instant) : Bool :=
  1000000000 ≤ i.nanos

/-- The second of its UTC day. -/
def secondOfDay (i : Instant) : Int :=
  i.seconds % 86400

/-- Nanoseconds since the start of 1970, those of a leap second counted on. -/
def nanoseconds (i : Instant) : Int :=
  i.seconds * Duration.perSecond + i.nanos

/-- The leap second that the times of day of two instants leave out: one
instant is within it and has the earlier time of day, so the other is past
it. It counts forward or backward as that other instant is the later or the
earlier one. -/
def leapBetween (later earlier : Instant) : Int :=
  if earlier.secondOfDay < later.secondOfDay ∧ earlier.isLeap then 1
  else if later.secondOfDay < earlier.secondOfDay ∧ later.isLeap then -1
  else 0

/-- The time from one instant to another. -/
def since (later earlier : Instant) : Duration :=
  ⟨later.nanoseconds - earlier.nanoseconds + leapBetween later earlier * Duration.perSecond⟩

/-- Whether, at `now`, strictly more than `threshold` has passed since an
instant. -/
def isOlderThan (last : Instant) (threshold : Duration) (now : Instant) : Bool :=
  threshold < now.since last

/-- Seconds first, then nanoseconds. -/
instance : LT Instant :=
  ⟨fun a b => a.seconds < b.seconds ∨ (a.seconds = b.seconds ∧ a.nanos < b.nanos)⟩

instance : LE Instant :=
  ⟨fun a b => a.seconds < b.seconds ∨ (a.seconds = b.seconds ∧ a.nanos ≤ b.nanos)⟩

instance (a b : Instant) : Decidable (a < b) :=
  inferInstanceAs (Decidable (_ ∨ _))

instance (a b : Instant) : Decidable (a ≤ b) :=
  inferInstanceAs (Decidable (_ ∨ _))

/-- Between instants outside leap seconds, the time is the difference of
their nanoseconds. -/
theorem since_of_not_isLeap {later earlier : Instant} (h₁ : later.isLeap = false)
    (h₂ : earlier.isLeap = false) :
    (later.since earlier).nanoseconds = later.nanoseconds - earlier.nanoseconds := by
  simp [since, leapBetween, h₁, h₂]

end Instant

end IdleStop
