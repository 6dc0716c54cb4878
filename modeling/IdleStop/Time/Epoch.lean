import IdleStop.Error
import IdleStop.Json.Number
import IdleStop.Time.Instant
/-!
# Epoch seconds

A number of seconds since the start of 1970 is taken as a double, times a
million, to the nearest microsecond. The microseconds are kept in a signed word of
64 bits; a number that is beyond the word is put at the end of it on that side.
-/

namespace IdleStop

namespace Epoch

/-- The least number of a signed word of 64 bits. -/
def minWord : Int := -Nat.pow 2 63

/-- The greatest number of a signed word of 64 bits. -/
def maxWord : Int := Nat.pow 2 63 - 1

/-- A whole number in a signed word, or the end of the word that is nearest to it. -/
def word (n : Int) : Int :=
  max minWord (min maxWord n)

/-- The microseconds of so many seconds, in a signed word. A product beyond the
greatest double is infinite, and so at an end of the word. -/
def microseconds? (seconds : Binary64) : Option Int := do
  let million ← Binary64.ofInt? 1000000
  match seconds.mul? million with
  | some micros => return word micros.round
  | none => return if seconds.negative then minWord else maxWord

/-- The instant so many seconds after the start of 1970, to the nearest
microsecond, if a clock can show it. -/
def ofSeconds? (seconds : Binary64) : Option Instant := do
  Instant.ofMicroseconds? (← microseconds? seconds)

/-- Reads a number as epoch seconds. -/
def parse (n : Json.Number) : Except CheckError Instant :=
  match n.toDouble?.bind ofSeconds? with
  | some i => .ok i
  | none => .error (.format n.text .epochSeconds)

end Epoch

end IdleStop
