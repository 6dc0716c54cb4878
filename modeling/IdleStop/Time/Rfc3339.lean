import IdleStop.Time.ActivityStamp
/-!
# RFC 3339

Dates and times with an offset from UTC: `2024-03-01T10:15:30.25+02:00`.
A space or a small letter may stand for the `T`, a small letter for the
`Z`, and the minus sign U+2212 for the hyphen. Seconds may have a fraction
of any length, of which nine digits count, and second 60 is a leap second.
-/

namespace IdleStop

namespace Rfc3339

/-- `HH:MM` -/
def offsetTemplate : Template :=
  [.digit, .digit, .mark ':', .digit, .digit]

/-- Whether a character may stand between date and time. -/
def isSeparator (c : Char) : Bool :=
  c = 'T' || c = 't' || c = ' '

/-- The nanoseconds of a row of digits after the point. -/
def nanosOf (ds : List Nat) : Nat :=
  Digits.toNat ((ds ++ List.replicate 9 0).take 9)

/-- The nanoseconds at the front of a text, none if there is no point, and
what follows them. A point needs a digit after it. -/
def fraction? : List Char → Option (Nat × List Char)
  | '.' :: cs =>
    let ds := (cs.takeWhile fun c => (Digits.value? c).isSome).filterMap Digits.value?
    if ds.isEmpty then none else some (nanosOf ds, cs.drop ds.length)
  | cs => some (0, cs)

/-- The offset from UTC, in minutes, that a text is. -/
def offset? : List Char → Option Int
  | ['Z'] | ['z'] => some 0
  | sign :: cs =>
    match Template.read? offsetTemplate cs with
    | some ([h₁, h₂, m₁, m₂], []) =>
      let hours := 10 * h₁ + h₂
      let minutes := 10 * m₁ + m₂
      if hours < 24 ∧ minutes < 60 then
        if sign = '+' then some (hours * 60 + minutes : Nat)
        else if sign = '-' ∨ sign = '\u2212' then some (-(hours * 60 + minutes : Nat))
        else none
      else none
    | _ => none
  | [] => none

/-- The instant that a text names: its local time, less the offset. -/
def read? (cs : List Char) : Option Instant :=
  match Template.read? ActivityStamp.dateTemplate cs with
  | some (date, separator :: cs) =>
    if isSeparator separator then do
      let (clock, cs) ← Template.read? ActivityStamp.clockTemplate cs
      let (nanos, cs) ← fraction? cs
      let offset ← offset? cs
      let localTime ← CivilTime.ofDigits? (date ++ clock) nanos
      return localTime.toInstant.plusMinutes (-offset)
    else none
  | _ => none

/-- Reads a date and time. -/
def parse (s : String) : Except CheckError Instant :=
  match read? s.toList with
  | some i => .ok i
  | none => .error (.format s .rfc3339)

/-- A fraction of a second after its point: none if it is zero, else
three, six or nine digits. -/
def fractionText (nanos : Nat) : List Char :=
  if nanos = 0 then []
  else if nanos % 1000000 = 0 then '.' :: Digits.padded 3 (nanos / 1000000)
  else if nanos % 1000 = 0 then '.' :: Digits.padded 6 (nanos / 1000)
  else '.' :: Digits.padded 9 nanos

/-- An instant as date and time in UTC. -/
def format (i : Instant) : String :=
  let t := i.civil
  String.ofList (ActivityStamp.yearText t.date.year ++
    Template.write (ActivityStamp.template.drop 4 |>.take 15) ((ActivityStamp.digits t).drop 4) ++
      fractionText t.nanos ++ "+00:00".toList)

end Rfc3339

end IdleStop
