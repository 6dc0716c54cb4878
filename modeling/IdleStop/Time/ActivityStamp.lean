import IdleStop.Error
import IdleStop.Text.Template
import IdleStop.Time.Civil
/-!
# Activity stamps

The notebook server writes times of activity in one fixed shape,
`YYYY-MM-DDTHH:MM:SS.ffffffz`, in UTC. Reading takes that shape only, with
the last letter in either case. Writing keeps whole microseconds and falls
out of the shape for years that four digits cannot hold, which take a sign.
-/

namespace IdleStop

namespace ActivityStamp

/-- `YYYY-MM-DD` -/
def dateTemplate : Template :=
  [.digit, .digit, .digit, .digit, .mark '-', .digit, .digit, .mark '-', .digit, .digit]

/-- `HH:MM:SS` -/
def clockTemplate : Template :=
  [.digit, .digit, .mark ':', .digit, .digit, .mark ':', .digit, .digit]

/-- `.ffffff` -/
def fractionTemplate : Template :=
  [.mark '.', .digit, .digit, .digit, .digit, .digit, .digit]

/-- `YYYY-MM-DDTHH:MM:SS.ffffff`, all but the last letter. -/
def template : Template :=
  dateTemplate ++ .mark 'T' :: clockTemplate ++ fractionTemplate

/-- The civil time that the digits of a stamp name. -/
def civil? (ds : List Nat) : Option CivilTime :=
  CivilTime.ofDigits? (ds.take 14) (Digits.toNat (ds.drop 14) * 1000)

/-- Whether the characters after the digits end a stamp. -/
def isEnd (cs : List Char) : Bool :=
  cs = ['z'] || cs = ['Z']

/-- The civil time that a stamp names. -/
def read? (cs : List Char) : Option CivilTime :=
  match template.read? cs with
  | some (ds, rest) => if isEnd rest then civil? ds else none
  | none => none

/-- The digits of a civil time in the order of a stamp, the last four of its
year first. -/
def digits (t : CivilTime) : List Nat :=
  Digits.fixed 4 t.date.year.toNat ++ Digits.fixed 2 t.date.month ++ Digits.fixed 2 t.date.day ++
    Digits.fixed 2 t.hour ++ Digits.fixed 2 t.minute ++ Digits.fixed 2 t.second ++
      Digits.fixed 6 (t.nanos / 1000)

/-- A year: four digits, or a sign and at least four. -/
def yearText (year : Int) : List Char :=
  if year < 0 then '-' :: Digits.padded 4 year.natAbs
  else if 9999 < year then '+' :: Digits.padded 4 year.natAbs
  else (Digits.fixed 4 year.toNat).map Digits.toChar

/-- A civil time as a stamp. -/
def write (t : CivilTime) : List Char :=
  yearText t.date.year ++ Template.write (template.drop 4) ((digits t).drop 4) ++ ['z']

/-- Reads a stamp. -/
def parse (s : String) : Except CheckError Instant :=
  match read? s.toList with
  | some t => .ok t.toInstant
  | none => .error (.format s .activity)

/-- An instant as a stamp. -/
def format (i : Instant) : String :=
  String.ofList (write i.civil)

/-- Whether, at `now`, strictly more than `threshold` has passed since the
time of a stamp. -/
def isOlderThan (s : String) (threshold : Duration) (now : Instant) : Except CheckError Bool := do
  let last ← parse s
  return last.isOlderThan threshold now

end ActivityStamp

end IdleStop
