/-!
# Punycode

A text beyond ASCII is written in ASCII as its ASCII characters, a hyphen,
and digits that say which other characters go where. The others are put in by
code point, lowest first, and each number says how many steps to take from
the last insertion: one step for each place in the text, and one round of
places for each code point.

Numbers are written in base 36, last digit first. A digit below the threshold
of its place ends the number, and thresholds adapt to the numbers written so
far.
-/

namespace IdleStop

namespace Punycode

/-- The value of a digit. -/
def digit? (c : Char) : Option Nat :=
  if 'a' ≤ c ∧ c ≤ 'z' then some (c.toNat - 97)
  else if '0' ≤ c ∧ c ≤ '9' then some (c.toNat - 22)
  else none

/-- The digit of a value. -/
def digitChar (n : Nat) : Char :=
  if n < 26 then Char.ofNat (97 + n) else Char.ofNat (22 + n)

/-- The threshold of the digit at a place. Places are counted in steps of
the base, 36. -/
def threshold (bias place : Nat) : Nat :=
  if place ≤ bias then 1 else if bias + 26 ≤ place then 26 else place - bias

/-- A threshold is not zero, so a number ends. -/
theorem threshold_pos (bias place : Nat) : 0 < threshold bias place := by
  unfold threshold
  split
  · omega
  · split <;> omega

/-- The bias for numbers of a size. -/
def biasFor (size bias : Nat) : Nat :=
  if 455 < size then biasFor (size / 35) (bias + 36) else bias + 36 * size / (size + 38)
termination_by size
decreasing_by omega

/-- The bias after a number, given how many characters there are then. The
first number tends to be much larger than those after it. -/
def adapted (number characters : Nat) (first : Bool) : Nat :=
  let size := if first then number / 700 else number / 2
  biasFor (size + size / characters) 0

/-- The bias before any number. -/
def firstBias : Nat := 72

/-- The first code point that is put in. -/
def firstCode : Nat := 0x80

/-- Numbers stay below this. -/
def limit : Nat := Nat.pow 2 32

/-- How far a text has been read. -/
structure Reading where
  /-- The text so far. -/
  text : List Char
  /-- The code point put in last. -/
  code : Nat
  /-- The place after the one where it was put in. -/
  place : Nat
  bias : Nat
  /-- Whether no character has been put in. -/
  first : Bool
  /-- What the digits of a number that has not ended come to. -/
  number : Nat
  /-- What the next digit counts for. -/
  weight : Nat
  /-- Where the next digit stands, in steps of the base. -/
  digitPlace : Nat

namespace Reading

/-- Puts in the character that a finished number says. -/
def insert? (r : Reading) (number : Nat) : Option Reading :=
  let length := r.text.length + 1
  let steps := r.place + number
  let code := r.code + steps / length
  let place := steps % length
  if steps < limit && code.isValidChar then
    some
      { text := r.text.take place ++ Char.ofNat code :: r.text.drop place
        code := code
        place := place + 1
        bias := adapted number length r.first
        first := false
        number := 0
        weight := 1
        digitPlace := 36 }
  else none

/-- Reads a digit. -/
def step? (r : Reading) (c : Char) : Option Reading := do
  let d ← digit? c
  let number := r.number + d * r.weight
  let t := threshold r.bias r.digitPlace
  if limit ≤ number then none
  else if d < t then r.insert? number
  else
    let weight := r.weight * (36 - t)
    if limit ≤ weight then none
    else some { r with number := number, weight := weight, digitPlace := r.digitPlace + 36 }

end Reading

/-- The text that an ASCII text stands for. Its last hyphen, unless it is the
first character, comes before the digits. -/
def decode? (cs : List Char) : Option (List Char) := do
  let digits := (cs.reverse.takeWhile (· ≠ '-')).reverse
  let basic := cs.take (cs.length - digits.length - 1)
  let digits := if basic.isEmpty then cs else digits
  let r ← digits.foldlM Reading.step?
    { text := basic, code := firstCode, place := 0, bias := firstBias, first := true
      number := 0, weight := 1, digitPlace := 36 }
  if r.digitPlace = 36 then some r.text else none

/-- The digits of a number, from a place on. -/
def digitsFrom (bias place number : Nat) : List Char :=
  let t := threshold bias place
  if number < t then [digitChar number]
  else digitChar (t + (number - t) % (36 - t)) ::
    digitsFrom bias (place + 36) ((number - t) / (36 - t))
termination_by number
decreasing_by
  have := threshold_pos bias place
  have := Nat.div_le_self (number - threshold bias place) (36 - threshold bias place)
  omega

/-- How far a text has been written. -/
structure Writing where
  /-- The steps since the last character that was written. -/
  steps : Nat
  bias : Nat
  /-- How many characters have been written. -/
  written : Nat
  /-- Whether all of them are ASCII. -/
  first : Bool
  digits : List Char

namespace Writing

/-- Takes the step past a character when characters of a code point are
written. -/
def pass (code : Nat) (w : Writing) (c : Char) : Writing :=
  if c.toNat < code then { w with steps := w.steps + 1 }
  else if c.toNat = code then
    { steps := 0
      bias := adapted w.steps (w.written + 1) w.first
      written := w.written + 1
      first := false
      digits := w.digits ++ digitsFrom w.bias 36 w.steps }
  else w

/-- Writes the characters of each code point, given the code point that could
be next. -/
def codes (text : List Char) : Nat → List Nat → Writing → Writing
  | _, [], w => w
  | next, code :: further, w =>
    let w := { w with steps := w.steps + (code - next) * (w.written + 1) }
    let w := text.foldl (pass code) w
    codes text (code + 1) further { w with steps := w.steps + 1 }

end Writing

/-- The code points of a text beyond ASCII, each once, lowest first. -/
def wideCodes (cs : List Char) : List Nat :=
  ((cs.map (·.toNat)).filter (firstCode ≤ ·)).eraseDups.mergeSort

/-- The ASCII text that stands for a text. -/
def encode (cs : List Char) : List Char :=
  let basic := cs.filter (·.toNat < firstCode)
  let w := Writing.codes cs firstCode (wideCodes cs)
    ⟨0, firstBias, basic.length, true, []⟩
  if basic.isEmpty then w.digits else basic ++ '-' :: w.digits

end Punycode

end IdleStop
