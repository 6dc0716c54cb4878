import IdleStop.Json.Number
/-!
# JSON tokens

A text is split into tokens one character at a time. What has been read of
an unfinished token is the state of the scan (`Scan`); each character
either extends that token or ends it, and a number, whose end shows only at
the next character, is then followed by the token that character starts.

The characters of a string are kept as code points, with surrogates as they
are escaped; `Units.chars?` pairs them up. A string need not be well
formed as long as nobody reads it.
-/

namespace IdleStop

namespace Json

/-- The code points of a string, surrogates apart. -/
abbrev Units := List Nat

namespace Units

/-- Whether a code point is the first of a surrogate pair. -/
def isHigh (u : Nat) : Bool := 0xd800 ≤ u && u ≤ 0xdbff

/-- Whether a code point is the second of a surrogate pair. -/
def isLow (u : Nat) : Bool := 0xdc00 ≤ u && u ≤ 0xdfff

/-- The characters that code points spell, if every surrogate has its
partner. -/
def chars? : Units → Option (List Char)
  | [] => some []
  | [u] => if isHigh u || isLow u then none else some [Char.ofNat u]
  | u :: v :: rest =>
    if isHigh u then
      if isLow v then
        (Char.ofNat (0x10000 + (u - 0xd800) * 0x400 + (v - 0xdc00)) :: ·) <$> chars? rest
      else none
    else if isLow u then none
    else (Char.ofNat u :: ·) <$> chars? (v :: rest)

/-- The text that code points spell, if every surrogate has its partner. -/
def text? (us : Units) : Option String :=
  String.ofList <$> chars? us

/-- The code points of a text. -/
def ofString (s : String) : Units :=
  s.toList.map Char.toNat

end Units

/-- A token of JSON. -/
inductive Token
  | openArray
  | closeArray
  | openObject
  | closeObject
  | colon
  | comma
  | null
  | bool (b : Bool)
  | string (units : Units)
  | number (l : Literal)
  deriving DecidableEq, Repr

/-- How far a number has been read. -/
inductive NumberPart
  /-- The sign. -/
  | sign
  /-- A zero, which no digit follows. -/
  | zero
  /-- Digits before the point. -/
  | whole
  /-- The point. -/
  | point
  /-- Digits after the point. -/
  | fraction
  /-- The letter of the exponent. -/
  | mark
  /-- The sign of the exponent. -/
  | exponentSign
  /-- Digits of the exponent. -/
  | exponent
  deriving DecidableEq, Repr

/-- An unfinished token. Code points and digits are held last one first. -/
inductive Scan
  /-- No token has begun. -/
  | blank
  /-- The letters of a word still to come, and the token it is. -/
  | word (rest : List Char) (token : Token)
  /-- A string. -/
  | string (units : Units)
  /-- A string after a backslash. -/
  | escape (units : Units)
  /-- A string within a hexadecimal escape: the digits still to come, and
  the value of those read. -/
  | hex (units : Units) (left : Nat) (value : Nat)
  /-- A number; the parts not reached are empty. -/
  | number (part : NumberPart) (read : Literal)
  deriving Repr

namespace Scan

/-- The white space of JSON. -/
def isSpace (c : Char) : Bool :=
  c = ' ' || c = '\n' || c = '\r' || c = '\t'

/-- The code point that a backslash and one letter stand for. -/
def escaped? (c : Char) : Option Nat :=
  match c with
  | '"' => some 0x22
  | '\\' => some 0x5c
  | '/' => some 0x2f
  | 'b' => some 0x08
  | 'f' => some 0x0c
  | 'n' => some 0x0a
  | 'r' => some 0x0d
  | 't' => some 0x09
  | _ => none

/-- Begins a token: the tokens that one character finishes, and the token
it leaves unfinished. -/
def start (c : Char) : Option (List Token × Scan) :=
  if isSpace c then some ([], blank)
  else
    match c with
    | '[' => some ([.openArray], blank)
    | ']' => some ([.closeArray], blank)
    | '\x7b' => some ([.openObject], blank)
    | '\x7d' => some ([.closeObject], blank)
    | ':' => some ([.colon], blank)
    | ',' => some ([.comma], blank)
    | '"' => some ([], string [])
    | 'n' => some ([], word ['u', 'l', 'l'] .null)
    | 't' => some ([], word ['r', 'u', 'e'] (.bool true))
    | 'f' => some ([], word ['a', 'l', 's', 'e'] (.bool false))
    | '-' => some ([], number .sign ⟨true, [], [], none⟩)
    | _ =>
      match Digits.value? c with
      | none => none
      | some 0 => some ([], number .zero ⟨false, [0], [], none⟩)
      | some d => some ([], number .whole ⟨false, [d], [], none⟩)

/-- A number with its digits in reading order. -/
def finished (read : Literal) : Literal :=
  ⟨read.negative, read.whole.reverse, read.fraction.reverse,
    read.exponent.map fun (negative, ds) => (negative, ds.reverse)⟩

/-- Whether a number may end where it has been read to. -/
def complete : NumberPart → Bool
  | .zero | .whole | .fraction | .exponent => true
  | .sign | .point | .mark | .exponentSign => false

/-- A number with one more character, if that can belong to it. -/
def extend (part : NumberPart) (read : Literal) (c : Char) : Option (NumberPart × Literal) :=
  match part, Digits.value? c with
  | .sign, some 0 => some (.zero, ⟨true, [0], [], none⟩)
  | .sign, some d => some (.whole, ⟨true, [d], [], none⟩)
  | .sign, none => none
  | .zero, some _ => none
  | .whole, some d => some (.whole, ⟨read.negative, d :: read.whole, [], none⟩)
  | .point, some d | .fraction, some d =>
    some (.fraction, ⟨read.negative, read.whole, d :: read.fraction, none⟩)
  | .mark, some d =>
    some (.exponent, ⟨read.negative, read.whole, read.fraction, some (false, [d])⟩)
  | .exponentSign, some d | .exponent, some d =>
    some (.exponent, ⟨read.negative, read.whole, read.fraction,
      read.exponent.map fun (negative, ds) => (negative, d :: ds)⟩)
  | .zero, none | .whole, none =>
    if c = '.' then some (.point, read)
    else if c = 'e' ∨ c = 'E' then some (.mark, read)
    else none
  | .fraction, none => if c = 'e' ∨ c = 'E' then some (.mark, read) else none
  | .mark, none =>
    if c = '+' ∨ c = '-' then
      some (.exponentSign, ⟨read.negative, read.whole, read.fraction, some (c == '-', [])⟩)
    else none
  | .point, none | .exponentSign, none | .exponent, none => none

/-- Reads one character: the tokens it finishes, and the token it leaves
unfinished. -/
def step (c : Char) : Scan → Option (List Token × Scan)
  | blank => start c
  | word [] _ => none
  | word [l] token => if c = l then some ([token], blank) else none
  | word (l :: ls) token => if c = l then some ([], word ls token) else none
  | string us =>
    if c = '"' then some ([.string us.reverse], blank)
    else if c = '\\' then some ([], escape us)
    else if c.toNat < 0x20 then none
    else some ([], string (c.toNat :: us))
  | escape us =>
    if c = 'u' then some ([], hex us 3 0)
    else (escaped? c).map fun u => ([], string (u :: us))
  | hex us left value =>
    (Digits.hexValue? c).map fun d =>
      match left with
      | 0 => ([], string ((16 * value + d) :: us))
      | left + 1 => ([], hex us left (16 * value + d))
  | number part read =>
    match extend part read c with
    | some (part, read) => some ([], number part read)
    | none =>
      if complete part then
        (start c).map fun (tokens, scan) => (.number (finished read) :: tokens, scan)
      else none

/-- The tokens that the end of the text finishes. -/
def finish : Scan → Option (List Token)
  | blank => some []
  | number part read => if complete part then some [.number (finished read)] else none
  | _ => none

end Scan

namespace Token

/-- The tokens of a text whose first token is already begun. -/
def scanFrom (scan : Scan) : List Char → Option (List Token)
  | [] => scan.finish
  | c :: cs =>
    match scan.step c with
    | none => none
    | some (tokens, scan) => (tokens ++ ·) <$> scanFrom scan cs

/-- The tokens of a text. -/
def scan? (cs : List Char) : Option (List Token) :=
  scanFrom .blank cs

end Token

end Json

end IdleStop
