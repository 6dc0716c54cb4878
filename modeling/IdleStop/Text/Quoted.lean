import IdleStop.Text.Graphic
/-!
# Quoted text

A text between double quotes on one line. The quote and the backslash take
a backslash, four control characters have a letter or digit after one, and
every other character that is not graphic is written by its code point in
hexadecimal.
-/

namespace IdleStop

namespace Quoted

/-- A code point in lower-case hexadecimal without leading zeros. -/
def hexadecimal (n : Nat) : List Char :=
  Nat.toDigits 16 n

/-- The form of one character between quotes, given which characters stand
for themselves. -/
def escape (shown : Char → Bool) (c : Char) : List Char :=
  if c = '"' then ['\\', '"']
  else if c = '\\' then ['\\', '\\']
  else if c = '\n' then ['\\', 'n']
  else if c = '\r' then ['\\', 'r']
  else if c = '\t' then ['\\', 't']
  else if c = '\x00' then ['\\', '0']
  else if shown c then [c]
  else ['\\', 'u', '\x7b'] ++ hexadecimal c.toNat ++ ['\x7d']

/-- A text as one quoted line, given which characters stand for themselves. -/
def quoteBy (shown : Char → Bool) (cs : List Char) : List Char :=
  '"' :: (cs.flatMap (escape shown) ++ ['"'])

end Quoted

/-- A text as one quoted line. -/
def quoted (s : String) : String :=
  String.ofList (Quoted.quoteBy isGraphic s.toList)

end IdleStop
