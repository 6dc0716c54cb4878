/-!
# Parts of a text

A text falls into parts at the characters that separate them. There is
always one part more than there are separators, and each part may be empty.
Lines are such parts: a line ends at a line feed, and at a carriage return
before one. Blank characters, those with the Unicode property `White_Space`,
can be taken off both ends.
-/

namespace IdleStop

/-! ## Blanks -/

/-- Whether a character is white space. -/
def isBlank (c : Char) : Bool :=
  let n := c.toNat
  (9 ≤ n && n ≤ 13) || n == 0x20 || n == 0x85 || n == 0xa0 || n == 0x1680
    || (0x2000 ≤ n && n ≤ 0x200a) || n == 0x2028 || n == 0x2029 || n == 0x202f
    || n == 0x205f || n == 0x3000

/-- A text without the blanks at either end. -/
def trimmed (s : String) : String :=
  String.ofList ((s.toList.dropWhile isBlank).reverse.dropWhile isBlank).reverse

/-- Whether a text holds nothing but blanks. -/
def isBlankText (s : String) : Bool :=
  s.toList.all isBlank

/-! ## Parts -/

/-- The parts of a text between the characters that stop one. -/
def parts (stop : Char → Bool) : List Char → List (List Char)
  | [] => [[]]
  | c :: cs =>
    if stop c then [] :: parts stop cs
    else
      match parts stop cs with
      | part :: further => (c :: part) :: further
      | [] => [[c]]

/-- The parts with a separator between each two. -/
def joined (separator : List Char) : List (List Char) → List Char
  | [] => []
  | [part] => part
  | part :: further => part ++ separator ++ joined separator further

/-! ## Lines -/

/-- A line without the carriage return at its end. -/
def withoutReturn (line : List Char) : List Char :=
  if line.getLast? = some '\r' then line.dropLast else line

/-- The lines of a text. -/
def linesOf (text : String) : List String :=
  (parts (· = '\n') text.toList).map fun line => String.ofList (withoutReturn line)

end IdleStop
