import IdleStop.Http.DomainName.Mapping
import IdleStop.Http.DomainName.Punycode
import IdleStop.Text.CodeRange
import IdleStop.Text.Composition
import IdleStop.Text.Direction
import IdleStop.Text.Joining
/-!
# Domain names

A domain name is a row of labels with dots between them. It may be typed in
any script, and has one form in ASCII: a label beyond ASCII is written in
Punycode, behind four characters that say so.

`toAscii?` gives that form. It fails for names that could deceive: those with
characters that no name has, labels that begin with a mark, invisible joiners
where there is nothing to join, and labels in which letters of both
directions are mixed.
-/

namespace IdleStop

namespace DomainName

/-- Whether a character of ASCII cannot stand in a name. -/
def isDenied (c : Char) : Bool :=
  c.toNat ≤ 0x20 || c.toNat = 0x7f || "%#/:<>?@[\\]^|".toList.contains c

/-- The characters of a name that is typed in some way. -/
def characters? (cs : List Char) : Option (List Char) :=
  match cs.mapM replaced? with
  | some images =>
    let characters := composed images.flatten
    if characters.any isDenied then none else some characters
  | none => none

/-- The invisible character that keeps its neighbours apart. -/
def nonJoiner : Char := '\u200c'

/-- The invisible character that joins its neighbours. -/
def joiner : Char := '\u200d'

/-- Whether what comes before, last character first, ends in a sign that
kills a vowel. -/
def endsInVirama : List Char → Bool
  | [] => false
  | c :: _ => combiningClass c = CombiningClass.virama

/-- Whether what comes before, last character first, would join to what
follows. -/
def wouldJoin (before after : List Char) : Bool :=
  match before.dropWhile Joining.isTransparent, after.dropWhile Joining.isTransparent with
  | c :: _, d :: _ => Joining.joinsForward c && Joining.joinsBackward d
  | _, _ => false

/-- Whether the invisible joiners of a text do something, given what comes
before it, last character first. -/
def joinersMatter (before : List Char) : List Char → Bool
  | [] => true
  | c :: cs =>
    (if c = nonJoiner then endsInVirama before || wouldJoin before cs
      else if c = joiner then endsInVirama before
      else true) &&
      joinersMatter (c :: before) cs

/-- Whether a label runs in one direction. It begins with a letter, and ends
in a letter of that direction or in a digit; in a label that runs to the left
the digits are of one kind. -/
def runsOneWay (label : List Char) : Bool :=
  match label.map Direction.ofChar with
  | [] => true
  | first :: further =>
    let tail := further.reverse.dropWhile (· = .mark)
    match first with
    | .rightward =>
      (match tail with
        | [] => true
        | last :: _ => last = .rightward || last = .number) &&
        tail.all fun d => d ≠ .leftward && d ≠ .arabicNumber
    | .leftward =>
      (match tail with
        | [] => true
        | last :: _ => last = .leftward || last = .number || last = .arabicNumber) &&
        tail.all (· ≠ .rightward) && !(tail.contains .number && tail.contains .arabicNumber)
    | _ => false

/-- A label. -/
structure Label where
  /-- As it is read. -/
  letters : List Char
  /-- As it is written in ASCII. -/
  ascii : List Char
  deriving DecidableEq, Repr

/-- What a label in Punycode begins with. -/
def punycodeMark : List Char :=
  "xn--".toList

namespace Label

/-- Whether a label can be read. -/
def isSound (letters : List Char) : Bool :=
  (match letters with
    | [] => true
    | c :: _ => !isMark c) &&
    joinersMatter [] letters

/-- The letters of a label in Punycode, given what comes after its mark. What
it stands for must be a label as `characters?` gives it, not empty, and not in
Punycode again. -/
def decoded? (code : List Char) : Option (List Char) :=
  if code.isEmpty || code.getLast? = some '-' || 2000 < code.length ||
      code.any (0x80 ≤ ·.toNat) then none
  else
    match Punycode.decode? code with
    | some letters =>
      if letters.all isSettled && composed letters = letters &&
          letters.take 4 ≠ punycodeMark then some letters
      else none
    | none => none

/-- The label with some characters. -/
def ofCharacters? (cs : List Char) : Option Label :=
  let label? : Option Label :=
    if cs.take 4 = punycodeMark then (decoded? (cs.drop 4)).map (⟨·, cs⟩)
    else if cs.all (·.toNat < 0x80) then some ⟨cs, cs⟩
    else if 1000 < cs.length then none
    else some ⟨cs, punycodeMark ++ Punycode.encode cs⟩
  label?.filter (isSound ·.letters)

end Label

/-- Whether the directions of the labels fit together. -/
def directionsFit (labels : List Label) : Bool :=
  !(labels.any (·.letters.any Direction.turns)) || labels.all (runsOneWay ·.letters)

/-- A name in ASCII, however it is typed. -/
def toAscii? (cs : List Char) : Option (List Char) := do
  let characters ← characters? cs
  let labels ← (parts (· = '.') characters).mapM Label.ofCharacters?
  if directionsFit labels then some (joined ['.'] (labels.map (·.ascii))) else none

end DomainName

end IdleStop
