import IdleStop.Text.Digits
import IdleStop.Text.Parts
/-!
# Internet addresses of sixteen bytes

Such an address is written as eight hexadecimal groups with colons between
them. Two colons stand for as many zeros as are missing, at least one, and
the last two groups may be written as four decimal numbers.
-/

namespace IdleStop

namespace Http

/-- An address of sixteen bytes. -/
structure Ipv6 where
  groups : List UInt16
  length_eq : groups.length = 8
  deriving DecidableEq, Repr

namespace Ipv6

/-- The group that up to four hexadecimal digits write. -/
def group? (cs : List Char) : Option UInt16 :=
  if cs.isEmpty || 4 < cs.length then none
  else (cs.mapM Digits.hexValue?).map fun ds => UInt16.ofNat (ds.foldl (fun n d => 16 * n + d) 0)

/-- The byte that a decimal number without zeros in front writes. -/
def byte? (cs : List Char) : Option Nat :=
  match Digits.ofChars? cs with
  | none | some [] => none
  | some (0 :: _ :: _) => none
  | some ds => if Digits.toNat ds < 256 then some (Digits.toNat ds) else none

/-- The two groups that four decimal numbers write. -/
def dotted? (cs : List Char) : Option (List UInt16) :=
  match (parts (· = '.') cs).mapM byte? with
  | some [a, b, c, d] => some [UInt16.ofNat (256 * a + b), UInt16.ofNat (256 * c + d)]
  | _ => none

/-- The groups that parts write. Only the last part may be dotted, and only
at the end of the address. -/
def ofParts? (atEnd : Bool) : List (List Char) → Option (List UInt16)
  | [] => some []
  | [part] =>
    if atEnd && part.contains '.' then dotted? part else (group? part).map ([·])
  | part :: further =>
    match group? part, ofParts? atEnd further with
    | some group, some groups => some (group :: groups)
    | _, _ => none

/-- The groups of a stretch without a gap, which may be empty. -/
def stretch? (atEnd : Bool) (cs : List Char) : Option (List UInt16) :=
  if cs.isEmpty then some [] else ofParts? atEnd (parts (· = ':') cs)

/-- What stands before the first gap and after it, if there is one. -/
def splitGap? : List Char → Option (List Char × List Char)
  | [] => none
  | ':' :: ':' :: cs => some ([], cs)
  | c :: cs => (splitGap? cs).map fun sides => (c :: sides.1, sides.2)

/-- The address with some groups before the gap and some after it. -/
def around? (before after : List UInt16) : Option Ipv6 :=
  if h : before.length + after.length < 8 then
    some ⟨before ++ List.replicate (8 - (before.length + after.length)) 0 ++ after, by
      simp; omega⟩
  else none

/-- Reads an address. -/
def parse? (cs : List Char) : Option Ipv6 :=
  match splitGap? cs with
  | some (before, after) =>
    match stretch? false before, stretch? true after with
    | some before, some after => around? before after
    | _, _ => none
  | none =>
    match stretch? true cs with
    | some groups => if h : groups.length = 8 then some ⟨groups, h⟩ else none
    | none => none

/-- Where the longest run of zeros begins, the first one of several, and how
long it is. -/
def longestGap (groups : List UInt16) : Nat × Nat :=
  (List.range groups.length).foldl (fun best start =>
    let length := ((groups.drop start).takeWhile (· = 0)).length
    if best.2 < length then (start, length) else best) (0, 0)

/-- A stretch of groups in writing. -/
def stretchText (groups : List UInt16) : List Char :=
  joined [':'] (groups.map fun group => Nat.toDigits 16 group.toNat)

/-- An address in writing. A gap stands for the longest run of zeros, unless
it is a single one. -/
def text (a : Ipv6) : String :=
  let (start, length) := longestGap a.groups
  String.ofList <|
    if 1 < length then
      stretchText (a.groups.take start) ++ [':', ':'] ++
        stretchText (a.groups.drop (start + length))
    else stretchText a.groups

end Ipv6

end Http

end IdleStop
