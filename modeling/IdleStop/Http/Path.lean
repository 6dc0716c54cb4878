import IdleStop.Text.Parts
/-!
# Paths of addresses

A path is a row of segments. One dot as a segment means the segments before
it, two dots mean those without the last one, and either dot may be written
as an escape. A path that ends in dots ends in an empty segment.

A segment that looks like the letter of a drive is never taken back.
-/

namespace IdleStop

namespace Http

namespace Path

/-- Whether a segment means the segments before it. -/
def isDot (segment : List Char) : Bool :=
  [".", "%2e"].contains (String.ofList (segment.map Char.toLower))

/-- Whether a segment means the segments before it without the last one. -/
def isDoubleDot (segment : List Char) : Bool :=
  ["..", ".%2e", "%2e.", "%2e%2e"].contains (String.ofList (segment.map Char.toLower))

/-- Whether a text is the letter of a drive. -/
def isDrive : List Char → Bool
  | [letter, mark] => letter.isAlpha && (mark = ':' || mark = '|')
  | _ => false

/-- Whether a segment looks like the letter of a drive. -/
def isDriveLike (segment : List Char) : Bool :=
  isDrive (segment.take 2) &&
    match segment.drop 2 with
    | [] => true
    | c :: _ => c = '\\'

/-- Segments, last one first, without the last one. -/
def up : List (List Char) → List (List Char)
  | [] => []
  | segment :: before => if isDriveLike segment then segment :: before else before

/-- Segments, last one first, after another one. -/
def step (before : List (List Char)) (segment : List Char) : List (List Char) :=
  if isDot segment then before
  else if isDoubleDot segment then up before
  else segment :: before

/-- The segments that a row of segments means. -/
def resolve (segments : List (List Char)) : List (List Char) :=
  match segments.getLast? with
  | none => []
  | some last =>
    let before := segments.foldl step []
    (if isDot last || isDoubleDot last then [] :: before else before).reverse

/-- The segments of a file's path, and whether they begin with a drive. The
letter of a drive has a colon after it, and no empty segments stand in
front. -/
def ofFile (segments : List (List Char)) : List (List Char) × Bool :=
  match resolve segments with
  | first :: further =>
    if isDrive first then ((first.take 1 ++ [':']) :: further, true)
    else
      match (first :: further).dropWhile (·.isEmpty) with
      | [] => ([[]], false)
      | kept => (kept, false)
  | [] => ([[]], false)

/-- A path in writing. -/
def text (segments : List (List Char)) : List Char :=
  '/' :: joined ['/'] segments

end Path

end Http

end IdleStop
