import IdleStop.Toml.Table
import IdleStop.Toml.Token
/-!
# TOML statements

A document is a row of statements, each on lines of its own: headers, which
name a table, and assignments. They are read from tokens by a machine whose
state says what may come next, inside which open brackets and braces
(`Reading`, `Frame`).

Inside brackets and braces lines may end anywhere between the parts, and a
comma may stand after the last one. Brackets, braces and the parts of keys
nest no deeper than `maxDepth`.
-/

namespace IdleStop

namespace Toml

/-- A statement of a document. -/
inductive Statement
  /-- `[path]` -/
  | header (path : Path)
  /-- `[[path]]` -/
  | repeatedHeader (path : Path)
  /-- `path = value` -/
  | assignment (path : Path) (v : Value)

/-- What a value under construction is part of. -/
inductive Frame
  /-- The assignment to a path. -/
  | assignment (path : Path)
  /-- An array, with the items so far, last one first. -/
  | array (items : List Value)
  /-- A table in braces, with the members so far, at a path in it. -/
  | table (members : Members) (path : Path)

/-- What a key is part of. -/
inductive KeyPlace
  | header
  | repeatedHeader
  | assignment
  /-- A table in braces, with the members so far. -/
  | table (members : Members) (frames : List Frame)

/-- What has been read of a statement. Frames are held innermost first, the
parts of a key last one first. -/
inductive Reading
  /-- Nothing. -/
  | lineStart
  /-- All of it. -/
  | lineEnd
  /-- The bracket of a header. -/
  | bracket
  /-- A key up to a part to come. -/
  | key (place : KeyPlace) (parents : List String)
  /-- A key up to the end of a part. -/
  | keyPart (place : KeyPlace) (parents : List String) (name : String)
  /-- A key in braces and the end of its line. -/
  | keyLine (members : Members) (frames : List Frame) (path : Path)
  /-- A repeated header up to the first closing bracket. -/
  | closing (path : Path)
  /-- Everything up to a value. -/
  | value (frames : List Frame)
  /-- A value without quotes, so far. -/
  | plain (text : List Char) (frames : List Frame)
  /-- The same, and space after it. -/
  | plainSpace (text space : List Char) (frames : List Frame)
  /-- An array up to an item or its end. -/
  | item (items : List Value) (frames : List Frame)
  /-- An array up to the end of an item. -/
  | itemEnd (items : List Value) (frames : List Frame)
  /-- A table in braces up to a key or its end. -/
  | member (members : Members) (frames : List Frame)
  /-- A table in braces up to the end of a value. -/
  | memberEnd (members : Members) (frames : List Frame)

/-- The statements that a token completes, and what has been read of the
next one. -/
abbrev Progress := List Statement × Reading

/-- How deep brackets, braces and the parts of keys may nest. -/
def maxDepth : Nat := 80

/-- Whether a character may stand in a key without quotes. -/
def isKeyChar (c : Char) : Bool :=
  c.isAlphanum || c = '-' || c = '_'

namespace Reading

/-- Goes on reading without completing a statement. -/
def goOn (r : Reading) : Option Progress :=
  some ([], r)

/-- A value where it belongs. -/
def placed (v : Value) : List Frame → Option Progress
  | [.assignment path] => some ([.assignment path v], lineEnd)
  | .array items :: frames => goOn (itemEnd (v :: items) frames)
  | .table ms path :: frames => do
    let ms ← ms.assign path.name v path.parents
    goOn (memberEnd ms frames)
  | _ => none

/-- A value without quotes where it belongs. -/
def placedPlain (text : List Char) (frames : List Frame) : Option Progress := do
  placed (.scalar (← Scalar.ofChars? text)) frames

/-- Goes on inside a bracket or brace, unless it is too deep. -/
def nested (r : Reading) (outer : List Frame) : Option Progress :=
  if outer.length ≤ maxDepth then goOn r else none

/-- Takes a token that begins a value. -/
def startValue (frames : List Frame) : Token → Option Progress
  | .atom text => goOn (plain text frames)
  | .dot => goOn (plain ['.'] frames)
  | .string _ text => placed (.scalar (.string (String.ofList text))) frames
  | .openBracket => nested (item [] frames) frames
  | .openBrace => nested (member [] frames) frames
  | _ => none

/-- Takes a token that is part of a key. -/
def startKey (place : KeyPlace) (parents : List String) : Token → Option Progress
  | .atom text =>
    if text.all isKeyChar then goOn (keyPart place parents (String.ofList text)) else none
  | .string false text => goOn (keyPart place parents (String.ofList text))
  | _ => none

/-- The path of a key whose parts are read. -/
def pathOf (parents : List String) (name : String) : Path :=
  ⟨parents.reverse, name⟩

/-- Takes a token after a key, other than a dot. -/
def endKey (place : KeyPlace) (path : Path) : Token → Option Progress
  | .equals =>
    match place with
    | .assignment => goOn (value [.assignment path])
    | .table ms frames => goOn (value (.table ms path :: frames))
    | _ => none
  | .closeBracket =>
    match place with
    | .header => some ([.header path], lineEnd)
    | .repeatedHeader => goOn (closing path)
    | _ => none
  | .newline =>
    match place with
    | .table ms frames => goOn (keyLine ms frames path)
    | _ => none
  | _ => none

/-- Takes a token that is not part of a value without quotes. -/
def stepBetween : Reading → Token → Option Progress
  | lineStart, .newline => goOn lineStart
  | lineStart, .space _ => goOn lineStart
  | lineStart, .openBracket => goOn bracket
  | lineStart, t => startKey .assignment [] t
  | lineEnd, .newline => goOn lineStart
  | lineEnd, .space _ => goOn lineEnd
  | bracket, .openBracket => goOn (key .repeatedHeader [])
  | bracket, .space _ => goOn (key .header [])
  | bracket, t => startKey .header [] t
  | key place parents, .space _ => goOn (key place parents)
  | key place parents, t => startKey place parents t
  | keyPart place parents name, .space _ => goOn (keyPart place parents name)
  | keyPart place parents name, .dot =>
    if parents.length + 1 < maxDepth then goOn (key place (name :: parents)) else none
  | keyPart place parents name, t => endKey place (pathOf parents name) t
  | keyLine ms frames path, .newline => goOn (keyLine ms frames path)
  | keyLine ms frames path, .space _ => goOn (keyLine ms frames path)
  | keyLine ms frames path, .equals => goOn (value (.table ms path :: frames))
  | closing path, .closeBracket => some ([.repeatedHeader path], lineEnd)
  | value frames, .space _ => goOn (value frames)
  | value frames, .newline => if frames.length = 1 then none else goOn (value frames)
  | value frames, t => startValue frames t
  | item items frames, .newline => goOn (item items frames)
  | item items frames, .space _ => goOn (item items frames)
  | item items frames, .closeBracket => placed (.array items.reverse) frames
  | item items frames, t => startValue (.array items :: frames) t
  | itemEnd items frames, .newline => goOn (itemEnd items frames)
  | itemEnd items frames, .space _ => goOn (itemEnd items frames)
  | itemEnd items frames, .comma => goOn (item items frames)
  | itemEnd items frames, .closeBracket => placed (.array items.reverse) frames
  | member ms frames, .newline => goOn (member ms frames)
  | member ms frames, .space _ => goOn (member ms frames)
  | member ms frames, .closeBrace => placed (.table .braces ms) frames
  | member ms frames, t => startKey (.table ms frames) [] t
  | memberEnd ms frames, .newline => goOn (memberEnd ms frames)
  | memberEnd ms frames, .space _ => goOn (memberEnd ms frames)
  | memberEnd ms frames, .comma => goOn (member ms frames)
  | memberEnd ms frames, .closeBrace => placed (.table .braces ms) frames
  | _, _ => none

/-- Completes a value without quotes, and takes the token after it. -/
def stepAfter (text : List Char) (frames : List Frame) (t : Token) : Option Progress := do
  let (complete, reading) ← placedPlain text frames
  let (further, reading) ← stepBetween reading t
  return (complete ++ further, reading)

/-- Takes one token. One space may join the parts of a value without
quotes, a date and a time. -/
def step : Reading → Token → Option Progress
  | plain text frames, .atom more => goOn (plain (text ++ more) frames)
  | plain text frames, .dot => goOn (plain (text ++ ['.']) frames)
  | plain text frames, .space space => goOn (plainSpace text space frames)
  | plain text frames, t => stepAfter text frames t
  | plainSpace text space frames, .atom more => goOn (plain (text ++ space ++ more) frames)
  | plainSpace text _ frames, t => stepAfter text frames t
  | r, t => stepBetween r t

/-- The statements that the end of the document completes. -/
def finish : Reading → Option (List Statement)
  | lineStart | lineEnd => some []
  | plain text frames | plainSpace text _ frames => do
    match ← placedPlain text frames with
    | (complete, lineEnd) => return complete
    | _ => none
  | _ => none

end Reading

namespace Statement

/-- The statements of a row of tokens, when some of the first one has been
read. -/
def listFrom (r : Reading) : List Token → Option (List Statement)
  | [] => r.finish
  | t :: ts =>
    match r.step t with
    | none => none
    | some (complete, r) => (listFrom r ts).map (complete ++ ·)

/-- The statements of a row of tokens. -/
def listOf? (ts : List Token) : Option (List Statement) :=
  listFrom .lineStart ts

end Statement

end Toml

end IdleStop
