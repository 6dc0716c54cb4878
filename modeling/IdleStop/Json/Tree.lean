import IdleStop.Json.Token
/-!
# JSON trees

A tree is a JSON text less its spelling: members keep their order and may
repeat a key, numbers their digits and strings their code points. Whether
those mean anything is asked only where a tree is read
(`Tree.isReadable`), so a part that nobody reads may hold what it will.

Trees are built from tokens by a machine whose state is the open arrays and
objects, innermost first (`Build`). Every tree has one row of tokens
(`Tree.tokens`).
-/

namespace IdleStop

namespace Json

/-- A JSON value as written. -/
inductive Tree
  | null
  | bool (b : Bool)
  | number (l : Literal)
  | string (units : Units)
  | array (items : List Tree)
  | object (members : List (Units × Tree))
  deriving Inhabited

namespace Tree

mutual

/-- The tokens of a tree. -/
def tokens : Tree → List Token
  | .null => [.null]
  | .bool b => [.bool b]
  | .number l => [.number l]
  | .string us => [.string us]
  | .array ts => .openArray :: itemTokens ts
  | .object ms => .openObject :: memberTokens ms

/-- The tokens of the items of an array and of its end. -/
def itemTokens : List Tree → List Token
  | [] => [.closeArray]
  | t :: ts => t.tokens ++ furtherItemTokens ts

/-- The tokens after an item of an array. -/
def furtherItemTokens : List Tree → List Token
  | [] => [.closeArray]
  | t :: ts => .comma :: (t.tokens ++ furtherItemTokens ts)

/-- The tokens of the members of an object and of its end. -/
def memberTokens : List (Units × Tree) → List Token
  | [] => [.closeObject]
  | (key, t) :: ms => .string key :: .colon :: (t.tokens ++ furtherMemberTokens ms)

/-- The tokens after a member of an object. -/
def furtherMemberTokens : List (Units × Tree) → List Token
  | [] => [.closeObject]
  | (key, t) :: ms => .comma :: .string key :: .colon :: (t.tokens ++ furtherMemberTokens ms)

end

end Tree

/-- An array or object that is still open. What it holds so far is kept
last one first. -/
inductive Frame
  | array (items : List Tree)
  | object (members : List (Units × Tree)) (key : Units)

/-- A tree under construction: what may come next, inside which frames. -/
inductive Build
  /-- A value. -/
  | value (frames : List Frame)
  /-- The first item of an array, or its end. -/
  | item (frames : List Frame)
  /-- The first key of an object, or its end. -/
  | member (frames : List Frame)
  /-- A further key of an object. -/
  | key (members : List (Units × Tree)) (frames : List Frame)
  /-- The colon after a key. -/
  | colon (members : List (Units × Tree)) (key : Units) (frames : List Frame)
  /-- Whatever may follow a value. -/
  | after (t : Tree) (frames : List Frame)

namespace Build

/-- Begins a value. -/
def start (frames : List Frame) : Token → Option Build
  | .null => some (after .null frames)
  | .bool b => some (after (.bool b) frames)
  | .number l => some (after (.number l) frames)
  | .string us => some (after (.string us) frames)
  | .openArray => some (item frames)
  | .openObject => some (member frames)
  | .closeArray | .closeObject | .colon | .comma => none

/-- Takes one token. -/
def step : Build → Token → Option Build
  | value frames, token => start frames token
  | item frames, .closeArray => some (after (.array []) frames)
  | item frames, token => start (.array [] :: frames) token
  | member frames, .closeObject => some (after (.object []) frames)
  | member frames, .string us => some (colon [] us frames)
  | key ms frames, .string us => some (colon ms us frames)
  | colon ms us frames, .colon => some (value (.object ms us :: frames))
  | after t (.array ts :: frames), .comma => some (value (.array (t :: ts) :: frames))
  | after t (.array ts :: frames), .closeArray => some (after (.array (t :: ts).reverse) frames)
  | after t (.object ms us :: frames), .comma => some (key ((us, t) :: ms) frames)
  | after t (.object ms us :: frames), .closeObject =>
    some (after (.object ((us, t) :: ms).reverse) frames)
  | _, _ => none

/-- The tree, if it is complete. -/
def tree? : Build → Option Tree
  | after t [] => some t
  | _ => none

end Build

namespace Tree

/-- The tree that a row of tokens writes. -/
def ofTokens? (ts : List Token) : Option Tree :=
  (ts.foldlM Build.step (.value [])).bind Build.tree?

/-- The tree that a text writes. -/
def parse? (s : String) : Option Tree :=
  (Token.scan? s.toList).bind ofTokens?

mutual

/-- How many arrays and objects are nested within each other. -/
def depth : Tree → Nat
  | .array ts => itemsDepth ts + 1
  | .object ms => membersDepth ms + 1
  | _ => 0

/-- The greatest depth of a row of trees. -/
def itemsDepth : List Tree → Nat
  | [] => 0
  | t :: ts => max t.depth (itemsDepth ts)

/-- The greatest depth of the values of a row of members. -/
def membersDepth : List (Units × Tree) → Nat
  | [] => 0
  | (_, t) :: ms => max t.depth (membersDepth ms)

end

mutual

/-- Whether every number of a tree has a value and every string and key is
text. -/
def isMeaningful : Tree → Bool
  | .null | .bool _ => true
  | .number l => (Number.ofLiteral? l).isSome
  | .string us => us.chars?.isSome
  | .array ts => itemsMeaningful ts
  | .object ms => membersMeaningful ms

/-- Whether each of a row of trees is meaningful. -/
def itemsMeaningful : List Tree → Bool
  | [] => true
  | t :: ts => t.isMeaningful && itemsMeaningful ts

/-- Whether each of a row of members is meaningful. -/
def membersMeaningful : List (Units × Tree) → Bool
  | [] => true
  | (key, t) :: ms => key.chars?.isSome && t.isMeaningful && membersMeaningful ms

end

/-- The greatest depth that is read. -/
def maxDepth : Nat := 127

/-- Whether a tree can be read as a whole. -/
def isReadable (t : Tree) : Bool :=
  t.depth ≤ maxDepth && t.isMeaningful

/-- The text of a string. -/
def text? : Tree → Option String
  | .string us => us.text?
  | _ => none

/-- The value of the last member of an object that has this key. -/
def lookup? (key : String) : Tree → Option Tree
  | .object ms => (ms.reverse.find? fun (us, _) => us.text? = some key).map Prod.snd
  | _ => none

end Tree

end Json

end IdleStop
