import IdleStop.Text.Digits
/-!
# TOML tokens

A text is split into tokens one character at a time, as for JSON: what has
been read of an unfinished token is the state of the scan. Strings come out
as the characters they stand for. Everything else that is neither
punctuation nor space is an atom, to be understood where it stands. Comments
leave no token, but what they hold is checked.

A carriage return stands only before a line feed, and other control
characters only where they are escaped.
-/

namespace IdleStop

namespace Toml

/-- A token of TOML. -/
inductive Token
  | dot
  | equals
  | comma
  | openBracket
  | closeBracket
  | openBrace
  | closeBrace
  | space (text : List Char)
  | newline
  /-- A run of other characters. -/
  | atom (text : List Char)
  /-- A string, on one line or on several. -/
  | string (multiline : Bool) (text : List Char)
  deriving DecidableEq, Repr

/-- How a string is quoted. -/
inductive Quote
  /-- Between double quotes, with escapes. -/
  | basic
  /-- Between single quotes, as it stands. -/
  | literal
  deriving DecidableEq, Repr

/-- The character that quotes. -/
def Quote.char : Quote → Char
  | basic => '"'
  | literal => '\x27'

/-- An unfinished token. Texts are held last character first. -/
inductive Scan
  /-- No token has begun. -/
  | blank
  /-- A carriage return outside strings. -/
  | carriage
  | comment
  | space (text : List Char)
  | atom (text : List Char)
  /-- One or two quotes. -/
  | opened (q : Quote) (second : Bool)
  /-- A string on one line. -/
  | line (q : Quote) (text : List Char)
  /-- Three quotes, which a newline may follow that does not count; after a
  carriage return or not. -/
  | blockStart (q : Quote) (broken : Bool)
  /-- A string on several lines, ending in so many quotes. -/
  | block (q : Quote) (text : List Char) (quotes : Nat)
  /-- A string on several lines after a carriage return. -/
  | blockCarriage (q : Quote) (text : List Char)
  /-- A backslash in a basic string. -/
  | escape (multiline : Bool) (text : List Char)
  /-- A code point in a basic string: the digits still to come, and the
  value of those read. -/
  | hex (multiline : Bool) (text : List Char) (left : Nat) (value : Nat)
  /-- A backslash that joins lines, before or after the newline. -/
  | fold (text : List Char) (newline : Bool)
  /-- The same after a carriage return. -/
  | foldCarriage (text : List Char)
  deriving Repr

namespace Scan

/-- Whether a character is a space or a tab. -/
def isSpace (c : Char) : Bool :=
  c = ' ' || c = '\t'

/-- Whether a character may stand in comments and strings as it is. -/
def isPlain (c : Char) : Bool :=
  c = '\t' || (0x20 ≤ c.toNat && c.toNat != 0x7f)

/-- The character that a backslash and one letter stand for. -/
def escaped? (c : Char) : Option Char :=
  match c with
  | '"' => some '"'
  | '\\' => some '\\'
  | 'b' => some '\x08'
  | 't' => some '\t'
  | 'n' => some '\n'
  | 'f' => some '\x0c'
  | 'r' => some '\r'
  | 'e' => some '\x1b'
  | _ => none

/-- How many hexadecimal digits follow a backslash and this letter. -/
def hexLength? (c : Char) : Option Nat :=
  match c with
  | 'x' => some 2
  | 'u' => some 4
  | 'U' => some 8
  | _ => none

/-- The character with a code point, if there is one. -/
def ofCodePoint? (n : Nat) : Option Char :=
  if n < 0xd800 ∨ (0xdfff < n ∧ n < 0x110000) then some (Char.ofNat n) else none

/-- A string in the middle of its text. -/
def inside (multiline : Bool) (text : List Char) : Scan :=
  if multiline then block .basic text 0 else line .basic text

/-- Begins a token: the tokens that one character finishes, and the token
it leaves unfinished. -/
def start (c : Char) : Option (List Token × Scan) :=
  match c with
  | '.' => some ([.dot], blank)
  | '=' => some ([.equals], blank)
  | ',' => some ([.comma], blank)
  | '[' => some ([.openBracket], blank)
  | ']' => some ([.closeBracket], blank)
  | '\x7b' => some ([.openBrace], blank)
  | '\x7d' => some ([.closeBrace], blank)
  | '\n' => some ([.newline], blank)
  | '\r' => some ([], carriage)
  | '#' => some ([], comment)
  | '"' => some ([], opened .basic false)
  | '\x27' => some ([], opened .literal false)
  | _ =>
    if isSpace c then some ([], space [c])
    else if isPlain c then some ([], atom [c])
    else none

/-- Ends a token and begins another. -/
def startAfter (token : Token) (c : Char) : Option (List Token × Scan) :=
  (start c).map fun (tokens, scan) => (token :: tokens, scan)

/-- Whether a character may stand in an atom. -/
def isAtomChar (c : Char) : Bool :=
  isPlain c && !isSpace c && !(".=,[]\x7b\x7d#\"\x27".toList.contains c)

/-- Takes a character of a string on several lines that is not its quote. -/
def blockChar (q : Quote) (text : List Char) (c : Char) : Option Scan :=
  if c = '\n' then some (block q ('\n' :: text) 0)
  else if c = '\r' then some (blockCarriage q text)
  else if q = .basic ∧ c = '\\' then some (escape true text)
  else if isPlain c then some (block q (c :: text) 0)
  else none

/-- The text of a string on several lines without the three quotes that
close it. -/
def closed (q : Quote) (text : List Char) (quotes : Nat) : Token :=
  .string true (text.reverse ++ List.replicate (quotes - 3) q.char)

/-- Reads one character: the tokens it finishes, and the token it leaves
unfinished. -/
def step (c : Char) : Scan → Option (List Token × Scan)
  | blank => start c
  | carriage => if c = '\n' then some ([.newline], blank) else none
  | comment =>
    if c = '\n' ∨ c = '\r' then start c
    else if isPlain c then some ([], comment)
    else none
  | space text =>
    if isSpace c then some ([], space (c :: text)) else startAfter (.space text.reverse) c
  | atom text =>
    if isAtomChar c then some ([], atom (c :: text)) else startAfter (.atom text.reverse) c
  | opened q second =>
    if c = q.char then some ([], if second then blockStart q false else opened q true)
    else if second then startAfter (.string false []) c
    else if q = .basic ∧ c = '\\' then some ([], escape false [])
    else if isPlain c then some ([], line q [c])
    else none
  | line q text =>
    if c = q.char then some ([.string false text.reverse], blank)
    else if q = .basic ∧ c = '\\' then some ([], escape false text)
    else if isPlain c then some ([], line q (c :: text))
    else none
  | blockStart q broken =>
    if c = '\n' then some ([], block q [] 0)
    else if broken then none
    else if c = '\r' then some ([], blockStart q true)
    else if c = q.char then some ([], block q [] 1)
    else (blockChar q [] c).map fun scan => ([], scan)
  | block q text quotes =>
    if c = q.char ∧ quotes < 5 then some ([], block q text (quotes + 1))
    else if 3 ≤ quotes then startAfter (closed q text quotes) c
    else (blockChar q (List.replicate quotes q.char ++ text) c).map fun scan => ([], scan)
  | blockCarriage q text =>
    if c = '\n' then some ([], block q ('\n' :: '\r' :: text) 0) else none
  | escape multiline text =>
    match escaped? c, hexLength? c with
    | some e, _ => some ([], inside multiline (e :: text))
    | none, some n => some ([], hex multiline text n 0)
    | none, none =>
      if multiline then
        if c = '\n' then some ([], fold text true)
        else if c = '\r' then some ([], foldCarriage text)
        else if isSpace c then some ([], fold text false)
        else none
      else none
  | hex multiline text left value => do
    let value := 16 * value + (← Digits.hexValue? c)
    if left ≤ 1 then
      let e ← ofCodePoint? value
      return ([], inside multiline (e :: text))
    else return ([], hex multiline text (left - 1) value)
  | fold text newline =>
    if c = '\n' then some ([], fold text true)
    else if c = '\r' then some ([], foldCarriage text)
    else if isSpace c then some ([], fold text newline)
    else if newline then
      if c = Quote.basic.char then some ([], block .basic text 1)
      else (blockChar .basic text c).map fun scan => ([], scan)
    else none
  | foldCarriage text => if c = '\n' then some ([], fold text true) else none

/-- The tokens that the end of the text finishes. -/
def finish : Scan → Option (List Token)
  | blank | comment => some []
  | space text => some [.space text.reverse]
  | atom text => some [.atom text.reverse]
  | opened _ true => some [.string false []]
  | block q text quotes => if 3 ≤ quotes then some [closed q text quotes] else none
  | _ => none

end Scan

namespace Token

/-- The tokens of a text whose first token is already begun. -/
def scanFrom (scan : Scan) : List Char → Option (List Token)
  | [] => scan.finish
  | c :: cs =>
    match scan.step c with
    | none => none
    | some (tokens, scan) => (tokens ++ ·) <$> scanFrom scan cs

/-- The tokens of a text. A byte order mark in front of it does not count. -/
def scan? : List Char → Option (List Token)
  | '\uFEFF' :: cs => scanFrom .blank cs
  | cs => scanFrom .blank cs

end Token

end Toml

end IdleStop
