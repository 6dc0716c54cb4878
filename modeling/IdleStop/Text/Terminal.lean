/-!
# Text for a terminal

Terminals take some characters as controls: those that stand alone, and
sequences that an escape character begins. Text that comes from outside is
shown without them, or in a log by their code points, so that it cannot act
on the terminal.

A sequence ends with its last character, or when another escape character or
a cancelling character breaks it off. White space inside a sequence is shown,
and so is what follows it, until the next control; then the sequence goes on
(`Stage`, `visible`).
-/

namespace IdleStop

namespace Terminal

/-- How far a control sequence has been read. -/
inductive Stage
  /-- There is none. -/
  | ground
  /-- The escape character. -/
  | escape
  /-- The escape character and some punctuation. -/
  | escapeFurther
  /-- A control sequence proper, which a letter or sign ends. -/
  | control
  /-- The opening of a device control string. -/
  | deviceEntry
  /-- The same, with parameters. -/
  | deviceParameters
  /-- The same, with punctuation after them. -/
  | deviceFurther
  /-- The data of a device control string. -/
  | deviceData
  /-- A command for the operating system, which a bell ends. -/
  | systemCommand
  /-- A string that means nothing here. -/
  | message
  deriving DecidableEq, Repr

/-- The escape character. -/
def escapeChar : Char := '\x1b'

/-- Whether a character breaks a sequence off. -/
def isCancel (c : Char) : Bool :=
  c = '\x18' || c = '\x1a'

/-- Whether a character is white space of ASCII other than the space. -/
def isLayout (c : Char) : Bool :=
  c = '\t' || c = '\n' || c = '\x0c' || c = '\r'

/-- Whether a character of ASCII is shown where there is no sequence. -/
def isShown (c : Char) : Bool :=
  isLayout c || (0x20 ≤ c.toNat && c.toNat < 0x7f)

/-- Whether a character is beyond ASCII. -/
def isWide (c : Char) : Bool :=
  0x80 ≤ c.toNat

/-- Whether a character is from one code point to another. -/
def isWithin (first last : Nat) (c : Char) : Bool :=
  first ≤ c.toNat && c.toNat ≤ last

namespace Stage

/-- Whether white space inside the sequence is shown. -/
def showsLayout : Stage → Bool
  | ground | escape | escapeFurther | control => true
  | _ => false

/-- The stage after a character of ASCII that neither begins nor breaks off a
sequence. -/
def further (s : Stage) (c : Char) : Stage :=
  match s with
  | ground => ground
  | escape =>
    if c = '[' then control
    else if c = ']' then systemCommand
    else if c = 'P' then deviceEntry
    else if c = 'X' || c = '^' || c = '_' then message
    else if isWithin 0x20 0x2f c then escapeFurther
    else if isWithin 0x30 0x7e c then ground
    else escape
  | escapeFurther => if isWithin 0x30 0x7e c then ground else escapeFurther
  | control => if isWithin 0x40 0x7e c then ground else control
  | deviceEntry =>
    if isWithin 0x20 0x2f c then deviceFurther
    else if isWithin 0x30 0x3f c then deviceParameters
    else if isWithin 0x40 0x7e c then deviceData
    else deviceEntry
  | deviceParameters =>
    if isWithin 0x20 0x2f c then deviceFurther
    else if isWithin 0x3c 0x7e c then deviceData
    else deviceParameters
  | deviceFurther => if isWithin 0x30 0x7e c then deviceData else deviceFurther
  | deviceData => deviceData
  | systemCommand => if c = '\x07' then ground else systemCommand
  | message => message

/-- The stage after a character of ASCII. -/
def step (s : Stage) (c : Char) : Stage :=
  if c = escapeChar then .escape else if isCancel c then ground else s.further c

/-- The stage after a character beyond ASCII. Data and messages end at the
byte that is a terminator by itself, wherever it stands. -/
def stepWide (s : Stage) (c : Char) : Stage :=
  match s with
  | deviceData | message => if (String.utf8EncodeChar c).contains 0x9c then ground else s
  | _ => s

end Stage

/-- The characters of a text that are shown, when a sequence has been read up
to some stage; `shows` tells whether characters are shown in spite of it. -/
def visibleFrom (s : Stage) (shows : Bool) : List Char → List Char
  | [] => []
  | c :: cs =>
    if shows || s = .ground then
      if isWide c then c :: visibleFrom .ground true cs
      else if isShown c then c :: visibleFrom s true cs
      else visibleFrom (s.step c) false cs
    else if isWide c then visibleFrom (s.stepWide c) false cs
    else if isLayout c && s.showsLayout then c :: visibleFrom s true cs
    else visibleFrom (s.step c) false cs

/-- The characters of a text that are shown. -/
def visible (cs : List Char) : List Char :=
  visibleFrom .ground true cs

/-- The form in which a log shows a character: controls that a terminal acts
on are written by their code points. -/
def logged (c : Char) : List Char :=
  if c = escapeChar then ['\\', 'x', '1', 'b']
  else if c = '\x07' then ['\\', 'x', '0', '7']
  else if c = '\x08' then ['\\', 'x', '0', '8']
  else if c = '\x0c' then ['\\', 'x', '0', 'c']
  else if c = '\x7f' then ['\\', 'x', '7', 'f']
  else if isWithin 0x80 0x9f c then
    ['\\', 'u', '\x7b'] ++ Nat.toDigits 16 c.toNat ++ ['\x7d']
  else [c]

end Terminal

/-- A text as a terminal may show it. -/
def plain (s : String) : String :=
  String.ofList (Terminal.visible s.toList)

end IdleStop
