import IdleStop.CommandLine.Arguments
import IdleStop.Proofs.Text.Numeral
/-!
# How command lines are spelled

A command line gives items: switches, and parameters with their values. The grammar says
which items a list of arguments spells, and `Gives` what the items come to: each flag is
given once at most, and each value is one of its parameter. So a command line asks for
help, for the version or for a check with certain arguments (`Asks`), or it is wrong.
Nothing here refers to how arguments are read.
-/

namespace IdleStop

namespace CommandLine

/-- What a command line gives. -/
inductive Item
  | switch (s : Switch)
  | parameter (p : Parameter) (value : String)
  deriving DecidableEq

/-- The flag of an item. -/
def Item.flag : Item → Flag
  | switch s => .switch s
  | parameter p _ => .parameter p

/-! ## Arguments -/

/-- An argument that may stand as a value by itself: a hyphen, or a text that does not
begin with one. -/
def IsOperand (argument : String) : Prop :=
  argument = "-" ∨ argument.toList.head? ≠ some '-'

/-- What comes after an argument. -/
inductive Sequel
  /-- Further arguments. -/
  | further
  /-- The value of a parameter. -/
  | value (p : Parameter)
  /-- Anything, as it does not count any more. -/
  | anything

/-- What comes after a switch: help and the version make everything after them not count. -/
def Switch.sequel : Switch → Sequel
  | .ignoreConnections => .further
  | .help | .version => .anything

/-- Letters behind a hyphen: those of switches, and at the end that of a parameter, with its
value behind it or behind an equals sign. -/
inductive SpellsLetters : List Item → Sequel → List Char → Prop
  | none : SpellsLetters [] .further []
  | switch {s : Switch} {letter : Char} {items : List Item} {sequel : Sequel} {cs : List Char}
      (hs : s.sequel = .further) (hletter : (Flag.switch s).letter? = some letter)
      (h : SpellsLetters items sequel cs) :
    SpellsLetters (.switch s :: items) sequel (letter :: cs)
  | request {s : Switch} {letter : Char} (hs : s.sequel = .anything)
      (hletter : (Flag.switch s).letter? = some letter) (cs : List Char) :
    SpellsLetters [.switch s] .anything (letter :: cs)
  | awaiting {p : Parameter} {letter : Char}
      (hletter : (Flag.parameter p).letter? = some letter) : SpellsLetters [] (.value p) [letter]
  | equals {p : Parameter} {letter : Char} (hletter : (Flag.parameter p).letter? = some letter)
      (value : List Char) :
    SpellsLetters [.parameter p (String.ofList value)] .further (letter :: '=' :: value)
  | attached {p : Parameter} {letter : Char} (hletter : (Flag.parameter p).letter? = some letter)
      {c : Char} (hc : c ≠ '=') (value : List Char) :
    SpellsLetters [.parameter p (String.ofList (c :: value))] .further (letter :: c :: value)

/-- An argument that gives items: letters behind a hyphen, at least one of them, or a long
name behind two. -/
inductive SpellsArgument : List Item → Sequel → List Char → Prop
  | letters {items : List Item} {sequel : Sequel} {c : Char} {cs : List Char}
      (h : SpellsLetters items sequel (c :: cs)) : SpellsArgument items sequel ('-' :: c :: cs)
  | switch (s : Switch) : SpellsArgument [.switch s] s.sequel ('-' :: '-' :: s.name.toList)
  | awaiting (p : Parameter) : SpellsArgument [] (.value p) ('-' :: '-' :: p.name.toList)
  | equals (p : Parameter) (value : List Char) :
    SpellsArgument [.parameter p (String.ofList value)] .further
      ('-' :: '-' :: (p.name.toList ++ '=' :: value))

/-- A list of arguments. Two hyphens may stand at its end. -/
inductive Spells : List Item → List String → Prop
  | none : Spells [] []
  | hyphens : Spells [] ["--"]
  | further {items more : List Item} {argument : String} {arguments : List String}
      (h : SpellsArgument items .further argument.toList) (hmore : Spells more arguments) :
    Spells (items ++ more) (argument :: arguments)
  | value {items more : List Item} {p : Parameter} {argument value : String}
      {arguments : List String} (h : SpellsArgument items (.value p) argument.toList)
      (hvalue : IsOperand value) (hmore : Spells more arguments) :
    Spells (items ++ .parameter p value :: more) (argument :: value :: arguments)
  | anything {items : List Item} {argument : String}
      (h : SpellsArgument items .anything argument.toList) (arguments : List String) :
    Spells items (argument :: arguments)

/-! ## What items come to -/

/-- A parameter has a value, as the text writes it: the idle time is a natural number, the
port a whole number from 0 to 65535, and a path is not empty. -/
def Given.Holds (g : Given) : Parameter → String → Prop
  | .time, value => ∃ n, g.minutes = some n ∧
      Numeral.SpellsNatural n value.toList ∧ n ≤ Numeral.maxUnsigned
  | .port, value => ∃ n, g.port = some n ∧ Numeral.SpellsInteger n.toNat value.toList
  | .config, value => g.config = some value ∧ value ≠ ""
  | .logLevel, value => g.logLevel = some value

/-- Neither help nor the version is among the items. -/
def IsCheck (items : List Item) : Prop :=
  ∀ s, .switch s ∈ items → s = .ignoreConnections

/-- Items give what is given: no flag twice, neither help nor the version, each parameter
the value beside it and no other parameter any, and clients are ignored just if the switch
for it is there. -/
structure Gives (items : List Item) (g : Given) : Prop where
  distinct : (items.map Item.flag).Nodup
  isCheck : IsCheck items
  holds : ∀ p value, .parameter p value ∈ items → g.Holds p value
  lacks : ∀ p, .parameter p ∉ items.map Item.flag → g.has p = false
  ignoreConnections : g.ignoreConnections = true ↔ .switch .ignoreConnections ∈ items

/-- What a command line asks for. Help and the version are asked for where nothing in front
of them is wrong, whatever comes after them. A check has an idle time and, unless it is
given, the log level `info`. -/
inductive Asks (arguments : List String) : Request → Prop
  | help {items : List Item} {g : Given} (h : Spells (items ++ [.switch .help]) arguments)
      (hitems : Gives items g) : Asks arguments .help
  | version {items : List Item} {g : Given} (h : Spells (items ++ [.switch .version]) arguments)
      (hitems : Gives items g) : Asks arguments .version
  | check {items : List Item} {minutes : Nat} {port : Option UInt16} {ignoreConnections : Bool}
      {config logLevel : Option String} (h : Spells items arguments)
      (hitems : Gives items ⟨some minutes, port, ignoreConnections, config, logLevel⟩) :
    Asks arguments (.check ⟨minutes, port, ignoreConnections, config, logLevel.getD "info"⟩)

end CommandLine

end IdleStop
