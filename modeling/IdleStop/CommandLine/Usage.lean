import IdleStop.CommandLine.Flag
import IdleStop.Text.Terminal
/-!
# Usage

What the program says of itself: its version, its flags, and what is wrong
with a command line.
-/

namespace IdleStop

namespace CommandLine

/-- The name of the program. -/
def programName : String := "notebook-autostop"

/-- The version of the program. -/
def programVersion : String := "0.1.0"

/-- How the program is called. -/
def usageLine : String :=
  "Usage: " ++ programName ++ " [OPTIONS] " ++ Parameter.time.shown

/-- The left column of the description of a flag. -/
def Flag.heading (f : Flag) : String :=
  (match f.letter? with
    | some c => "  -" ++ c.toString ++ ", "
    | none => "      ") ++ f.shown

/-- The width of the left column. -/
def headingWidth : Nat :=
  (Flag.all.map fun f => f.heading.length).foldl max 0

/-- The description of a flag. -/
def Flag.row (f : Flag) : String :=
  f.heading.pushn ' ' (headingWidth - f.heading.length) ++ "  " ++ f.purpose

/-- The description of the program. -/
def helpText : List String :=
  ["Stop this notebook instance once its kernels and terminals are idle", "", usageLine, "",
    "Options:"] ++ Flag.all.map Flag.row

/-- Name and version of the program. -/
def versionText : List String :=
  [programName ++ " " ++ programVersion]

/-- What is wrong with the value of a parameter. -/
inductive ValueFault
  | numeral (fault : NumeralFault)
  /-- It is no port. -/
  | noPort (i : Int)
  deriving DecidableEq, Repr

/-- What is wrong with the value of a parameter, in words. -/
def ValueFault.message : ValueFault → String
  | numeral fault => fault.message
  | noPort i => toString i ++ " is not in 0..=65535"

/-- What is wrong with a command line. -/
inductive UsageFault
  /-- No flag is called so, or nothing is expected there. -/
  | unexpected (argument : String)
  /-- A value for a flag that takes none. -/
  | unneeded (s : Switch) (value : String)
  /-- No value for a flag that takes one. -/
  | valueMissing (p : Parameter)
  | repeated (f : Flag)
  | badValue (p : Parameter) (value : String) (fault : ValueFault)
  /-- A parameter that has to be there is not. -/
  | missing (p : Parameter)
  deriving DecidableEq, Repr

/-- What is wrong with a command line, in words. What it quotes of the
command line is plain text. -/
def UsageFault.message : UsageFault → String
  | unexpected argument => "unexpected argument '" ++ plain argument ++ "' found"
  | unneeded s value =>
    "unexpected value '" ++ plain value ++ "' for '" ++ s.shown ++ "' found; no more were expected"
  | valueMissing p => "a value is required for '" ++ p.shown ++ "' but none was supplied"
  | repeated f => "the argument '" ++ f.shown ++ "' cannot be used multiple times"
  | badValue p value fault =>
    "invalid value '" ++ plain value ++ "' for '" ++ p.shown ++ "': " ++ fault.message
  | missing p => "the following required arguments were not provided:\n  " ++ p.shown

end CommandLine

end IdleStop
