/-!
# Log lines

A log line has a level and a source, the part of the program that writes it.
A limit lets through the levels from the gravest down to some level.
-/

namespace IdleStop

/-- The levels of log lines, gravest first. -/
inductive LogLevel
  | error
  | warn
  | info
  | debug
  | trace
  deriving DecidableEq, Repr

namespace LogLevel

/-- The place of a level, from 1 for the gravest. -/
def rank : LogLevel → Nat
  | error => 1
  | warn => 2
  | info => 3
  | debug => 4
  | trace => 5

/-- The name of a level. -/
def name : LogLevel → String
  | error => "ERROR"
  | warn => "WARN"
  | info => "INFO"
  | debug => "DEBUG"
  | trace => "TRACE"

end LogLevel

/-- The parts of the program that write log lines. -/
inductive LogSource
  | command
  /-- Requests to the notebook server. -/
  | notebook
  /-- The metadata file. -/
  | metadata
  | control
  | collection
  | evaluation
  | check
  deriving DecidableEq, Repr

namespace LogSource

/-- The name of the program among sources. -/
def program : String := "notebook_autostop"

/-- The name of a source: the program, and the part of it behind two
colons. -/
def name : LogSource → String
  | command => program
  | notebook => program ++ "::jupyter"
  | metadata => program ++ "::metadata"
  | control => program ++ "::sagemaker"
  | collection => program ++ "::collector"
  | evaluation => program ++ "::policy"
  | check => program ++ "::runner"

end LogSource

/-- A line of the log. -/
structure LogLine where
  source : LogSource
  level : LogLevel
  text : String
  deriving DecidableEq, Repr

/-- Level and text of a line. -/
def LogLine.shown (line : LogLine) : String :=
  line.level.name ++ " " ++ line.text

/-- The lowest level let through, `none` to let nothing through. -/
abbrev LogLimit := Option LogLevel

namespace LogLimit

/-- The limit with a number: 0 lets nothing through, 5 everything. -/
def ofNumber? : Nat → Option LogLimit
  | 0 => some none
  | 1 => some (some .error)
  | 2 => some (some .warn)
  | 3 => some (some .info)
  | 4 => some (some .debug)
  | 5 => some (some .trace)
  | _ => none

/-- The limit with a name in small letters. -/
def ofName? : String → Option LogLimit
  | "off" => some none
  | "error" => some (some .error)
  | "warn" => some (some .warn)
  | "info" => some (some .info)
  | "debug" => some (some .debug)
  | "trace" => some (some .trace)
  | _ => none

/-- Whether a limit lets a level through. -/
def passes (limit : LogLimit) (level : LogLevel) : Bool :=
  match limit with
  | none => false
  | some lowest => level.rank ≤ lowest.rank

/-- The lines a limit lets through. -/
def select (limit : LogLimit) (lines : List LogLine) : List LogLine :=
  lines.filter fun line => limit.passes line.level

end LogLimit

end IdleStop
