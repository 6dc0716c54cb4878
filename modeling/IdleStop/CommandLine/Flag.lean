import IdleStop.Text.Digits
/-!
# Flags

What may be given on the command line: parameters, which take a value, and
switches, which do not. Each has a long name, and most have a letter.
-/

namespace IdleStop

namespace CommandLine

/-- A flag that takes a value. -/
inductive Parameter
  | time
  | port
  | config
  | logLevel
  deriving DecidableEq, Repr

/-- A flag that takes no value. -/
inductive Switch
  | ignoreConnections
  | help
  | version
  deriving DecidableEq, Repr

/-- A flag of either kind. -/
inductive Flag
  | parameter (p : Parameter)
  | switch (s : Switch)
  deriving DecidableEq, Repr

namespace Parameter

/-- The long name. -/
def name : Parameter → String
  | time => "time"
  | port => "port"
  | config => "config"
  | logLevel => "log-level"

/-- What the value is called. -/
def valueName : Parameter → String
  | time => "MINUTES"
  | port => "PORT"
  | config => "CONFIG"
  | logLevel => "LOG_LEVEL"

/-- The parameter as it is shown: its name and what its value is called. -/
def shown (p : Parameter) : String :=
  "--" ++ p.name ++ " <" ++ p.valueName ++ ">"

/-- What the parameter is for. -/
def purpose : Parameter → String
  | time => "Idle time in minutes before the instance is stopped"
  | port => "Jupyter server port (default: 8443)"
  | config => "Path to config file"
  | logLevel => "Log level (trace, debug, info, warn, error) [default: info]"

end Parameter

namespace Switch

/-- The long name. -/
def name : Switch → String
  | ignoreConnections => "ignore-connections"
  | help => "help"
  | version => "version"

/-- What the switch is for. -/
def purpose : Switch → String
  | ignoreConnections => "Stop once idle even if clients are connected"
  | help => "Print help"
  | version => "Print version"

/-- The switch as it is shown. -/
def shown (s : Switch) : String :=
  "--" ++ s.name

end Switch

namespace Flag

/-- All flags, in the order in which they are shown. -/
def all : List Flag :=
  [.parameter .time, .parameter .port, .switch .ignoreConnections, .parameter .config,
    .parameter .logLevel, .switch .help, .switch .version]

/-- The long name. -/
def name : Flag → String
  | parameter p => p.name
  | switch s => s.name

/-- The letter, if there is one. -/
def letter? : Flag → Option Char
  | parameter .time => some 't'
  | parameter .port => some 'p'
  | parameter .config => none
  | parameter .logLevel => none
  | switch .ignoreConnections => some 'c'
  | switch .help => some 'h'
  | switch .version => some 'V'

/-- The flag as it is shown. -/
def shown : Flag → String
  | parameter p => p.shown
  | switch s => s.shown

/-- What the flag is for. -/
def purpose : Flag → String
  | parameter p => p.purpose
  | switch s => s.purpose

/-- The flag with a long name. -/
def ofName? (name : List Char) : Option Flag :=
  all.find? fun f => f.name.toList = name

/-- The flag with a letter. -/
def ofLetter? (c : Char) : Option Flag :=
  all.find? fun f => f.letter? = some c

end Flag

end CommandLine

end IdleStop
