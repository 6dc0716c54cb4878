import IdleStop.CommandLine.Usage
/-!
# Arguments

A command line is read from left to right, and the first thing that is wrong
with it, or the first request for help or the version, ends the reading.

A value may be attached to its flag or follow as an argument of its own. One
that follows is judged only when the next flag that is known begins, or at
the end; until then it is pending. So an argument that is not expected at
all is reported before a pending value.
-/

namespace IdleStop

namespace CommandLine

/-- What a command line asks of a check. -/
structure Arguments where
  /-- The idle time. -/
  minutes : Nat
  port : Option UInt16
  ignoreConnections : Bool
  /-- The settings file. -/
  config : Option String
  logLevel : String
  deriving DecidableEq, Repr

/-- What a command line asks for. -/
inductive Request
  | help
  | version
  | check (a : Arguments)
  deriving DecidableEq, Repr

/-- The flags given up to some argument. -/
structure Given where
  minutes : Option Nat
  port : Option UInt16
  ignoreConnections : Bool
  config : Option String
  logLevel : Option String
  deriving DecidableEq, Repr

/-- What ends the reading of a command line before its end. -/
inductive Halt
  | fault (f : UsageFault)
  | request (r : Request)
  deriving DecidableEq, Repr

namespace Given

/-- No flags. -/
def nothing : Given :=
  ⟨none, none, false, none, none⟩

/-- Whether a parameter has a value. -/
def has (g : Given) : Parameter → Bool
  | .time => g.minutes.isSome
  | .port => g.port.isSome
  | .config => g.config.isSome
  | .logLevel => g.logLevel.isSome

/-- A port number. -/
def portOf (value : String) : Except ValueFault UInt16 :=
  match Numeral.integer Numeral.maxSigned value.toList with
  | .error fault => .error (.numeral fault)
  | .ok i => if 0 ≤ i ∧ i ≤ 65535 then .ok (UInt16.ofNat i.toNat) else .error (.noPort i)

/-- Gives a parameter a value. A path cannot be empty. -/
def assign (g : Given) (p : Parameter) (value : String) : Except UsageFault Given :=
  if g.has p then .error (.repeated (.parameter p))
  else
    match p with
    | .time =>
      match Numeral.natural Numeral.maxUnsigned value.toList with
      | .ok n => .ok { g with minutes := some n }
      | .error fault => .error (.badValue p value (.numeral fault))
    | .port =>
      match portOf value with
      | .ok port => .ok { g with port := some port }
      | .error fault => .error (.badValue p value fault)
    | .config =>
      if value.isEmpty then .error (.valueMissing p) else .ok { g with config := some value }
    | .logLevel => .ok { g with logLevel := some value }

/-- Turns a switch on. -/
def turnOn (g : Given) : Switch → Except Halt Given
  | .help => .error (.request .help)
  | .version => .error (.request .version)
  | .ignoreConnections =>
    if g.ignoreConnections then .error (.fault (.repeated (.switch .ignoreConnections)))
    else .ok { g with ignoreConnections := true }

/-- What the flags ask for. -/
def request (g : Given) : Except UsageFault Request :=
  match g.minutes with
  | none => .error (.missing .time)
  | some minutes =>
    .ok (.check ⟨minutes, g.port, g.ignoreConnections, g.config, g.logLevel.getD "info"⟩)

end Given

/-- A command line up to some argument. -/
structure Progress where
  given : Given
  /-- A parameter whose value is an argument of its own, and that value if
  it is read already. -/
  pending : Option (Parameter × Option String)
  deriving DecidableEq, Repr

namespace Progress

/-- Ends the reading with a fault. -/
def refuse {α : Type} (f : UsageFault) : Except Halt α :=
  .error (.fault f)

/-- The flags given, with the pending one judged. -/
def settle (p : Progress) : Except Halt Given :=
  match p.pending with
  | none => .ok p.given
  | some (parameter, none) => refuse (.valueMissing parameter)
  | some (parameter, some value) => (p.given.assign parameter value).mapError .fault

/-- Takes a parameter whose value is to follow. -/
def await (p : Progress) (parameter : Parameter) : Except Halt Progress := do
  return ⟨← p.settle, some (parameter, none)⟩

/-- Takes a parameter with its value. -/
def supply (p : Progress) (parameter : Parameter) (value : List Char) : Except Halt Progress := do
  let given ← p.settle
  return ⟨← (given.assign parameter (String.ofList value)).mapError .fault, none⟩

/-- Takes a switch. -/
def turnOn (p : Progress) (s : Switch) : Except Halt Progress := do
  return ⟨← (← p.settle).turnOn s, none⟩

/-- Takes the long name of a flag, with a value after an equals sign or
without. -/
def takeName (p : Progress) (cs : List Char) : Except Halt Progress :=
  let name := cs.takeWhile (· != '=')
  match Flag.ofName? name, cs.dropWhile (· != '=') with
  | none, _ => refuse (.unexpected (String.ofList ('-' :: '-' :: name)))
  | some (.parameter parameter), [] => p.await parameter
  | some (.parameter parameter), _ :: value => p.supply parameter value
  | some (.switch s), [] => p.turnOn s
  | some (.switch s), _ :: value => refuse (.unneeded s (String.ofList value))

/-- Takes the letters of flags. What follows the letter of a parameter is
its value, with an equals sign between them or without. -/
def takeLetters (p : Progress) : List Char → Except Halt Progress
  | [] => .ok p
  | c :: cs =>
    match Flag.ofLetter? c, cs with
    | none, _ => refuse (.unexpected (String.ofList ['-', c]))
    | some (.switch s), cs => do takeLetters (← p.turnOn s) cs
    | some (.parameter parameter), [] => p.await parameter
    | some (.parameter parameter), '=' :: value => p.supply parameter value
    | some (.parameter parameter), value => p.supply parameter value

/-- Takes an argument that is no flag. -/
def takeOperand (p : Progress) (argument : String) : Except Halt Progress :=
  match p.pending with
  | some (parameter, none) => .ok ⟨p.given, some (parameter, some argument)⟩
  | _ => refuse (.unexpected argument)

/-- Takes one argument. -/
def take (p : Progress) (argument : String) : Except Halt Progress :=
  match argument.toList with
  | '-' :: '-' :: cs => p.takeName cs
  | '-' :: c :: cs => p.takeLetters (c :: cs)
  | _ => p.takeOperand argument

/-- The flags given up to the end. Nothing may follow two hyphens. -/
def takeAll : Progress → List String → Except Halt Given
  | p, [] => p.settle
  | p, argument :: arguments =>
    if argument = "--" then
      match arguments with
      | [] => p.settle
      | operand :: _ => refuse (.unexpected operand)
    else do takeAll (← p.take argument) arguments

end Progress

/-- What a command line asks for. -/
def parse (arguments : List String) : Except UsageFault Request :=
  match Progress.takeAll ⟨.nothing, none⟩ arguments with
  | .error (.fault f) => .error f
  | .error (.request r) => .ok r
  | .ok given => given.request

end CommandLine

end IdleStop
