import IdleStop.Check.Run
import IdleStop.CommandLine.Arguments
import IdleStop.LogFilter
import IdleStop.Settings
import IdleStop.Text.Parts
/-!
# The command

A command line that asks for a check leads to one only if settings can be
loaded, the idle time is one, and the configured tool is there. Each of
these can end the command, and so can the check; then it exits with a code
other than zero, and its report tells the causes, outermost first.

Of the flags and the settings, clients are ignored if either says so, and
the port of the flag comes first.
-/

namespace IdleStop

/-- What a command meets. -/
structure Machine where
  /-- What is found at a path. -/
  files : String → File
  /-- Where the standard settings file would be. -/
  standardSettings : Option String
  /-- What becomes of requests to the notebook server on this machine. -/
  sessions : Reply
  terminals : Reply
  platform : Platform

/-- What ended a command, by the stage it had reached. -/
inductive CommandFault
  | settings (fault : SettingsFault)
  | policy (e : CheckError)
  | control (e : CheckError)
  | check (e : CheckError)
  deriving DecidableEq, Repr

/-- What a command came to. -/
structure Execution where
  result : Except CommandFault Ending
  events : Trace

namespace CommandFault

/-- The causes of a fault, outermost first. `json` and `toml` are what is
said of faulty JSON and TOML. -/
def causesWith (json toml : String) : CommandFault → List String
  | settings fault =>
    ["Failed to load configuration", fault.message, fault.causeWith toml]
  | policy e => [e.messageWith json]
  | control e => ["Failed to initialize SageMaker client", e.messageWith json]
  | check e => ["Idle check aborted; instance left running", e.messageWith json]

end CommandFault

namespace Report

/-- A text with one opening before its first line and another before each
further line. -/
def indented (first further text : String) : List String :=
  match linesOf text with
  | [] => []
  | line :: rest => (first ++ line) :: rest.map (further ++ ·)

/-- The lines of one of several causes, with its number in front. -/
def numbered (i : Nat) (cause : String) : List String :=
  let number := toString i
  indented ("".pushn ' ' (5 - number.length) ++ number ++ ": ") "       " cause

/-- The lines that tell the causes of an error, outermost first. -/
def ofCauses : List String → List String
  | [] => []
  | [top] => linesOf ("Error: " ++ top)
  | [top, cause] => linesOf ("Error: " ++ top) ++ ["", "Caused by:"] ++ indented "    " "    " cause
  | top :: causes =>
    linesOf ("Error: " ++ top) ++ ["", "Caused by:"] ++
      (causes.zipIdx.map fun (cause, i) => numbered i cause).flatten

end Report

namespace Command

open CommandLine (Arguments Request UsageFault)

/-- The policy that arguments and settings make together. -/
def policy (a : Arguments) (s : Settings) : Except CheckError Policy :=
  Policy.ofMinutes a.minutes (a.ignoreConnections || s.ignoreConnections) (a.port.getD s.port)

/-- The first line of every log. -/
def startLine : LogLine :=
  ⟨.command, .debug, CommandLine.programName ++ " v" ++ CommandLine.programVersion ++ " starting"⟩

/-- What is going to be checked. -/
def openingLine (p : Policy) : LogLine :=
  ⟨.command, .info, "Checking idleness (threshold=" ++ toString p.thresholdSeconds ++ "s, port=" ++
    toString p.port.toNat ++ ", ignore_connections=" ++ toString p.ignoreConnections ++ ")"⟩

/-- How the check ended. -/
def closingLine : Ending → LogLine
  | .stopped name => ⟨.command, .info, "Stopped notebook instance " ++ name⟩
  | .active v => ⟨.command, .debug, "Verdict: " ++ toString v.blockers.length ++ " blocker(s)"⟩

/-- The world of a check with these settings. -/
def world (m : Machine) (s : Settings) (p : Policy) : World :=
  ⟨⟨Server.localAddress p.port, m.sessions, m.terminals⟩, m.platform, s.metadataPath⟩

/-- A check from its arguments, at the time `now`. -/
def execute (m : Machine) (now : Instant) (a : Arguments) : Execution :=
  match Settings.load m.files a.config m.standardSettings with
  | .error fault => ⟨.error (.settings fault), [.logged startLine]⟩
  | .ok s =>
    match policy a s with
    | .error e => ⟨.error (.policy e), [.logged startLine]⟩
    | .ok p =>
      let opening : Trace := [.logged startLine, .logged (openingLine p)]
      let metadata := m.files s.metadataPath
      let located := (ControlPlane.locate s.control m.platform).run metadata
      match located.result with
      | .error e => ⟨.error (.control e), opening ++ located.events⟩
      | .ok control =>
        let checked := (Check.run (world m s p) control p now).run metadata
        let before := opening ++ located.events ++ checked.events
        match checked.result with
        | .error e => ⟨.error (.check e), before⟩
        | .ok ending => ⟨.ok ending, before ++ [.logged (closingLine ending)]⟩

end Command

/-- What a command line leads to. -/
inductive Response
  /-- The command line is wrong. -/
  | refused (fault : CommandLine.UsageFault)
  /-- Something is shown. -/
  | shown (text : List String)
  /-- A check, with the part of its log that is shown. -/
  | executed (x : Execution) (filter : LogFilter)

namespace Response

/-- What a command line leads to at the time `now`. -/
def ofArguments (m : Machine) (now : Instant) (arguments : List String) : Response :=
  match CommandLine.parse arguments with
  | .error fault => refused fault
  | .ok .help => shown CommandLine.helpText
  | .ok .version => shown CommandLine.versionText
  | .ok (.check a) => executed (Command.execute m now a) (LogFilter.ofText a.logLevel)

/-- The exit code. -/
def code : Response → Nat
  | refused _ => 2
  | shown _ => 0
  | executed x _ =>
    match x.result with
    | .ok _ => 0
    | .error _ => 1

/-- What happened. -/
def events : Response → Trace
  | executed x _ => x.events
  | _ => []

/-- The lines that a log line prints. -/
def printedLog (line : LogLine) : List String :=
  linesOf { line with text := String.ofList (line.text.toList.flatMap Terminal.logged) }.shown

/-- The lines that are printed. -/
def printed : Response → List String
  | refused _ => []
  | shown text => text
  | executed x filter => (filter.select x.events.log).flatMap printedLog

/-- The lines that tell what is wrong. `json` and `toml` are what is said of
faulty JSON and TOML. -/
def complaintWith (json toml : String) : Response → List String
  | refused fault => linesOf ("error: " ++ fault.message)
  | shown _ => []
  | executed x _ =>
    match x.result with
    | .ok _ => []
    | .error fault => Report.ofCauses (fault.causesWith json toml)

end Response

end IdleStop
