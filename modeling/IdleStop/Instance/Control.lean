import IdleStop.Check.Action
import IdleStop.Json.Record
import IdleStop.Text.Parts
import IdleStop.Time.Epoch
import IdleStop.Time.Rfc3339
/-!
# The control plane

The platform describes and stops instances through its command line tool.
A command line is fixed but for the operation, the name of the instance and
the optional region and profile. A command's behaviour is what it prints,
how it ends, and whether it deletes the metadata file meanwhile.
-/

namespace IdleStop

open Json (Tree)

/-- What can be asked of the control plane. -/
inductive Operation
  | describe
  | stop
  deriving DecidableEq, Repr

namespace Operation

/-- The name of an operation on command lines. -/
def name : Operation → String
  | describe => "describe-notebook-instance"
  | stop => "stop-notebook-instance"

/-- What an operation is called in errors. -/
def endpoint (op : Operation) : String :=
  "sagemaker " ++ op.name

end Operation

/-- What a command does when it runs. -/
structure Behaviour where
  stdout : List UInt8
  stderr : List UInt8
  /-- The exit code, `none` if a signal ends the command. -/
  exit : Option Int
  deletesMetadata : Bool
  deriving DecidableEq, Repr

/-- What is found where the command line tool should be. -/
inductive Program
  | missing
  /-- Something that cannot be run. -/
  | unrunnable (fault : FileFault)
  | runnable
  deriving DecidableEq, Repr

/-- What a check meets in the control plane. -/
structure Platform where
  /-- What is found at a configured path. -/
  programAt : String → Program
  /-- What is found by the tool's own name. -/
  program : Program
  describe : Behaviour
  stop : Behaviour

/-- What a command of an operation does. -/
def Platform.behaviour (p : Platform) : Operation → Behaviour
  | .describe => p.describe
  | .stop => p.stop

/-- The settings that concern the control plane. -/
structure ControlSettings where
  /-- Where the command line tool is, if not where the system looks for it. -/
  path : Option String
  region : Option String
  profile : Option String
  deriving DecidableEq, Repr

/-- The control plane as seen through its command line tool. -/
structure ControlPlane where
  /-- How the tool is called. -/
  tool : String
  program : Program
  region : Option String
  profile : Option String
  deriving DecidableEq, Repr

namespace ControlPlane

/-- The arguments of a command. -/
def arguments (c : ControlPlane) (op : Operation) (instanceName : String) : List String :=
  ["sagemaker", op.name, "--notebook-instance-name", instanceName, "--output", "json"] ++
    (match c.region with
      | some region => ["--region", region]
      | none => []) ++
    (match c.profile with
      | some profile => ["--profile", profile]
      | none => [])

/-- The control plane that settings describe. A configured tool has to
exist; one found by name is looked for when it is run. -/
def ofSettings (s : ControlSettings) (platform : Platform) : Except CheckError ControlPlane :=
  match s.path with
  | none => .ok ⟨"aws", platform.program, s.region, s.profile⟩
  | some path =>
    if platform.programAt path = .missing then .error (.configuration (.missingCommand path))
    else .ok ⟨path, platform.programAt path, s.region, s.profile⟩

/-- Finds the tool that settings describe. -/
def locate (s : ControlSettings) (platform : Platform) : Action ControlPlane := do
  let control ← Action.ofExcept (ofSettings s platform)
  Action.log .control .debug ("Using aws CLI: " ++ control.tool)
  return control

/-- Why a command would not start, if it would not. -/
def startFault? (c : ControlPlane) (args : List String) : Option StartFault :=
  if args.any fun arg => arg.toList.contains '\x00' then some .nulInArgument
  else
    match c.program with
    | .missing => some (.file .missing)
    | .unrunnable fault => some (.file fault)
    | .runnable => none

/-- Runs a command, and gives what it prints if it succeeds. -/
def invoke (c : ControlPlane) (platform : Platform) (op : Operation) (instanceName : String) :
    Action String := do
  let args := c.arguments op instanceName
  Action.log .control .debug ("Running: " ++ c.tool ++ " " ++ " ".intercalate args)
  match c.startFault? args with
  | some fault =>
    Action.emit (.call (.command args) false)
    Action.fail (.transport op.endpoint (.notStarted fault))
  | none =>
    let behaviour := platform.behaviour op
    Action.emit (.call (.command args) true)
    if behaviour.deletesMetadata then Action.deleteMetadata
    if behaviour.exit = some 0 then
      Action.log .control .trace "aws CLI succeeded"
      return Utf8.decodeLossy behaviour.stdout
    else
      Action.log .control .error
        ("aws CLI failed (exit code " ++ exitCodeText behaviour.exit ++ "): " ++
          trimmed (Utf8.decodeLossy behaviour.stderr))
      Action.fail (.transport op.endpoint (.exited behaviour.exit))

/-- The time of last modification in the description of an instance: text
is read as RFC 3339, a number as epoch seconds. -/
def modificationTime (output : String) : Except CheckError Instant :=
  let failed := fun fault => Except.error (.transport Operation.describe.endpoint fault)
  match Tree.parse? output with
  | none => failed .malformedOutput
  | some t =>
    if t.isReadable then
      match t.lookup? "LastModifiedTime" with
      | some (.string us) =>
        match us.text? with
        | some text => Rfc3339.parse text
        | none => failed .malformedOutput
      | some (.number l) =>
        match Json.Number.ofLiteral? l with
        | some n => Epoch.parse n
        | none => failed .malformedOutput
      | _ => failed .noModificationTime
    else failed .malformedOutput

/-- Asks when an instance was last modified. -/
def describe (c : ControlPlane) (platform : Platform) (instanceName : String) : Action Instant := do
  let output ← c.invoke platform .describe instanceName
  Action.ofExcept (modificationTime output)

/-- Requests that an instance stop. -/
def stop (c : ControlPlane) (platform : Platform) (instanceName : String) : Action Unit := do
  let _ ← c.invoke platform .stop instanceName
  Action.log .control .info ("Stop requested for notebook instance " ++ instanceName)

end ControlPlane

end IdleStop
