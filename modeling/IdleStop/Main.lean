import IdleStop.Command
/-!
# The program

Reads the files that a command line and its settings name, and prints what
the command comes to. The program opens no connections and runs no commands
itself: here the notebook server counts as unreachable, so that a check ends
with that error and the instance keeps running.
-/

namespace IdleStop

namespace Main

/-- The number of a system error. It may come with its sign turned round. -/
def errorNumber (code : UInt32) : UInt32 :=
  min code (-code)

/-- Whether the system shows anything at a path. -/
def isShown (path : String) : IO Bool := do
  try
    let _ ← IO.FS.realPath path
    return true
  catch _ => return false

/-- What is found at a path. -/
def readFile (path : String) : IO File := do
  try
    return .bytes (← IO.FS.readBinFile path).toList
  catch e =>
    match e with
    | .inappropriateType _ code _ =>
      return if errorNumber code = 21 then .directory else .blocked
    | .permissionDenied .. => return if ← isShown path then .locked else .concealed .missing
    | .invalidArgument _ code _ =>
      match errorNumber code with
      | 36 => return .overlong
      | 40 => return .looped
      | _ => return .unnameable
    | _ => return .missing

/-- What is found at each of some paths. -/
def readFiles (paths : List String) : IO (List (String × File)) :=
  paths.mapM fun path => return (path, ← readFile path)

/-- What is found at a path, if it has been read. -/
def fileIn (files : List (String × File)) (path : String) : File :=
  ((files.find? fun f => f.1 = path).map Prod.snd).getD .missing

/-- Where the standard settings file would be. -/
def standardSettings : IO (Option String) := do
  let folder ← match ← IO.getEnv "XDG_CONFIG_HOME" with
    | some folder => pure (if folder.startsWith "/" then some folder else none)
    | none => pure none
  let folder ← match folder with
    | some folder => pure (some folder)
    | none => do pure ((← IO.getEnv "HOME").map (· ++ "/.config"))
  return folder.map (· ++ "/" ++ CommandLine.programName ++ "/config.toml")

/-- What a path of settings stands for as a command. -/
def programOf : File → Program
  | .directory | .locked => .unrunnable .denied
  | .bytes _ => .runnable
  | _ => .missing

/-- A command that does nothing. -/
def idleBehaviour : Behaviour :=
  ⟨[], [], some 0, false⟩

/-- The machine on which some files have been read. -/
def machine (files : List (String × File)) (standard : Option String) : Machine :=
  ⟨fileIn files, standard, .unreachable, .unreachable,
    ⟨fun path => programOf (fileIn files path), .runnable, idleBehaviour, idleBehaviour⟩⟩

/-- The settings file that a command line names. -/
def namedSettings (arguments : List String) : Option String :=
  match CommandLine.parse arguments with
  | .ok (.check a) => a.config
  | _ => none

/-- The paths that settings name, if there are settings. -/
def pathsOf (s : Except SettingsFault Settings) : List String :=
  match s with
  | .ok s => s.metadataPath :: s.control.path.toList
  | .error _ => []

/-- What a command line leads to here. No observation is made, so that no
time of observation is needed. -/
def respond (arguments : List String) : IO Response := do
  let standard ← standardSettings
  let named := namedSettings arguments
  let files ← readFiles (named.toList ++ standard.toList)
  let further ← readFiles (pathsOf (Settings.load (fileIn files) named standard))
  return Response.ofArguments (machine (files ++ further) standard) ⟨0, 0, by decide⟩ arguments

end Main

end IdleStop

open IdleStop in
/-- Runs one command line. -/
def main (arguments : List String) : IO UInt32 := do
  let response ← Main.respond arguments
  response.printed.forM IO.println
  let complaint := response.complaintWith "not the JSON expected here" "not the TOML expected here"
  complaint.forM IO.eprintln
  if response.code = 2 then
    IO.eprintln ""
    IO.eprintln CommandLine.usageLine
  return UInt32.ofNat response.code
