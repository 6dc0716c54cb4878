import IdleStop.Http.Status
import IdleStop.Text.Quoted
/-!
# Errors

Everything that can end an idle check, by its cause. Each cause is found at
one place; what it says is decided here. An error is of one of four kinds:
a wrong setting, a request or command that failed, a time in no known
format, or an instance whose name cannot be told.
-/

namespace IdleStop

/-- Why a file could not be read or run. -/
inductive FileFault
  | missing
  | isDirectory
  | notDirectory
  | denied
  /-- The path or a part of it is longer than the system takes. -/
  | longName
  /-- The path leads through more links than the system follows. -/
  | manyLinks
  /-- The path holds the character that ends paths. -/
  | nulInName
  /-- The bytes are not UTF-8. -/
  | notText
  deriving DecidableEq, Repr

/-- What the system says of a file. -/
def FileFault.message : FileFault → String
  | missing => "No such file or directory (os error 2)"
  | isDirectory => "Is a directory (os error 21)"
  | notDirectory => "Not a directory (os error 20)"
  | denied => "Permission denied (os error 13)"
  | longName => "File name too long (os error 36)"
  | manyLinks => "Too many levels of symbolic links (os error 40)"
  | nulInName => "file name contained an unexpected NUL byte"
  | notText => "stream did not contain valid UTF-8"

/-- What is wrong with the settings of a check. -/
inductive SettingFault
  /-- The idle time is zero. -/
  | noIdleTime
  /-- The idle time, in minutes, is beyond what durations hold. -/
  | longIdleTime (minutes : Nat)
  /-- No file is where the command is said to be. -/
  | missingCommand (path : String)
  deriving DecidableEq, Repr

/-- What is wrong with the settings, in words. -/
def SettingFault.message : SettingFault → String
  | noIdleTime => "idle time must be at least one minute"
  | longIdleTime minutes => "idle time of " ++ toString minutes ++ " minutes is too large"
  | missingCommand path => "Configured aws CLI path does not exist: " ++ path

/-- Why a command did not start. -/
inductive StartFault
  /-- An argument holds the character that ends arguments. -/
  | nulInArgument
  | file (fault : FileFault)
  deriving DecidableEq, Repr

/-- Why a command did not start, in words. -/
def StartFault.message : StartFault → String
  | nulInArgument => "nul byte found in provided data"
  | file fault => fault.message

/-- An exit code, if there is one, in the notation of log lines. -/
def exitCodeText : Option Int → String
  | none => "None"
  | some code => "Some(" ++ toString code ++ ")"

/-- Why a request or command came to nothing. -/
inductive TransportFault
  /-- The address cannot be read. -/
  | badAddress
  /-- The address is not one of the web. -/
  | foreignAddress (url : String)
  /-- No answer came. -/
  | unanswered (url : String)
  /-- The body of the answer ended early. -/
  | cutShort (url : String)
  /-- The answer reports no success. -/
  | status (code : Nat)
  /-- The body of an answer is not the listing asked for; `noun` tells what
  it lists. -/
  | malformedListing (noun : String)
  /-- The command did not start. -/
  | notStarted (fault : StartFault)
  /-- The command failed, with an exit code unless a signal ended it. -/
  | exited (code : Option Int)
  /-- The output of the command is not JSON. -/
  | malformedOutput
  /-- The output of the command does not tell the time asked for. -/
  | noModificationTime
  deriving DecidableEq, Repr

/-- Why a request or command came to nothing, in words. `detail` is what is
said of faulty JSON. -/
def TransportFault.messageWith (detail : String) : TransportFault → String
  | badAddress => "builder error"
  | foreignAddress url => "builder error for url (" ++ url ++ ")"
  | unanswered url => "error sending request for url (" ++ url ++ ")"
  | cutShort url => "error decoding response body for url (" ++ url ++ ")"
  | status code => "HTTP " ++ Http.statusText code
  | malformedListing noun => "malformed " ++ noun ++ " response: " ++ detail
  | notStarted fault => "failed to spawn aws CLI: " ++ fault.message
  | exited code => "aws CLI exited with code " ++ exitCodeText code
  | malformedOutput => "malformed response: " ++ detail
  | noModificationTime => "response has no LastModifiedTime"

/-- The formats in which times are expected. -/
inductive TimeFormat
  /-- Times of activity, as the notebook server writes them. -/
  | activity
  | rfc3339
  | epochSeconds
  deriving DecidableEq, Repr

/-- The name of a format. -/
def TimeFormat.name : TimeFormat → String
  | activity => "YYYY-MM-DDTHH:MM:SS.ffffffz"
  | rfc3339 => "RFC 3339"
  | epochSeconds => "epoch seconds"

/-- Why the name of the instance cannot be told. -/
inductive IdentityFault
  /-- The metadata file cannot be read. -/
  | unreadable (path : String) (fault : FileFault)
  /-- The metadata are not a record with a name. -/
  | malformed (path : String)
  /-- The name is blank. -/
  | blankName (path : String)
  deriving DecidableEq, Repr

/-- Why the name of the instance cannot be told, in words. `detail` is what
is said of faulty JSON. -/
def IdentityFault.messageWith (detail : String) : IdentityFault → String
  | unreadable path fault => "cannot read " ++ path ++ ": " ++ fault.message
  | malformed path => "invalid metadata in " ++ path ++ ": " ++ detail
  | blankName path => "empty ResourceName in " ++ path

/-- What ended an idle check. -/
inductive CheckError
  | configuration (fault : SettingFault)
  /-- A request or command failed; `endpoint` tells which. -/
  | transport (endpoint : String) (fault : TransportFault)
  /-- A time is not in the format expected. -/
  | format (value : String) (expected : TimeFormat)
  | notFound (fault : IdentityFault)
  deriving DecidableEq, Repr

namespace CheckError

/-- An error in words. `detail` is what is said of faulty JSON. -/
def messageWith (detail : String) : CheckError → String
  | configuration fault => "Configuration error: " ++ fault.message
  | transport endpoint fault =>
    "Request to " ++ endpoint ++ " failed: " ++ fault.messageWith detail
  | format value expected =>
    "Timestamp " ++ quoted value ++ " does not match format " ++ expected.name
  | notFound fault => "Instance identity not found: " ++ fault.messageWith detail

end CheckError

end IdleStop
