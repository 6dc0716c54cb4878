import IdleStop.Instance.Control
import IdleStop.Toml.Document
/-!
# Settings

A settings file is a TOML document of which six keys count. Each has a
default, and a key of the wrong kind makes the whole file wrong. A file that
is named has to be there; the standard file may be missing, and then
everything has its default. It counts as missing wherever the system does
not show it.
-/

namespace IdleStop

open Toml (Members)

/-- What can be set for all checks. -/
structure Settings where
  /-- The port of the notebook server. -/
  port : UInt16
  /-- Whether connected clients do not count as activity. -/
  ignoreConnections : Bool
  /-- Where the metadata file is. -/
  metadataPath : String
  control : ControlSettings
  deriving DecidableEq, Repr

/-- Why there are no settings. -/
inductive SettingsFault
  | unreadable (path : String) (fault : FileFault)
  /-- The file is not TOML, or a key has a value of the wrong kind. -/
  | malformed (path : String)
  deriving DecidableEq, Repr

/-- Which file has no settings, in words. -/
def SettingsFault.message : SettingsFault → String
  | unreadable path _ => "Failed to read config file: " ++ path
  | malformed path => "Failed to parse config file: " ++ path

/-- What is wrong with the file. `detail` is what is said of faulty TOML. -/
def SettingsFault.causeWith (detail : String) : SettingsFault → String
  | unreadable _ fault => fault.message
  | malformed _ => detail

namespace Settings

/-- The settings where nothing is set. -/
def standard : Settings :=
  ⟨8443, false, "/opt/ml/metadata/resource-metadata.json", ⟨none, none, none⟩⟩

/-- The value of a key as `read` understands it, or the default if the key
is absent. -/
def field? {α : Type} (ms : Members) (key : String) (default : α)
    (read : Toml.Scalar → Option α) : Option α :=
  match ms.lookup? key with
  | none => some default
  | some (.scalar s) => read s
  | some _ => none

/-- A port. -/
def port? : Toml.Scalar → Option UInt16
  | .integer i => if 0 ≤ i ∧ i ≤ 65535 then some (UInt16.ofNat i.toNat) else none
  | _ => none

/-- A truth value. -/
def bool? : Toml.Scalar → Option Bool
  | .bool b => some b
  | _ => none

/-- A text. -/
def text? : Toml.Scalar → Option String
  | .string text => some text
  | _ => none

/-- The settings of a document. Other keys do not count. -/
def ofMembers? (ms : Members) : Option Settings := do
  return {
    port := ← field? ms "port" standard.port port?
    ignoreConnections := ← field? ms "ignore_connections" standard.ignoreConnections bool?
    metadataPath := ← field? ms "metadata_path" standard.metadataPath text?
    control := {
      path := ← field? ms "aws_cli_path" none fun s => (text? s).map some
      region := ← field? ms "aws_region" none fun s => (text? s).map some
      profile := ← field? ms "aws_profile" none fun s => (text? s).map some } }

/-- The settings of the file at a path. -/
def ofFile (path : String) (file : File) : Except SettingsFault Settings :=
  match file.readText with
  | .error fault => .error (.unreadable path fault)
  | .ok text =>
    match (Toml.Document.parse? text).bind ofMembers? with
    | some settings => .ok settings
    | none => .error (.malformed path)

/-- Loads the settings from the file that is named, or else from the
standard file if it is shown there. -/
def load (files : String → File) (named standardPath : Option String) :
    Except SettingsFault Settings :=
  match named, standardPath with
  | some path, _ => ofFile path (files path)
  | none, some path => if (files path).present then ofFile path (files path) else .ok standard
  | none, none => .ok standard

end Settings

end IdleStop
