import IdleStop.Check.Action
import IdleStop.Json.Record
import IdleStop.Text.Parts
/-!
# The instance's identity

The platform leaves a metadata file on every instance. Its record names the
instance; the name is taken as it stands, and must not be blank.
-/

namespace IdleStop

open Json (Tree)

/-- Which instance this is. -/
structure Identity where
  name : String
  /-- Its full resource name, for the log. -/
  arn : Option String
  deriving DecidableEq, Repr

namespace Identity

/-- Reads an identity. -/
def ofTree? (t : Tree) : Option Identity := do
  match ← t.fields? ["ResourceName", "ResourceArn"] with
  | [name, arn] => return { name := ← Tree.requiredText? name, arn := ← Tree.optionalText? arn }
  | _ => none

/-- The identity that a metadata file at a path holds. -/
def ofFile (path : String) (file : File) : Except CheckError Identity :=
  match file.readText with
  | .error fault => .error (.notFound (.unreadable path fault))
  | .ok text =>
    match (Tree.parse? text).bind ofTree? with
    | none => .error (.notFound (.malformed path))
    | some identity =>
      if isBlankText identity.name then .error (.notFound (.blankName path)) else .ok identity

/-- Reads the metadata file, which stands at a path, for the identity. -/
def load (path : String) : Action Identity := do
  let file ← Action.readMetadata
  let identity ← Action.ofExcept (ofFile path file)
  Action.log .metadata .debug ("Resolved notebook instance " ++ identity.name ++ " (arn=" ++
    identity.arn.getD "unknown" ++ ")")
  return identity

end Identity

end IdleStop
