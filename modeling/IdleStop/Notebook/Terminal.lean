import IdleStop.Json.Record
/-!
# Terminals

A terminal is a shell the notebook server keeps open.
-/

namespace IdleStop

open Json (Tree)

/-- An open terminal. -/
structure Terminal where
  name : Option String
  /-- When it was last active, as the server wrote it. -/
  lastActivity : String
  deriving DecidableEq, Repr

namespace Terminal

/-- What a terminal is called. -/
def label (t : Terminal) : String :=
  t.name.getD "<unnamed terminal>"

/-- Reads a terminal. -/
def ofTree? (t : Tree) : Option Terminal := do
  match ← t.fields? ["name", "last_activity"] with
  | [name, lastActivity] =>
    return {
      name := ← Tree.optionalText? name
      lastActivity := ← Tree.requiredText? lastActivity }
  | _ => none

end Terminal

end IdleStop
