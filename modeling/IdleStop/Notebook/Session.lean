import IdleStop.Json.Record
/-!
# Kernel sessions

A session is a notebook document with a running kernel, as the notebook
server lists it. Only a kernel that says it is idle is idle: a state this
program has no name for is read as unknown, which is one more way of being
active.
-/

namespace IdleStop

open Json (Tree)

/-- What a kernel says it is doing. -/
inductive KernelState
  | idle
  | busy
  | starting
  | restarting
  | dead
  /-- Any other word. -/
  | unknown
  deriving DecidableEq, Repr

namespace KernelState

/-- The name of a state. -/
def name : KernelState → String
  | idle => "idle"
  | busy => "busy"
  | starting => "starting"
  | restarting => "restarting"
  | dead => "dead"
  | unknown => "unknown"

/-- The state a word names, letter by letter. -/
def ofName (word : String) : KernelState :=
  if word = "idle" then idle
  else if word = "busy" then busy
  else if word = "starting" then starting
  else if word = "restarting" then restarting
  else if word = "dead" then dead
  else unknown

/-- Reads a state: its name, alone or as the one key of an object that
holds null. -/
def ofTree? : Tree → Option KernelState
  | .string us => ofName <$> us.text?
  | .object [(us, .null)] => ofName <$> us.text?
  | _ => none

end KernelState

/-- The kernel of a session. -/
structure Kernel where
  id : Option String
  name : Option String
  state : KernelState
  /-- How many clients are connected: browser tabs, consoles. -/
  connections : UInt64
  /-- When it was last active, as the server wrote it. -/
  lastActivity : String
  deriving DecidableEq, Repr

/-- Reads a kernel. -/
def Kernel.ofTree? (t : Tree) : Option Kernel := do
  match ← t.fields? ["id", "name", "execution_state", "connections", "last_activity"] with
  | [id, name, state, connections, lastActivity] =>
    return {
      id := ← Tree.optionalText? id
      name := ← Tree.optionalText? name
      state := ← state.bind KernelState.ofTree?
      connections := ← connections.bind Tree.word?
      lastActivity := ← Tree.requiredText? lastActivity }
  | _ => none

/-- A notebook document and its kernel. -/
structure Session where
  id : Option String
  path : Option String
  kernel : Kernel
  deriving DecidableEq, Repr

namespace Session

/-- What a session is called: its path, else its id, else its kernel's. -/
def label (s : Session) : String :=
  (s.path.or (s.id.or s.kernel.id)).getD "<unnamed session>"

/-- Reads a session. -/
def ofTree? (t : Tree) : Option Session := do
  match ← t.fields? ["id", "path", "kernel"] with
  | [id, path, kernel] =>
    return {
      id := ← Tree.optionalText? id
      path := ← Tree.optionalText? path
      kernel := ← kernel.bind Kernel.ofTree? }
  | _ => none

end Session

end IdleStop
