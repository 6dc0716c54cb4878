import IdleStop.Instance.Control
import IdleStop.Notebook.Listing
import IdleStop.Verdict
/-!
# One check

A check collects what there is to observe, evaluates it, and stops the
instance if everything is idle. Whatever fails ends the check with its
error, and the instance keeps running.

Sessions are fetched first. If there are none, the metadata file names the
instance and the control plane tells when it was last modified. Terminals
are fetched in either case. An instance that is to be stopped is the one
described, or else the one the metadata file names then.
-/

namespace IdleStop

/-- What a check meets: the notebook server, the control plane, and the
path of the metadata file. -/
structure World where
  server : Server
  platform : Platform
  metadataPath : String

/-- How a check that met no error ended. -/
inductive Ending
  /-- The instance of this name was requested to stop. -/
  | stopped (name : String)
  /-- Something is active. -/
  | active (v : Verdict)
  deriving DecidableEq

namespace Check

/-- The sessions, or the instance in their place. -/
def collectSignal (w : World) (control : ControlPlane) :
    Action (SessionSignal × Option Identity) := do
  let sessions ← w.server.fetchSessions
  if sessions.isEmpty then
    Action.log .collection .info "No kernel sessions, checking notebook instance last modified time"
    let identity ← Identity.load w.metadataPath
    let lastModified ← control.describe w.platform identity.name
    return (.fallback lastModified, some identity)
  else
    Action.log .collection .info ("Found " ++ toString sessions.length ++ " kernel session(s)")
    return (.sessions sessions, none)

/-- Everything there is to observe. -/
def collect (w : World) (control : ControlPlane) : Action Observations := do
  let (signal, identity) ← collectSignal w control
  let terminals ← w.server.fetchTerminals
  if !terminals.isEmpty then
    Action.log .collection .info ("Found " ++ toString terminals.length ++ " terminal(s)")
  return ⟨signal, terminals, identity⟩

/-- Examines one entity on its own. The log tells if it is idle. -/
def examine (p : Policy) (now : Instant) (e : Entity) : Action (Option Blocker) := do
  let blocker ← Action.ofExcept (e.assess p now)
  if blocker.isNone then
    Action.log .evaluation .info e.idleText
  return blocker

/-- Enters what was found of an entity into a verdict. The log tells of a
blocker. -/
def record (v : Verdict) : Option Blocker → Action Verdict
  | none => return v
  | some blocker => do
    Action.log .evaluation .info ("Not idle: " ++ blocker.text)
    return ⟨v.blockers ++ [blocker]⟩

/-- Examines an entity and enters what is found into a verdict. -/
def consider (p : Policy) (now : Instant) (v : Verdict) (e : Entity) : Action Verdict := do
  let blocker ← examine p now e
  record v blocker

/-- Evaluates observations: the sessions one after the other or the instance
in their place, then the terminals one after the other. -/
def evaluate (o : Observations) (p : Policy) (now : Instant) : Action Verdict := do
  let verdict ← match o.signal with
    | .sessions list => list.foldlM (fun v s => consider p now v (.session s)) ⟨[]⟩
    | .fallback lastModified => consider p now ⟨[]⟩ (.machine lastModified)
  o.terminals.foldlM (fun v t => consider p now v (.terminal t)) verdict

/-- The identity of the instance to stop. -/
def identify (w : World) : Option Identity → Action Identity
  | some identity => return identity
  | none => Identity.load w.metadataPath

/-- Acts on a verdict: stops the instance if everything is idle. -/
def act (w : World) (control : ControlPlane) (p : Policy) (now : Instant)
    (known : Option Identity) (v : Verdict) : Action Ending := do
  if v.isIdle then
    let identity ← identify w known
    Action.log .check .info ("Stopping idle notebook instance " ++ identity.name ++
      ": kernels and terminals idle for more than " ++ toString p.thresholdSeconds ++ "s")
    control.stop w.platform identity.name
    return .stopped identity.name
  else
    Action.log .check .info ("Notebook is active at " ++ Rfc3339.format now)
    Action.log .check .info ("Not stopping notebook: " ++ toString v.blockers.length ++
      " active signal(s)")
    return .active v

/-- Collects, evaluates and acts, at the time `now`. -/
def run (w : World) (control : ControlPlane) (p : Policy) (now : Instant) : Action Ending := do
  let observations ← collect w control
  let verdict ← evaluate observations p now
  act w control p now observations.identity verdict

end Check

end IdleStop
