import IdleStop.Instance.Identity
import IdleStop.Notebook.Session
import IdleStop.Notebook.Terminal
import IdleStop.Policy
import IdleStop.Time.ActivityStamp
/-!
# Verdicts

What was observed is a row of entities: the sessions, or the instance if
there are none, and then the terminals. Each is assessed on its own
(`Entity.assess`): it is idle, or a blocker says why not, or its time cannot
be read. The verdict gathers the blockers; the instance is idle if there are
none.

A survey is the account of a whole examination: the row is gone through in
order up to the first entity that cannot be assessed, and the log has one
line for each entity before it.
-/

namespace IdleStop

/-- Why an entity is active. -/
inductive Blocker
  | kernelNotIdle (session : String) (state : KernelState)
  | connectedClients (session : String) (connections : UInt64)
  | recentSession (session : String) (lastActivity : Instant)
  | recentInstance (lastModified : Instant)
  | recentTerminal (terminal : String) (lastActivity : Instant)
  deriving DecidableEq

/-- Why an entity is active, in words. -/
def Blocker.text : Blocker → String
  | kernelNotIdle session state => "session " ++ session ++ ": kernel is " ++ state.name
  | connectedClients session connections =>
    "session " ++ session ++ ": " ++ toString connections.toNat ++ " connected client(s)"
  | recentSession session lastActivity =>
    "session " ++ session ++ ": last activity " ++ ActivityStamp.format lastActivity
  | recentInstance lastModified => "instance: last modified " ++ ActivityStamp.format lastModified
  | recentTerminal terminal lastActivity =>
    "terminal " ++ terminal ++ ": last activity " ++ ActivityStamp.format lastActivity

/-- What a check comes to. -/
structure Verdict where
  blockers : List Blocker
  deriving DecidableEq

/-- Whether nothing is active. -/
def Verdict.isIdle (v : Verdict) : Bool :=
  v.blockers.isEmpty

/-- The sessions, or what stands in for them. -/
inductive SessionSignal
  | sessions (list : List Session)
  /-- There are no sessions; the instance was last modified then. -/
  | fallback (lastModified : Instant)
  deriving DecidableEq

/-- Something that can be active. -/
inductive Entity
  | session (s : Session)
  /-- The instance itself, last modified then. -/
  | machine (lastModified : Instant)
  | terminal (t : Terminal)
  deriving DecidableEq

/-- The entities of a signal. -/
def SessionSignal.entities : SessionSignal → List Entity
  | sessions list => list.map .session
  | fallback lastModified => [.machine lastModified]

/-- What one check has observed. -/
structure Observations where
  signal : SessionSignal
  terminals : List Terminal
  /-- The identity read to describe the instance, if it was. -/
  identity : Option Identity
  deriving DecidableEq

/-- The entities observed, in the order they are examined. -/
def Observations.entities (o : Observations) : List Entity :=
  o.signal.entities ++ o.terminals.map .terminal

namespace Entity

/-- Assesses an activity that has to be older than the threshold. -/
def assessTime (p : Policy) (now last : Instant) (blocker : Instant → Blocker) : Option Blocker :=
  if last.isOlderThan p.threshold now then none else some (blocker last)

/-- Why an entity is active, `none` if it is idle. A session's time is read
only if its kernel is idle and its clients do not matter. -/
def assess (p : Policy) (now : Instant) : Entity → Except CheckError (Option Blocker)
  | session s =>
    if s.kernel.state ≠ .idle then .ok (some (.kernelNotIdle s.label s.kernel.state))
    else if ¬ p.ignoreConnections ∧ 0 < s.kernel.connections then
      .ok (some (.connectedClients s.label s.kernel.connections))
    else do
      let last ← ActivityStamp.parse s.kernel.lastActivity
      return assessTime p now last (.recentSession s.label)
  | machine last => .ok (assessTime p now last .recentInstance)
  | terminal t => do
    let last ← ActivityStamp.parse t.lastActivity
    return assessTime p now last (.recentTerminal t.label)

/-- What the log says of an entity that is idle. -/
def idleText : Entity → String
  | session s => "Session " ++ s.label ++ " is idle, last activity " ++ s.kernel.lastActivity
  | machine last => "Instance is idle, last modified " ++ ActivityStamp.format last
  | terminal t => "Terminal " ++ t.label ++ " is idle, last activity " ++ t.lastActivity

end Entity

/-- An entity that was assessed. -/
structure Finding where
  entity : Entity
  blocker : Option Blocker
  deriving DecidableEq

/-- What the log says of a finding. -/
def Finding.text (f : Finding) : String :=
  match f.blocker with
  | some blocker => "Not idle: " ++ blocker.text
  | none => f.entity.idleText

/-- What an examination found: the findings up to the first entity that
cannot be assessed, and why it cannot. -/
structure Survey where
  findings : List Finding
  error : Option CheckError

namespace Survey

/-- Examines entities in order. -/
def ofEntities (p : Policy) (now : Instant) : List Entity → Survey
  | [] => ⟨[], none⟩
  | e :: es =>
    match e.assess p now with
    | .error err => ⟨[], some err⟩
    | .ok blocker =>
      let rest := ofEntities p now es
      ⟨⟨e, blocker⟩ :: rest.findings, rest.error⟩

/-- The log lines of a survey. -/
def log (s : Survey) : List LogLine :=
  s.findings.map fun f => ⟨.evaluation, .info, f.text⟩

/-- The verdict of a survey that reached the end. -/
def verdict (s : Survey) : Except CheckError Verdict :=
  match s.error with
  | some err => .error err
  | none => .ok ⟨s.findings.filterMap Finding.blocker⟩

end Survey

/-- Examines everything observed. -/
def Observations.survey (o : Observations) (p : Policy) (now : Instant) : Survey :=
  Survey.ofEntities p now o.entities

/-- The verdict on everything observed. -/
def Observations.evaluate (o : Observations) (p : Policy) (now : Instant) :
    Except CheckError Verdict :=
  (o.survey p now).verdict

end IdleStop
