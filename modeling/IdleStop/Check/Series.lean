import IdleStop.Check.Run
/-!
# Checks in a row

A plan is what a check is asked to do, before its settings are looked at.
Performing it checks the idle time first and the configured tool next, and
only then does anything.

Checks are performed one after the other, each in a world and with a plan of
its own. Between two of them nothing is kept but the metadata file, and
someone may put another one in its place.
-/

namespace IdleStop

/-- What a check is asked to do. -/
structure Plan where
  /-- The idle time in minutes. -/
  minutes : Nat
  ignoreConnections : Bool
  port : UInt16
  control : ControlSettings
  deriving DecidableEq, Repr

namespace Plan

/-- Performs a plan at the time `now`. -/
def perform (p : Plan) (w : World) (now : Instant) : Action Ending := do
  let policy ← Action.ofExcept (Policy.ofMinutes p.minutes p.ignoreConnections p.port)
  let control ← ControlPlane.locate p.control w.platform
  Check.run w control policy now

end Plan

/-- One of several checks. -/
structure Step where
  plan : Plan
  world : World
  now : Instant
  /-- The metadata file put in place before the check, if one is. -/
  placed : Option File

namespace Step

/-- What a check comes to when the metadata file stands as it does before
the step. -/
def outcome (s : Step) (metadata : File) : Outcome Ending :=
  (s.plan.perform s.world s.now).run (s.placed.getD metadata)

end Step

/-- What each of several checks comes to, beginning with a metadata file. -/
def Step.outcomes : List Step → File → List (Outcome Ending)
  | [], _ => []
  | s :: steps, metadata =>
    s.outcome metadata :: Step.outcomes steps (s.outcome metadata).metadata

end IdleStop
