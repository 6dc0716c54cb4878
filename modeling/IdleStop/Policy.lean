import IdleStop.Error
import IdleStop.Time.Instant
/-!
# The policy

How long everything has to have been idle before the instance is stopped,
and whether connected clients matter. The idle time is given in minutes: at
least one, and no more than a duration of 64 bits of milliseconds holds.
-/

namespace IdleStop

/-- The rule for one check. -/
structure Policy where
  /-- What has been idle for longer than this is idle. -/
  threshold : Duration
  /-- Whether connected clients do not count as activity. -/
  ignoreConnections : Bool
  /-- The port of the notebook server. -/
  port : UInt16
  deriving DecidableEq, Repr

namespace Policy

/-- The greatest number of seconds a threshold may have. -/
def maxSeconds : Nat := 9223372036854775

/-- The policy for an idle time in minutes. -/
def ofMinutes (minutes : Nat) (ignoreConnections : Bool) (port : UInt16) :
    Except CheckError Policy :=
  if minutes = 0 then .error (.configuration .noIdleTime)
  else if 60 * minutes ≤ maxSeconds then
    .ok ⟨Duration.ofSeconds (60 * minutes), ignoreConnections, port⟩
  else .error (.configuration (.longIdleTime minutes))

/-- The threshold in seconds. -/
def thresholdSeconds (p : Policy) : Int :=
  p.threshold.wholeSeconds

/-- An idle time is accepted if it is neither zero nor too long, and makes a
threshold of so many minutes. -/
theorem ofMinutes_eq_ok_iff {minutes : Nat} {ignoreConnections : Bool} {port : UInt16}
    {p : Policy} :
    ofMinutes minutes ignoreConnections port = .ok p ↔
      (1 ≤ minutes ∧ 60 * minutes ≤ maxSeconds) ∧
        p = ⟨Duration.ofSeconds (60 * minutes), ignoreConnections, port⟩ := by
  rw [ofMinutes]
  split
  · next hzero => simp [hzero]
  · next hpos =>
    have hone : 1 ≤ minutes := Nat.one_le_iff_ne_zero.2 hpos
    split
    · next hle => simp [hone, hle, eq_comm]
    · next hlong => simp [hlong]

/-- A threshold given in minutes is at least one minute. -/
theorem minute_le_threshold {minutes : Nat} {ignoreConnections : Bool} {port : UInt16}
    {p : Policy} (h : ofMinutes minutes ignoreConnections port = .ok p) :
    Duration.ofSeconds 60 ≤ p.threshold := by
  obtain ⟨⟨hone, -⟩, rfl⟩ := ofMinutes_eq_ok_iff.1 h
  change (60 : Int) * Duration.perSecond + 0 ≤ (60 * minutes : Int) * Duration.perSecond + 0
  simp only [Duration.perSecond]
  omega

end Policy

end IdleStop
