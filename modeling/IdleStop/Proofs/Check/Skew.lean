import IdleStop.Proofs.Check.Stopping
import IdleStop.Proofs.Time.Instant
/-!
# Clocks that run behind

A time of activity may lie ahead of the clock of the check. Nothing has passed
since then, or less than a second where a leap second is counted
(`Instant.since_lt_of_lt`), and every threshold is at least a minute; so what
was active in the future is active, and the instance keeps running.
-/

namespace IdleStop

variable {p : Policy} {now last : Instant}

/-- The time of last activity that an evaluation reads of an entity. That of a
session is not read if its kernel or a client that counts makes it active. -/
def Entity.Consults (p : Policy) : Entity → Instant → Prop
  | session s, last =>
    s.kernel.state = .idle ∧ (s.kernel.connections = 0 ∨ p.ignoreConnections = true) ∧
      ActivityStamp.parse s.kernel.lastActivity = .ok last
  | machine lastModified, last => lastModified = last
  | terminal t, last => ActivityStamp.parse t.lastActivity = .ok last

/-- An entity whose time is read is idle just if the time is far enough back. -/
theorem Entity.Consults.idle_iff {e : Entity} (h : e.Consults p last) :
    e.assess p now = .ok none ↔ p.threshold < now.since last := by
  have hread {text : String} (htext : ActivityStamp.parse text = .ok last) :
      (∃ last', ActivityStamp.parse text = .ok last' ∧ p.threshold < now.since last') ↔
        p.threshold < now.since last := by
    rw [htext]
    simp
  cases e with
  | session s =>
    obtain ⟨hstate, hclients, htext⟩ := h
    rw [assess_session_idle_iff, Session.IsIdle, hread htext]
    exact ⟨fun hidle => hidle.2.2, fun hidle => ⟨hstate, hclients, hidle⟩⟩
  | machine lastModified =>
    obtain rfl : lastModified = last := h
    exact assess_machine_idle_iff
  | terminal t =>
    rw [assess_terminal_idle_iff, Terminal.IsIdle, hread h]

namespace Check

/-- **Activity ahead of the clock keeps the instance running.** If the time that
is read of any entity is later than now, the evaluation fails or finds the
instance active. -/
theorem evaluate_not_idle_of_later {minutes : Nat} {ignoreConnections : Bool} {port : UInt16}
    (hpolicy : Policy.ofMinutes minutes ignoreConnections port = .ok p) {o : Observations}
    {e : Entity} (he : e ∈ o.entities) (hlast : e.Consults p last) (hlater : now < last)
    (file : File) :
    (∃ err, ((evaluate o p now).run file).result = .error err) ∨
      ∃ v, ((evaluate o p now).run file).result = .ok v ∧ v.isIdle = false := by
  -- an idle verdict would need more than the threshold to have passed
  have hnot : ¬ ∃ v, ((evaluate o p now).run file).result = .ok v ∧ v.isIdle = true := by
    rw [evaluate_idle_iff]
    intro hidle
    have hpassed : p.threshold.nanoseconds < (now.since last).nanoseconds :=
      hlast.idle_iff.1 (hidle e he)
    have hminute : (Duration.ofSeconds 60).nanoseconds ≤ p.threshold.nanoseconds :=
      Policy.minute_le_threshold hpolicy
    have hsecond : (now.since last).nanoseconds < (Duration.ofSeconds 1).nanoseconds :=
      Instant.since_lt_of_lt hlater
    have horder : (Duration.ofSeconds 1).nanoseconds ≤ (Duration.ofSeconds 60).nanoseconds := by
      decide
    omega
  cases hresult : ((evaluate o p now).run file).result with
  | error err => exact .inl ⟨err, rfl⟩
  | ok v =>
    refine .inr ⟨v, rfl, ?_⟩
    cases hidle : v.isIdle with
    | false => rfl
    | true => exact absurd ⟨v, hresult, hidle⟩ hnot

/-- A leap second before midnight and a terminal active at midnight: half a
second counts as passed, and the terminal is active. -/
theorem evaluate_not_idle_of_later_midnight :
    let p : Policy := ⟨.ofSeconds 60, false, 8443⟩
    let now : Instant := ⟨1709251199, 1500000000, by decide⟩
    let last : Instant := ⟨1709251200, 0, by decide⟩
    let e : Entity := .terminal ⟨some "1", "2024-03-01T00:00:00.000000z"⟩
    let o : Observations :=
      ⟨.fallback ⟨0, 0, by decide⟩, [⟨some "1", "2024-03-01T00:00:00.000000z"⟩], none⟩
    Policy.ofMinutes 1 false 8443 = .ok p ∧ e ∈ o.entities ∧ e.Consults p last ∧ now < last ∧
      ((∃ err, ((evaluate o p now).run .missing).result = .error err) ∨
        ∃ v, ((evaluate o p now).run .missing).result = .ok v ∧ v.isIdle = false) := by
  intro p now last e o
  have hpolicy : Policy.ofMinutes 1 false 8443 = .ok p := rfl
  have he : e ∈ o.entities := by decide
  have hlast : e.Consults p last := rfl
  have hlater : now < last := by decide
  exact ⟨hpolicy, he, hlast, hlater, evaluate_not_idle_of_later hpolicy he hlast hlater .missing⟩

end Check

end IdleStop
