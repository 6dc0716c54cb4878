import IdleStop.Proofs.Check.Course
/-!
# When a check stops the instance

A check tries to stop the instance just if everything it looks at was
fetched, read and found idle for longer than the threshold, and the instance
is known. One session, terminal or stage that is otherwise, at any place,
and there is no attempt.
-/

namespace IdleStop

variable {p : Policy} {now : Instant}

/-- A session that leaves the instance idle: its kernel is idle, no client
that matters is connected, and it was last active longer ago than the
threshold. -/
def Session.IsIdle (p : Policy) (now : Instant) (s : Session) : Prop :=
  s.kernel.state = .idle ∧ (s.kernel.connections = 0 ∨ p.ignoreConnections = true) ∧
    ∃ last, ActivityStamp.parse s.kernel.lastActivity = .ok last ∧ p.threshold < now.since last

/-- A terminal that leaves the instance idle. -/
def Terminal.IsIdle (p : Policy) (now : Instant) (t : Terminal) : Prop :=
  ∃ last, ActivityStamp.parse t.lastActivity = .ok last ∧ p.threshold < now.since last

/-- A signal that leaves the instance idle. -/
def SessionSignal.IsIdle (p : Policy) (now : Instant) : SessionSignal → Prop
  | sessions list => ∀ s ∈ list, s.IsIdle p now
  | fallback lastModified => p.threshold < now.since lastModified

namespace Entity

theorem assessTime_eq_none_iff {last : Instant} {blocker : Instant → Blocker} :
    assessTime p now last blocker = none ↔ p.threshold < now.since last := by
  simp [assessTime, Instant.isOlderThan]

/-- A time that is read has to lie far enough back. -/
theorem assessText_idle_iff {text : String} {blocker : Instant → Blocker} :
    (do
      let last ← ActivityStamp.parse text
      return assessTime p now last blocker) = .ok none ↔
      ∃ last, ActivityStamp.parse text = .ok last ∧ p.threshold < now.since last := by
  cases h : ActivityStamp.parse text with
  | error e => simp [bind, Except.bind]
  | ok last => simp [bind, Except.bind, pure, Except.pure, assessTime_eq_none_iff]

theorem assess_session_idle_iff {s : Session} :
    (session s).assess p now = .ok none ↔ s.IsIdle p now := by
  rw [assess, Session.IsIdle]
  by_cases hstate : s.kernel.state = .idle
  · rw [if_neg (not_not_intro hstate)]
    by_cases hclients : s.kernel.connections = 0 ∨ p.ignoreConnections = true
    · have hnot : ¬ (¬ p.ignoreConnections = true ∧ 0 < s.kernel.connections) := by
        rintro ⟨hcount, hpos⟩
        rcases hclients with hzero | hignored
        · exact absurd hpos (by simp [hzero])
        · exact hcount hignored
      rw [if_neg hnot, assessText_idle_iff]
      exact ⟨fun h => ⟨hstate, hclients, h⟩, fun h => h.2.2⟩
    · obtain ⟨hpos, hcount⟩ := not_or.1 hclients
      rw [if_pos ⟨hcount, UInt64.pos_iff_ne_zero.2 hpos⟩]
      exact ⟨fun h => (nomatch h), fun h => absurd h.2.1 hclients⟩
  · rw [if_pos hstate]
    exact ⟨fun h => (nomatch h), fun h => absurd h.1 hstate⟩

theorem assess_machine_idle_iff {last : Instant} :
    (machine last).assess p now = .ok none ↔ p.threshold < now.since last := by
  rw [assess, Except.ok.injEq, assessTime_eq_none_iff]

theorem assess_terminal_idle_iff {t : Terminal} :
    (terminal t).assess p now = .ok none ↔ t.IsIdle p now :=
  assessText_idle_iff

end Entity

/-- Every entity is idle just if the signal and all terminals are. -/
theorem Observations.entities_idle_iff {o : Observations} :
    (∀ e ∈ o.entities, e.assess p now = .ok none) ↔
      o.signal.IsIdle p now ∧ ∀ t ∈ o.terminals, t.IsIdle p now := by
  rw [entities, List.forall_mem_append, List.forall_mem_map]
  simp only [Entity.assess_terminal_idle_iff]
  refine and_congr_left fun _ => ?_
  cases o.signal with
  | sessions list =>
    rw [SessionSignal.entities, SessionSignal.IsIdle, List.forall_mem_map]
    simp only [Entity.assess_session_idle_iff]
  | fallback lastModified =>
    rw [SessionSignal.entities, SessionSignal.IsIdle, List.forall_mem_singleton,
      Entity.assess_machine_idle_iff]

namespace Check

variable {w : World} {control : ControlPlane} {file : File} {ds : List Deed}

/-- Whatever comes of it, an instance that is idle and identified is
requested to stop. -/
theorem exists_stopCourse (control : ControlPlane) {known : Option Identity} {v : Verdict}
    {identity : Identity} (hidle : v.isIdle = true)
    (hid : Identified w file known ds (.ok identity)) :
    ∃ r, ActCourse w control file known v (ds ++ [.invoke control .stop identity.name]) r := by
  cases hstop : ((control.stop w.platform identity.name).run file).result with
  | error e => exact ⟨_, .unstopped hidle hid hstop⟩
  | ok _ => exact ⟨_, .stopped hidle hid hstop⟩

/-- **A stop is attempted just if a verdict is idle and the instance is
identified.** -/
theorem stop_mem_attempts_iff :
    (∃ args, .command args ∈ ((run w control p now).run file).events.attempts ∧
        args[1]? = some Operation.stop.name) ↔
      ∃ ds o v ds' identity, CollectCourse w control file ds (.ok o) ∧
        ((evaluate o p now).run file).result = .ok v ∧ v.isIdle = true ∧
        Identified w file o.identity ds' (.ok identity) := by
  rw [Trace.attempts_eq_calls]
  have hother : Operation.describe.name ≠ Operation.stop.name := by decide
  constructor
  · rintro ⟨args, hargs, hstop⟩
    -- collecting only describes, so a stop comes after a verdict
    have hno : ∀ {ds r}, CollectCourse w control file ds r →
        Call.command args ∉ Deed.calls ds := by
      intro ds r h hmem
      obtain ⟨identity, -, rfl⟩ := h.command_mem hmem
      exact hother (Option.some.inj hstop)
    obtain ⟨ds, r, hcourse⟩ := exists_course w control p now file
    rw [(course_iff.1 hcourse).1] at hargs
    cases hcourse with
    | uncollected hcollect => exact absurd hargs (hno hcollect)
    | unevaluated hcollect _ => exact absurd hargs (hno hcollect)
    | evaluated hcollect heval hact =>
      rw [Deed.calls_append, List.mem_append] at hargs
      have hargs' := hargs.resolve_left (hno hcollect)
      rcases hact.calls with hcalls | ⟨identity, ds', hidle, hid, -⟩
      · rw [hcalls] at hargs'
        exact absurd hargs' List.not_mem_nil
      · exact ⟨_, _, _, ds', identity, hcollect, heval, hidle, hid⟩
  · rintro ⟨ds, o, v, ds', identity, hcollect, heval, hidle, hid⟩
    obtain ⟨r, hact⟩ := exists_stopCourse control hidle hid
    rw [(course_iff.1 (.evaluated hcollect heval hact)).1]
    exact ⟨control.arguments .stop identity.name, by simp, rfl⟩

/-- **A check tries to stop the instance just if all it looks at is idle and
the instance is known.** Either sessions are listed, every one of them is
idle and the metadata file, which no command has touched by then, tells the
instance; or none are listed, the metadata file tells the instance, and it
was last modified longer ago than the threshold. And the terminals are
listed, every one of them idle. -/
theorem stop_attempted_iff (w : World) (control : ControlPlane) (p : Policy) (now : Instant)
    (file : File) :
    (∃ args, .command args ∈ ((run w control p now).run file).events.attempts ∧
        args[1]? = some Operation.stop.name) ↔
      ((∃ sessions, (w.server.fetchSessions.run file).result = .ok sessions ∧ sessions ≠ [] ∧
            (∀ s ∈ sessions, s.IsIdle p now) ∧
            ∃ identity, Identity.ofFile w.metadataPath file = .ok identity) ∨
          ((w.server.fetchSessions.run file).result = .ok [] ∧
            ∃ identity lastModified, Identity.ofFile w.metadataPath file = .ok identity ∧
              ((control.describe w.platform identity.name).run file).result = .ok lastModified ∧
              p.threshold < now.since lastModified)) ∧
        ∃ terminals, (w.server.fetchTerminals.run file).result = .ok terminals ∧
          ∀ t ∈ terminals, t.IsIdle p now := by
  rw [stop_mem_attempts_iff]
  constructor
  · rintro ⟨ds, o, v, ds', identity, hcollect, heval, hidle, hid⟩
    obtain ⟨hsignal, hterminals⟩ :=
      Observations.entities_idle_iff.1 ((evaluate_idle_iff o file).1 ⟨v, heval, hidle⟩)
    obtain ⟨hfetch', ⟨sessions, hfetch, hne, hsessions, hknown, -⟩ |
      ⟨identity', lastModified, hfetch, hread, hdesc, hfallback, -, -⟩⟩ := hcollect.shape
    · -- the instance was not asked for, so it was identified after the verdict
      rw [hsessions] at hsignal
      rw [hknown] at hid
      cases hid with
      | read hread =>
        exact ⟨Or.inl ⟨sessions, hfetch, hne, hsignal, identity, hread⟩, _, hfetch', hterminals⟩
    · rw [hfallback] at hsignal
      exact ⟨Or.inr ⟨hfetch, identity', lastModified, hread, hdesc, hsignal⟩, _, hfetch',
        hterminals⟩
  · -- each way the stages give observations in which every entity is idle
    rintro ⟨⟨sessions, hfetch, hne, hsessions, identity, hread⟩ |
      ⟨hfetch, identity, lastModified, hread, hdesc, hold⟩, terminals, hfetch', hterminals⟩
    · obtain ⟨v, heval, hidle⟩ :=
        (evaluate_idle_iff ⟨.sessions sessions, terminals, none⟩ file).2
          (Observations.entities_idle_iff.2 ⟨hsessions, hterminals⟩)
      exact ⟨_, _, v, _, identity, .collected (.listed hfetch hne) hfetch', heval, hidle,
        .read hread⟩
    · obtain ⟨v, heval, hidle⟩ :=
        (evaluate_idle_iff ⟨.fallback lastModified, terminals, some identity⟩ file).2
          (Observations.entities_idle_iff.2 ⟨hold, hterminals⟩)
      exact ⟨_, _, v, _, identity, .collected (.described hfetch hread hdesc) hfetch', heval,
        hidle, .known identity⟩

end Check

end IdleStop
