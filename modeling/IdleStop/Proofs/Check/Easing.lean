import IdleStop.Proofs.Check.Evaluation
/-!
# Easier policies

Under an easier policy less counts as activity: the threshold is shorter, or
connected clients do not count any more. For one entity this changes little
(`Entity.assess_eased`): a blocker goes, or the clients that blocked give way to
a time that was not read before, and that may be no time at all. So whatever was
idle stays idle, whatever failed still fails, and nothing is blocked that was
not; only where clients count alike do errors stay the same.
-/

namespace IdleStop

/-- Under `q` no more counts as activity than under `p`. -/
structure Policy.Easier (q p : Policy) : Prop where
  threshold : q.threshold ≤ p.threshold
  clients : p.ignoreConnections = true → q.ignoreConnections = true

variable {p q : Policy} {now : Instant} {e : Entity} {es : List Entity} {err : CheckError}

/-! ## One entity -/

/-- What becomes of an assessment under `p` when the policy is `q`. -/
inductive Eased (p q : Policy) :
    Except CheckError (Option Blocker) → Except CheckError (Option Blocker) → Prop
  | same (r : Except CheckError (Option Blocker)) : Eased p q r r
  /-- The entity is idle now. -/
  | cleared (b : Blocker) : Eased p q (.ok (some b)) (.ok none)
  /-- The clients do not count now, and anything may be found behind them. -/
  | uncovered (session : String) (connections : UInt64) (r : Except CheckError (Option Blocker))
      (hp : p.ignoreConnections = false) (hq : q.ignoreConnections = true) :
      Eased p q (.ok (some (.connectedClients session connections))) r

namespace Eased

variable {r r' : Except CheckError (Option Blocker)}

theorem eq_of_idle (h : Eased p q (.ok none) r') : r' = .ok none := by
  cases h
  rfl

theorem eq_of_error (h : Eased p q (.error err) r') : r' = .error err := by
  cases h
  rfl

theorem exists_of_blocked {b' : Blocker} (h : Eased p q r (.ok (some b'))) :
    ∃ b, r = .ok (some b) := by
  cases h with
  | same => exact ⟨b', rfl⟩
  | uncovered session connections => exact ⟨.connectedClients session connections, rfl⟩

end Eased

namespace Entity

/-- A time that was far enough back still is. -/
theorem assessTime_eased (h : q.Easier p) (last : Instant) (blocker : Instant → Blocker) :
    Eased p q (.ok (assessTime p now last blocker)) (.ok (assessTime q now last blocker)) := by
  have hthreshold : q.threshold.nanoseconds ≤ p.threshold.nanoseconds := h.threshold
  unfold assessTime Instant.isOlderThan
  by_cases hp : p.threshold < now.since last
  · have hq : q.threshold < now.since last := Int.lt_of_le_of_lt hthreshold hp
    rw [if_pos (by simpa using hp), if_pos (by simpa using hq)]
    exact .same _
  · rw [if_neg (by simpa using hp)]
    split
    · exact .cleared _
    · exact .same _

/-- The same of a time that has to be read: if it cannot be, the error is the
same under both. -/
theorem assessText_eased (h : q.Easier p) (text : String) (blocker : Instant → Blocker) :
    Eased p q
      (do let last ← ActivityStamp.parse text; return assessTime p now last blocker)
      (do let last ← ActivityStamp.parse text; return assessTime q now last blocker) := by
  cases ActivityStamp.parse text with
  | error err => exact .same _
  | ok last => exact assessTime_eased h last blocker

/-- **An easier policy clears a blocker or looks behind the clients**, and
changes nothing else of an assessment. -/
theorem assess_eased (h : q.Easier p) (now : Instant) (e : Entity) :
    Eased p q (e.assess p now) (e.assess q now) := by
  cases e with
  | machine last => exact assessTime_eased h last _
  | terminal t => exact assessText_eased h _ _
  | session s =>
    rw [assess, assess]
    by_cases hstate : s.kernel.state ≠ .idle
    · rw [if_pos hstate, if_pos hstate]
      exact .same _
    · rw [if_neg hstate, if_neg hstate]
      by_cases hp : ¬ p.ignoreConnections = true ∧ 0 < s.kernel.connections
      · rw [if_pos hp]
        -- clients are connected and count under `p`
        by_cases hq : q.ignoreConnections = true
        · exact .uncovered _ _ _ (Bool.eq_false_iff.2 hp.1) hq
        · rw [if_pos ⟨hq, hp.2⟩]
          exact .same _
      · have hq : ¬ (¬ q.ignoreConnections = true ∧ 0 < s.kernel.connections) := fun hq =>
          hp ⟨fun hignored => hq.1 (h.clients hignored), hq.2⟩
        rw [if_neg hp, if_neg hq]
        exact assessText_eased h _ _

end Entity

/-! ## All entities -/

namespace Survey

/-- What was idle stays idle. -/
theorem idle_of_easier (h : q.Easier p) (hidle : ∀ e ∈ es, e.assess p now = .ok none) :
    ∀ e ∈ es, e.assess q now = .ok none := by
  intro e he
  have heased := Entity.assess_eased h now e
  rw [hidle e he] at heased
  exact heased.eq_of_idle

/-- What cannot be assessed still cannot be. -/
theorem error_of_easier (h : q.Easier p) (hfails : ∃ e ∈ es, ∃ err, e.assess p now = .error err) :
    ∃ e ∈ es, ∃ err, e.assess q now = .error err := by
  obtain ⟨e, he, err, herr⟩ := hfails
  have heased := Entity.assess_eased h now e
  rw [herr] at heased
  exact ⟨e, he, err, heased.eq_of_error⟩

/-- Where clients count alike, an easier policy changes neither where a survey
ends nor anything found but that some blockers go. -/
theorem ofEntities_eased (h : q.Easier p) (hclients : p.ignoreConnections = q.ignoreConnections)
    (now : Instant) (es : List Entity) :
    (ofEntities q now es).error = (ofEntities p now es).error ∧
      List.Sublist ((ofEntities q now es).findings.filterMap Finding.blocker)
        ((ofEntities p now es).findings.filterMap Finding.blocker) := by
  induction es with
  | nil => exact ⟨rfl, List.Sublist.refl _⟩
  | cons e es ih =>
    -- an error ends both surveys here; otherwise the rests are as `ih` says
    obtain ⟨herror, hblockers⟩ := ih
    have heased := Entity.assess_eased h now e
    cases hp : e.assess p now with
    | error err =>
      rw [hp] at heased
      rw [ofEntities_cons_error hp, ofEntities_cons_error heased.eq_of_error]
      exact ⟨rfl, List.Sublist.refl _⟩
    | ok b =>
      rw [hp] at heased
      generalize hq : e.assess q now = r at heased
      cases heased with
      | same =>
        rw [ofEntities_cons_ok hp, ofEntities_cons_ok hq]
        refine ⟨herror, ?_⟩
        cases b with
        | none => exact hblockers
        | some blocker => exact hblockers.cons_cons blocker
      | cleared blocker =>
        rw [ofEntities_cons_ok hp, ofEntities_cons_ok hq]
        exact ⟨herror, hblockers.cons blocker⟩
      | uncovered session connections _ hcounts hignored =>
        rw [hcounts, hignored] at hclients
        cases hclients

end Survey

namespace Check

/-- **An easier policy never finds more.** If everything was idle it still is,
and an evaluation that failed still fails; when both come to a verdict, every
entity that blocks blocked before. Where clients count alike, both fail on the
same observations with the same error, and the blockers are some of those before,
in their order. -/
theorem evaluate_of_easier (h : q.Easier p) (o : Observations) (now : Instant) (file : File) :
    let alone := fun (p : Policy) (e : Entity) => ((examine p now e).run file).result
    let answer := fun p : Policy => ((evaluate o p now).run file).result
    ((∃ v, answer p = .ok v ∧ v.isIdle = true) → ∃ v, answer q = .ok v ∧ v.isIdle = true) ∧
    ((∃ err, answer p = .error err) → ∃ err, answer q = .error err) ∧
    (∀ v v', answer p = .ok v → answer q = .ok v' →
      ∀ e ∈ o.entities, ∀ b', alone q e = .ok (some b') →
        b' ∈ v'.blockers ∧ ∃ b ∈ v.blockers, alone p e = .ok (some b)) ∧
    (p.ignoreConnections = q.ignoreConnections →
      (∀ err, answer p = .error err ↔ answer q = .error err) ∧
      ∀ v v', answer p = .ok v → answer q = .ok v' → List.Sublist v'.blockers v.blockers) := by
  dsimp only
  refine ⟨fun hidle => ?_, fun hfails => ?_, fun v v' hv hv' e he b' hblocked => ?_,
    fun hclients => ?_⟩
  · rw [evaluate_idle_iff] at hidle ⊢
    exact Survey.idle_of_easier h hidle
  · simp only [evaluate_run, Observations.evaluate, Observations.survey,
      Survey.exists_verdict_error_iff] at hfails ⊢
    exact Survey.error_of_easier h hfails
  · rw [examine_result] at hblocked
    rw [evaluate_run] at hv hv'
    refine ⟨(Survey.mem_blockers_iff hv').2 ⟨e, he, hblocked⟩, ?_⟩
    have heased := Entity.assess_eased h now e
    rw [hblocked] at heased
    obtain ⟨b, hb⟩ := heased.exists_of_blocked
    exact ⟨b, (Survey.mem_blockers_iff hv).2 ⟨e, he, hb⟩, (examine_result file).trans hb⟩
  · obtain ⟨herror, hblockers⟩ := Survey.ofEntities_eased h hclients now o.entities
    simp only [evaluate_run, Observations.evaluate, Observations.survey, Survey.verdict, herror]
    cases (Survey.ofEntities p now o.entities).error with
    | some err => simp
    | none =>
      refine ⟨by simp, fun v v' hv hv' => ?_⟩
      obtain rfl := Except.ok.inj hv
      obtain rfl := Except.ok.inj hv'
      exact hblockers

/-- A terminal that cannot be read, behind a session that its client makes
active; where clients do not count, the session cannot be read either. -/
theorem evaluate_of_easier_unread :
    let p : Policy := ⟨.ofSeconds 600, false, 8443⟩
    let q : Policy := ⟨.ofSeconds 300, true, 8443⟩
    let o : Observations :=
      ⟨.sessions [⟨none, some "a.ipynb", ⟨none, none, .idle, 1, "soon"⟩⟩], [⟨none, "late"⟩], none⟩
    let now : Instant := ⟨1709294400, 0, by decide⟩
    q.Easier p ∧ ((evaluate o p now).run .missing).result = .error (.format "late" .activity) ∧
      ∃ err, ((evaluate o q now).run .missing).result = .error err := by
  intro p q o now
  have heasier : q.Easier p := ⟨by decide, fun _ => rfl⟩
  have hfails : ((evaluate o p now).run .missing).result = .error (.format "late" .activity) := rfl
  exact ⟨heasier, hfails, (evaluate_of_easier heasier o now .missing).2.1 ⟨_, hfails⟩⟩

end Check

end IdleStop
