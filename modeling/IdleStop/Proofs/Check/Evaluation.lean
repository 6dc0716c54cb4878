import IdleStop.Check.Run
import IdleStop.Proofs.Action
/-!
# The evaluation is the survey

An evaluation goes through the sessions and the terminals in two loops and
carries a verdict along. `evaluate_run` says that it comes to what the survey
of the row of entities tells: the same verdict or error, the same log, and
nothing else done. So what holds of surveys (the first error ends them, no
blocker is lost or moved) holds of evaluations.
-/

namespace IdleStop

open IdleStop.Action

variable {p : Policy} {now : Instant} {e : Entity} {es : List Entity} {err : CheckError}

/-! ## Surveys -/

namespace Survey

theorem ofEntities_cons_error (h : e.assess p now = .error err) :
    ofEntities p now (e :: es) = ⟨[], some err⟩ := by
  rw [ofEntities, h]

theorem ofEntities_cons_ok {b : Option Blocker} (h : e.assess p now = .ok b) :
    ofEntities p now (e :: es) =
      ⟨⟨e, b⟩ :: (ofEntities p now es).findings, (ofEntities p now es).error⟩ := by
  rw [ofEntities, h]

/-- **The first error ends a survey**, whatever was found before it. -/
theorem error_ofEntities {i : Nat} (hi : es[i]? = some e) (he : e.assess p now = .error err)
    (hbefore : ∀ j e', j < i → es[j]? = some e' → ∃ b, e'.assess p now = .ok b) :
    (ofEntities p now es).error = some err := by
  induction es generalizing i with
  | nil => simp at hi
  | cons e₀ es ih =>
    cases i with
    | zero =>
      obtain rfl : e₀ = e := by simpa using hi
      rw [ofEntities_cons_error he]
    | succ i =>
      obtain ⟨b, hb⟩ := hbefore 0 e₀ (Nat.succ_pos i) rfl
      rw [ofEntities_cons_ok hb]
      exact ih hi fun j e' hj hj' => hbefore (j + 1) e' (Nat.succ_lt_succ hj) hj'

/-- A survey without an error finds what each entity comes to on its own. -/
theorem ofEntities_of_forall_ok (h : ∀ e ∈ es, ∃ b, e.assess p now = .ok b) :
    (ofEntities p now es).error = none ∧
      (ofEntities p now es).findings.filterMap Finding.blocker =
        es.filterMap fun e => (e.assess p now).toOption.join := by
  induction es with
  | nil => exact ⟨rfl, rfl⟩
  | cons e es ih =>
    obtain ⟨b, hb⟩ := h e List.mem_cons_self
    obtain ⟨herror, hfindings⟩ := ih fun e' he' => h e' (List.mem_cons_of_mem e he')
    rw [ofEntities_cons_ok hb]
    refine ⟨herror, ?_⟩
    rw [List.filterMap_cons, List.filterMap_cons, hfindings, hb]
    rfl

/-- A survey finds nothing active just if every entity is idle. -/
theorem verdict_ofEntities_idle_iff :
    (ofEntities p now es).verdict = .ok ⟨[]⟩ ↔ ∀ e ∈ es, e.assess p now = .ok none := by
  induction es with
  | nil => simp [ofEntities, verdict]
  | cons e es ih =>
    rw [List.forall_mem_cons, ← ih]
    cases h : e.assess p now with
    | error err => simp [ofEntities_cons_error h, verdict]
    | ok b =>
      rw [ofEntities_cons_ok h]
      cases b with
      | none => simp [verdict]
      | some blocker => cases herr : (ofEntities p now es).error <;> simp [verdict, herr]

/-- A survey fails just if an entity cannot be assessed. -/
theorem exists_verdict_error_iff :
    (∃ err, (ofEntities p now es).verdict = .error err) ↔
      ∃ e ∈ es, ∃ err, e.assess p now = .error err := by
  induction es with
  | nil => simp [ofEntities, verdict]
  | cons e es ih =>
    simp only [List.mem_cons, exists_eq_or_imp, ← ih]
    cases h : e.assess p now with
    | error err => simp [ofEntities_cons_error h, verdict]
    | ok b =>
      rw [ofEntities_cons_ok h]
      cases herr : (ofEntities p now es).error <;> simp [verdict, herr]

/-- A verdict is reached only if every entity can be assessed. -/
theorem forall_ok_of_verdict {v : Verdict} (h : (ofEntities p now es).verdict = .ok v) :
    ∀ e ∈ es, ∃ b, e.assess p now = .ok b := by
  intro e he
  cases hassess : e.assess p now with
  | ok b => exact ⟨b, rfl⟩
  | error err =>
    obtain ⟨err', herr'⟩ := exists_verdict_error_iff.2 ⟨e, he, err, hassess⟩
    rw [h] at herr'
    cases herr'

/-- A blocker of a verdict is one that an entity has on its own. -/
theorem mem_blockers_iff {v : Verdict} {b : Blocker} (h : (ofEntities p now es).verdict = .ok v) :
    b ∈ v.blockers ↔ ∃ e ∈ es, e.assess p now = .ok (some b) := by
  have hok := forall_ok_of_verdict h
  obtain ⟨herror, hfindings⟩ := ofEntities_of_forall_ok hok
  rw [verdict, herror, hfindings] at h
  obtain rfl := Except.ok.inj h
  rw [List.mem_filterMap]
  refine exists_congr fun e => and_congr_right fun he => ?_
  obtain ⟨b', hb'⟩ := hok e he
  rw [hb']
  simp [Except.toOption]

/-- The events of an examination: its log. -/
def events (s : Survey) : Trace :=
  s.log.map .logged

@[simp] theorem deeds_events (s : Survey) : s.events.deeds = [] := by
  simp [events, Trace.deeds, Event.deed?, Function.comp_def]

end Survey

/-! ## Loops -/

namespace Check

/-- What is found of an entity on its own is its assessment. -/
theorem examine_result (file : File) :
    ((examine p now e).run file).result = e.assess p now := by
  cases h : e.assess p now with
  | error err => rw [examine, h]; rfl
  | ok b => rw [examine, h]; cases b <;> rfl

theorem consider_run_of_error (v : Verdict) (file : File) (h : e.assess p now = .error err) :
    (consider p now v e).run file = ⟨.error err, [], file⟩ := by
  rw [consider, examine, h]
  rfl

theorem consider_run_of_ok (v : Verdict) (file : File) {b : Option Blocker}
    (h : e.assess p now = .ok b) :
    (consider p now v e).run file =
      ⟨.ok ⟨v.blockers ++ b.toList⟩,
        [.logged ⟨.evaluation, .info, (Finding.mk e b).text⟩], file⟩ := by
  rw [consider, examine, h]
  cases b with
  | none =>
    rw [Option.toList_none, List.append_nil]
    rfl
  | some blocker => rfl

/-- **A loop over entities comes to their survey**, its blockers put behind
those found before. -/
theorem foldlM_consider_run (v : Verdict) (file : File) :
    (es.foldlM (consider p now) v).run file =
      ⟨(Survey.ofEntities p now es).verdict.map fun v' => ⟨v.blockers ++ v'.blockers⟩,
        (Survey.ofEntities p now es).events, file⟩ := by
  induction es generalizing v with
  | nil => simp [Survey.ofEntities, Survey.verdict, Survey.events, Survey.log, Except.map]
  | cons e es ih =>
    rw [List.foldlM_cons]
    cases h : e.assess p now with
    | error err =>
      have hrun := consider_run_of_error v file h
      rw [run_bind_of_error (by rw [hrun]), hrun, Survey.ofEntities_cons_error h]
      rfl
    | ok b =>
      -- the loop goes on from a verdict with this blocker, which the survey of
      -- the rest does not see: `ih` puts it before what the rest adds
      have hrun := consider_run_of_ok v file h
      rw [run_bind_of_ok (by rw [hrun]), hrun, Survey.ofEntities_cons_ok h, ih]
      cases herr : (Survey.ofEntities p now es).error with
      | some err => simp [Survey.verdict, herr, Survey.events, Survey.log, Except.map]
      | none =>
        cases b <;> simp [Survey.verdict, herr, Survey.events, Survey.log, Except.map]

/-- The two loops of an evaluation are one loop over all entities. -/
theorem evaluate_eq_foldlM (o : Observations) :
    evaluate o p now = o.entities.foldlM (consider p now) ⟨[]⟩ := by
  -- the verdict of the first loop is where the second begins
  rw [Observations.entities, List.foldlM_append]
  simp only [List.foldlM_map]
  unfold evaluate
  cases o.signal with
  | sessions list =>
    rw [SessionSignal.entities, List.foldlM_map]
  | fallback lastModified =>
    rw [SessionSignal.entities, List.foldlM_cons]
    simp only [List.foldlM_nil, bind_pure]

/-- **An evaluation is the survey of everything observed.** -/
theorem evaluate_run (o : Observations) (file : File) :
    (evaluate o p now).run file = ⟨o.evaluate p now, (o.survey p now).events, file⟩ := by
  rw [evaluate_eq_foldlM, foldlM_consider_run, Observations.evaluate, Observations.survey]
  cases h : (Survey.ofEntities p now o.entities).verdict <;> simp [Except.map]

/-- An evaluation does nothing but write its log. -/
theorem evaluate_acts (o : Observations) : (evaluate o p now).Acts [] id where
  blind file file' := by
    rw [evaluate_run, evaluate_run]
    exact ⟨rfl, rfl⟩
  deeds file := by simp [evaluate_run]
  metadata file := by simp [evaluate_run]

/-- An evaluation finds the instance idle just if it finds every entity idle. -/
theorem evaluate_idle_iff (o : Observations) (file : File) :
    (∃ v, ((evaluate o p now).run file).result = .ok v ∧ v.isIdle = true) ↔
      ∀ e ∈ o.entities, e.assess p now = .ok none := by
  rw [← Survey.verdict_ofEntities_idle_iff, evaluate_run]
  constructor
  · rintro ⟨⟨blockers⟩, hv, hidle⟩
    obtain rfl : blockers = [] := List.isEmpty_iff.1 hidle
    exact hv
  · exact fun h => ⟨_, h, rfl⟩

/-- **An evaluation is the ordered conjunction of what each entity comes to
on its own.** The entities are the sessions or the instance in their place,
and then the terminals. If one cannot be assessed, the evaluation ends in
the error of the first such, whatever blockers stand before it. Otherwise
the verdict has all the blockers in their order, and is idle just if there
are none. -/
theorem evaluate_first_error_or_all_blockers (o : Observations) (p : Policy) (now : Instant)
    (file : File) :
    let alone := fun e : Entity => ((examine p now e).run file).result
    let answer := ((evaluate o p now).run file).result
    (∀ (i : Nat) e err, o.entities[i]? = some e → alone e = .error err →
      (∀ j e', j < i → o.entities[j]? = some e' → ∃ b, alone e' = .ok b) →
      answer = .error err) ∧
    ((∀ e ∈ o.entities, ∃ b, alone e = .ok b) →
      ∃ v, answer = .ok v ∧
        v.blockers = (o.entities.filterMap fun e => (alone e).toOption.join) ∧
        (v.isIdle = true ↔ ∀ e ∈ o.entities, alone e = .ok none)) := by
  simp only [examine_result, evaluate_run, Observations.evaluate, Observations.survey]
  refine ⟨fun i e err hi he hbefore => ?_, fun h => ?_⟩
  · rw [Survey.verdict, Survey.error_ofEntities hi he hbefore]
  · obtain ⟨herror, hblockers⟩ := Survey.ofEntities_of_forall_ok h
    -- without an error the verdict is what the findings block
    have hverdict : (Survey.ofEntities p now o.entities).verdict =
        .ok ⟨o.entities.filterMap fun e => (e.assess p now).toOption.join⟩ := by
      rw [Survey.verdict, herror, hblockers]
    refine ⟨_, hverdict, rfl, ?_⟩
    rw [← Survey.verdict_ofEntities_idle_iff, hverdict, Verdict.isIdle, List.isEmpty_iff]
    simp

end Check

end IdleStop
