import IdleStop.Proofs.Check.Instance
import IdleStop.Proofs.Check.Plan
import IdleStop.Proofs.Check.Protocol
import IdleStop.Proofs.Check.Stopping
/-!
# A notebook in use

As long as there are sessions and something is active, a check has nothing to
ask of the control plane: no command is tried, and neither the commands nor
the metadata file nor the settings of the tool can be told from what the
check comes to. They come into play only where everything was found idle,
and that too does not depend on them.
-/

namespace IdleStop

open IdleStop.Action

/-- A line that a limit does not let through is not shown. -/
theorem LogLimit.select_cons_of_not_passes {limit : LogLimit} {level : LogLevel}
    (h : limit.passes level = false) (source : LogSource) (text : String) (lines : List LogLine) :
    limit.select (⟨source, level, text⟩ :: lines) = limit.select lines :=
  List.filter_cons_of_neg (by simp [h])

namespace Check

/-- A check finds everything idle: it collects, evaluates, and the verdict is
idle. -/
def FindsIdle (w : World) (control : ControlPlane) (p : Policy) (now : Instant) (file : File) :
    Prop :=
  ∃ o v, ((collect w control).run file).result = .ok o ∧
    ((evaluate o p now).run file).result = .ok v ∧ v.isIdle = true

variable {w w' : World} {control control' : ControlPlane} {p : Policy} {now : Instant}
variable {file file' : File} {sessions : List Session} {s : Session}

/-! ## A kernel that is not idle -/

/-- What is collected are the sessions, if there are any. -/
theorem signal_of_listed {o : Observations}
    (hfetch : (w.server.fetchSessions.run file).result = .ok sessions) (hne : sessions ≠ [])
    (ho : ((collect w control).run file).result = .ok o) : o.signal = .sessions sessions := by
  obtain ⟨ds, r, hcollect⟩ := exists_collectCourse w control file
  obtain ⟨_, hyields, -⟩ := hcollect.yields
  obtain rfl := hyields.result.symm.trans ho
  obtain ⟨-, ⟨sessions', hfetch', -, hsignal, -⟩ | ⟨_, _, hfetch', -⟩⟩ := hcollect.shape
  · obtain rfl := Except.ok.inj (hfetch.symm.trans hfetch')
    exact hsignal
  · exact absurd (Except.ok.inj (hfetch.symm.trans hfetch')) hne

/-- With a kernel that is not idle, not everything is. -/
theorem not_findsIdle_of_state
    (hfetch : (w.server.fetchSessions.run file).result = .ok sessions) (hs : s ∈ sessions)
    (hstate : s.kernel.state ≠ .idle) : ¬ FindsIdle w control p now file := by
  rintro ⟨o, v, ho, hv, hidle⟩
  have hsignal := signal_of_listed hfetch (List.ne_nil_of_mem hs) ho
  have hall := Observations.entities_idle_iff.1 ((evaluate_idle_iff o file).1 ⟨v, hv, hidle⟩)
  rw [hsignal] at hall
  exact hstate (hall.1 s hs).1

/-! ## Without a command -/

/-- A verdict that is not idle is reported, and that is all. -/
theorem act_acts_of_active {v : Verdict} (h : v.isIdle = false) (known : Option Identity) :
    (act w control p now known v).Acts [] id := by
  unfold act
  rw [h]
  exact .log_bind (.log_bind (.pure _))

/-- **A check that finds sessions, but not everything idle, tries no
command.** -/
theorem command_not_mem_attempts (hfetch : (w.server.fetchSessions.run file).result = .ok sessions)
    (hne : sessions ≠ []) (hnot : ¬ FindsIdle w control p now file) (args : List String) :
    .command args ∉ ((run w control p now).run file).events.attempts := by
  intro hargs
  have hcourse := course_run w control p now file
  have hargs' := hargs
  rw [Trace.attempts_eq_calls] at hargs'
  obtain ⟨identity, -, op, rfl⟩ := hcourse.command_mem hargs'
  cases op with
  | describe =>
    obtain ⟨hnone, -⟩ := hcourse.describe_mem_iff.1 ⟨identity.name, hargs'⟩
    exact hne (Except.ok.inj (hfetch.symm.trans hnone))
  | stop =>
    obtain ⟨_, o, v, _, _, hcollect, heval, hidle, -⟩ := stop_mem_attempts_iff.1 ⟨_, hargs, rfl⟩
    obtain ⟨_, hyields, -⟩ := hcollect.yields
    exact hnot ⟨o, v, hyields.result, heval, hidle⟩

/-- With sessions, what is collected leaves the metadata file alone. -/
theorem collect_metadata_of_listed
    (hfetch : (w.server.fetchSessions.run file).result = .ok sessions) (hne : sessions ≠ []) :
    ((collect w control).run file).metadata = file := by
  have hempty : sessions.isEmpty = false := List.isEmpty_eq_false_iff.2 hne
  unfold collect collectSignal
  refine metadata_bind (metadata_bind (Server.fetchSessions_acts.metadata file) ?_) fun _ _ => ?_
  · intro listed hlisted
    obtain rfl := Except.ok.inj (hfetch.symm.trans hlisted)
    rw [hempty]
    rfl
  · refine metadata_bind (Server.fetchTerminals_acts.metadata file) fun terminals _ => ?_
    cases terminals.isEmpty <;> rfl

theorem run_metadata_of_listed
    (hfetch : (w.server.fetchSessions.run file).result = .ok sessions) (hne : sessions ≠ [])
    (hnot : ¬ FindsIdle w control p now file) :
    ((run w control p now).run file).metadata = file := by
  unfold run
  refine metadata_bind (collect_metadata_of_listed hfetch hne) fun o ho => ?_
  refine metadata_bind ((evaluate_acts o).metadata file) fun v hv => ?_
  cases hidle : v.isIdle with
  | true => exact absurd ⟨o, v, ho, hv, hidle⟩ hnot
  | false => exact (act_acts_of_active hidle o.identity).metadata file

/-! ## Two worlds -/

/-- With sessions, what is collected does not depend on the control plane. -/
theorem collect_alike_of_listed (hserver : w'.server = w.server)
    (hfetch : (w.server.fetchSessions.run file).result = .ok sessions) (hne : sessions ≠ []) :
    Alike ((collect w control).run file) ((collect w' control').run file') := by
  have hempty : sessions.isEmpty = false := List.isEmpty_eq_false_iff.2 hne
  unfold collect collectSignal
  rw [hserver]
  refine Alike.bind (Alike.bind (Server.fetchSessions_acts.blind _ _) ?_) fun _ _ => ?_
  · intro listed hlisted
    obtain rfl := Except.ok.inj (hfetch.symm.trans hlisted)
    rw [hempty, if_neg Bool.false_ne_true, if_neg Bool.false_ne_true]
    refine Blind.bind (Acts.log _ _ _).blind (fun _ => ?_) _ _
    exact (Acts.pure _).blind
  · refine Blind.bind Server.fetchTerminals_acts.blind (fun terminals => ?_) _ _
    cases terminals.isEmpty with
    | false => exact Acts.blind (.log_bind (.pure _))
    | true => exact Acts.blind (.pure _)

/-- Whether everything is found idle does not depend on the control plane. -/
theorem FindsIdle.of_listed (hserver : w'.server = w.server)
    (hfetch : (w.server.fetchSessions.run file).result = .ok sessions) (hne : sessions ≠ [])
    (h : FindsIdle w control p now file) : FindsIdle w' control' p now file' := by
  obtain ⟨o, v, ho, hv, hidle⟩ := h
  exact ⟨o, v, (collect_alike_of_listed hserver hfetch hne).1.symm.trans ho,
    (evaluate_acts o).blind.result_eq hv file', hidle⟩

/-- **Nothing of the control plane shows in a check that finds sessions, but
not everything idle.** -/
theorem run_alike_of_listed (hserver : w'.server = w.server)
    (hfetch : (w.server.fetchSessions.run file).result = .ok sessions) (hne : sessions ≠ [])
    (hnot : ¬ FindsIdle w control p now file) :
    Alike ((run w control p now).run file) ((run w' control' p now).run file') := by
  have hfetch' : (w'.server.fetchSessions.run file').result = .ok sessions := by
    rw [hserver]
    exact Server.fetchSessions_acts.blind.result_eq hfetch file'
  unfold run
  refine (collect_alike_of_listed hserver hfetch hne).bind fun o ho => ?_
  rw [collect_metadata_of_listed hfetch hne, collect_metadata_of_listed hfetch' hne]
  refine Alike.bind ((evaluate_acts o).blind _ _) fun v hv => ?_
  cases hidle : v.isIdle with
  | true => exact absurd ⟨o, v, ho, hv, hidle⟩ hnot
  | false =>
    -- both report the same verdict in the same words
    have hact : act w' control' p now o.identity v = act w control p now o.identity v := by
      unfold act
      rw [hidle]
      rfl
    rw [hact]
    exact (act_acts_of_active hidle o.identity).blind _ _

end Check

/-! ## Two plans -/

namespace Plan

variable {plan : Plan} {w w' : World} {now : Instant} {file file' : File}
variable {sessions : List Session} {settings : ControlSettings}

/-- A plan leads to a check that finds everything idle. -/
def FindsIdle (plan : Plan) (w : World) (now : Instant) (file : File) : Prop :=
  ∃ policy control, plan.Leads w policy control ∧ Check.FindsIdle w control policy now file

theorem Leads.findsIdle_iff {policy : Policy} {control : ControlPlane}
    (h : plan.Leads w policy control) :
    plan.FindsIdle w now file ↔ Check.FindsIdle w control policy now file := by
  constructor
  · rintro ⟨policy', control', h', hidle⟩
    obtain rfl := Except.ok.inj (h.policy.symm.trans h'.policy)
    obtain rfl := Except.ok.inj (h.control.symm.trans h'.control)
    exact hidle
  · exact fun hidle => ⟨policy, control, h, hidle⟩

theorem FindsIdle.of_listed (hserver : w'.server = w.server)
    (hfetch : (w.server.fetchSessions.run file).result = .ok sessions) (hne : sessions ≠ [])
    (htool : ControlPlane.Present settings w'.platform) (h : plan.FindsIdle w now file) :
    FindsIdle { plan with control := settings } w' now file' := by
  obtain ⟨policy, control, hleads, hidle⟩ := h
  obtain ⟨control', hcontrol'⟩ := ControlPlane.exists_ofSettings_of_present htool
  exact ⟨policy, control', ⟨hleads.policy, hcontrol'⟩, hidle.of_listed hserver hfetch hne⟩

/-- **While the notebook is in use, what a plan comes to does not depend on the
control plane.** In two worlds with the same server, sessions in it, and tools
that are there, either both plans find everything idle or none does. If not,
they come to the same, with the same calls and the same log down to its level
`info`; no command is tried, and the metadata file stays as it is. -/
theorem perform_blind_while_in_use (hserver : w'.server = w.server)
    (hfetch : (w.server.fetchSessions.run file).result = .ok sessions) (hne : sessions ≠ [])
    (htool : ControlPlane.Present plan.control w.platform)
    (htool' : ControlPlane.Present settings w'.platform) (now : Instant) (file' : File) :
    let plan' : Plan := { plan with control := settings }
    let o := (plan.perform w now).run file
    let o' := (plan'.perform w' now).run file'
    let shown := LogLimit.select (some .info)
    (plan.FindsIdle w now file ↔ plan'.FindsIdle w' now file') ∧
    (¬ plan.FindsIdle w now file →
      o'.result = o.result ∧ o'.events.attempts = o.events.attempts ∧
        o'.events.calls = o.events.calls ∧ shown o'.events.log = shown o.events.log ∧
        (∀ args, .command args ∉ o.events.attempts) ∧
        o.metadata = file ∧ o'.metadata = file') := by
  have hfetch' : (w'.server.fetchSessions.run file').result = .ok sessions := by
    rw [hserver]
    exact Server.fetchSessions_acts.blind.result_eq hfetch file'
  intro plan' o o' shown
  have hidle : plan.FindsIdle w now file ↔ plan'.FindsIdle w' now file' :=
    ⟨.of_listed hserver hfetch hne htool', .of_listed hserver.symm hfetch' hne htool⟩
  refine ⟨hidle, fun hnot => ?_⟩
  cases hpolicy : Policy.ofMinutes plan.minutes plan.ignoreConnections plan.port with
  | error e =>
    -- neither plan gets as far as a request
    have ho : o = ⟨.error e, [], file⟩ := by simp only [o, perform, hpolicy]; rfl
    have ho' : o' = ⟨.error e, [], file'⟩ := by simp only [o', plan', perform, hpolicy]; rfl
    simp [ho, ho', Trace.attempts]
  | ok policy =>
    obtain ⟨control, hcontrol⟩ := ControlPlane.exists_ofSettings_of_present htool
    obtain ⟨control', hcontrol'⟩ := ControlPlane.exists_ofSettings_of_present htool'
    have hleads : plan.Leads w policy control := ⟨hpolicy, hcontrol⟩
    have hleads' : plan'.Leads w' policy control' := ⟨hpolicy, hcontrol'⟩
    have hcheck : ¬ Check.FindsIdle w control policy now file :=
      fun h => hnot (hleads.findsIdle_iff.2 h)
    have hcheck' : ¬ Check.FindsIdle w' control' policy now file' :=
      fun h => hnot (hidle.2 (hleads'.findsIdle_iff.2 h))
    have halike : Alike ((Check.run w control policy now).run file)
        ((Check.run w' control' policy now).run file') :=
      Check.run_alike_of_listed hserver hfetch hne hcheck
    obtain ⟨hresult, hevents⟩ := halike
    have ho : o = _ := perform_run_of_leads hleads now file
    have ho' : o' = _ := perform_run_of_leads hleads' now file'
    -- what tells the tool stands in a line below the level
    have hquiet : LogLimit.passes (some .info) .debug = false := rfl
    rw [ho, ho']
    simp only [Trace.attempts_cons_logged, Trace.calls_cons_logged, Trace.log_cons_logged, shown,
      LogLimit.select_cons_of_not_passes hquiet, ← hresult, ← hevents, true_and]
    exact ⟨Check.command_not_mem_attempts hfetch hne hcheck,
      Check.run_metadata_of_listed hfetch hne hcheck,
      Check.run_metadata_of_listed hfetch' hne hcheck'⟩

/-- A busy notebook, in a world whose tool cannot be run and whose metadata file
is blank, and in one whose tool is where it is said to be. -/
theorem perform_blind_while_in_use_busy :
    let kernel : Kernel := ⟨none, none, .busy, 0, ""⟩
    let body := "[\x7b\"kernel\":\x7b\"execution_state\":\"busy\"," ++
      "\"connections\":0,\"last_activity\":\"\"\x7d\x7d]"
    let server : Server := ⟨"http://127.0.0.1:8000", .answer 200 body.toUTF8.data.toList true,
      .answer 200 "[]".toUTF8.data.toList true⟩
    let quiet : Behaviour := ⟨[], [], some 0, true⟩
    let w : World := ⟨server, ⟨fun _ => .missing, .unrunnable .denied, quiet, quiet⟩, "metadata"⟩
    let w' : World := ⟨server, ⟨fun _ => .runnable, .missing, quiet, quiet⟩, "elsewhere"⟩
    let plan : Plan := ⟨10, true, 8000, ⟨none, none, none⟩⟩
    let settings : ControlSettings := ⟨some "/opt/aws", some "eu-west-1", none⟩
    let plan' : Plan := { plan with control := settings }
    let now : Instant := ⟨1709294400, 0, by decide⟩
    let o := (plan.perform w now).run (.bytes [])
    let o' := (plan'.perform w' now).run .missing
    let shown := LogLimit.select (some .info)
    w'.server = w.server ∧
      (w.server.fetchSessions.run (.bytes [])).result = .ok [⟨none, none, kernel⟩] ∧
      ControlPlane.Present plan.control w.platform ∧ ControlPlane.Present settings w'.platform ∧
      ¬ plan.FindsIdle w now (.bytes []) ∧ ¬ plan'.FindsIdle w' now .missing ∧
      o'.result = o.result ∧ o'.events.attempts = o.events.attempts ∧
      o'.events.calls = o.events.calls ∧ shown o'.events.log = shown o.events.log ∧
      (∀ args, .command args ∉ o.events.attempts) ∧
      o.metadata = .bytes [] ∧ o'.metadata = .missing := by
  intro kernel body server quiet w w' plan settings plan' now o o' shown
  have hserver : w'.server = w.server := rfl
  have hfetch : (w.server.fetchSessions.run (.bytes [])).result = .ok [⟨none, none, kernel⟩] := by
    simp only [w, server, body, kernel]
    rfl
  have htool : ControlPlane.Present plan.control w.platform := fun path h => nomatch h
  have htool' : ControlPlane.Present settings w'.platform := by
    rintro path - h
    cases h
  have hnot : ¬ plan.FindsIdle w now (.bytes []) := fun ⟨_, _, _, hidle⟩ =>
    Check.not_findsIdle_of_state hfetch (List.mem_singleton_self _) nofun hidle
  obtain ⟨hidle, halike⟩ :=
    perform_blind_while_in_use hserver hfetch (List.cons_ne_nil _ _) htool htool' now .missing
  exact ⟨hserver, hfetch, htool, htool', hnot, fun h => hnot (hidle.2 h), halike hnot⟩

end Plan

end IdleStop
