import IdleStop.Check.Series
import IdleStop.Proofs.Action
/-!
# What a plan comes to

The settings of a plan are accepted or not before anything is done. If they
are, the plan comes to what its check comes to, behind one line of the log;
if they are not, it fails and has done nothing.
-/

namespace IdleStop

open IdleStop.Action

namespace ControlPlane

/-- A configured tool is refused just if it is missing. -/
theorem ofSettings_eq_error_iff {s : ControlSettings} {platform : Platform} {e : CheckError} :
    ofSettings s platform = .error e ↔
      ∃ path, s.path = some path ∧ platform.programAt path = .missing ∧
        e = .configuration (.missingCommand path) := by
  rw [ofSettings]
  cases s.path with
  | none => simp
  | some path =>
    by_cases hmissing : platform.programAt path = .missing
    · simp [hmissing, eq_comm]
    · simp [hmissing]

/-- A tool that is configured is there. -/
def Present (s : ControlSettings) (platform : Platform) : Prop :=
  ∀ path, s.path = some path → platform.programAt path ≠ .missing

theorem exists_ofSettings_of_present {s : ControlSettings} {platform : Platform}
    (h : Present s platform) : ∃ control, ofSettings s platform = .ok control := by
  cases hsettings : ofSettings s platform with
  | ok control => exact ⟨control, rfl⟩
  | error e =>
    obtain ⟨path, hpath, hmissing, -⟩ := ofSettings_eq_error_iff.1 hsettings
    exact absurd hmissing (h path hpath)

end ControlPlane

/-- What is not accepted of the minutes is a matter of configuration. -/
theorem Policy.configuration_of_ofMinutes {minutes : Nat} {ignoreConnections : Bool}
    {port : UInt16} {e : CheckError} (h : ofMinutes minutes ignoreConnections port = .error e) :
    ∃ fault, e = .configuration fault := by
  rw [ofMinutes] at h
  split at h
  · exact ⟨_, (Except.error.inj h).symm⟩
  · split at h
    · cases h
    · exact ⟨_, (Except.error.inj h).symm⟩

namespace Plan

variable {p : Plan} {w : World} {now : Instant} {file : File}
variable {policy : Policy} {control : ControlPlane}

/-- The check that a plan leads to, given by its policy and control plane. -/
structure Leads (p : Plan) (w : World) (policy : Policy) (control : ControlPlane) : Prop where
  policy : Policy.ofMinutes p.minutes p.ignoreConnections p.port = .ok policy
  control : ControlPlane.ofSettings p.control w.platform = .ok control

/-- What is rejected of a plan. -/
def Rejected (p : Plan) (w : World) : Prop :=
  (∃ e, Policy.ofMinutes p.minutes p.ignoreConnections p.port = .error e) ∨
    ∃ e, ControlPlane.ofSettings p.control w.platform = .error e

/-- A plan is rejected or leads to a check. -/
theorem rejected_or_leads (p : Plan) (w : World) :
    p.Rejected w ∨ ∃ policy control, p.Leads w policy control := by
  cases hpolicy : Policy.ofMinutes p.minutes p.ignoreConnections p.port with
  | error e => exact Or.inl (Or.inl ⟨e, hpolicy⟩)
  | ok policy =>
    cases hcontrol : ControlPlane.ofSettings p.control w.platform with
    | error e => exact Or.inl (Or.inr ⟨e, hcontrol⟩)
    | ok control => exact Or.inr ⟨policy, control, hpolicy, hcontrol⟩

/-- A plan that is rejected fails with an error of configuration and does
nothing. -/
theorem perform_run_of_rejected (h : p.Rejected w) (now : Instant) (file : File) :
    ∃ fault, (p.perform w now).run file = ⟨.error (.configuration fault), [], file⟩ := by
  unfold perform
  cases hpolicy : Policy.ofMinutes p.minutes p.ignoreConnections p.port with
  | error e =>
    obtain ⟨fault, rfl⟩ := Policy.configuration_of_ofMinutes hpolicy
    exact ⟨fault, rfl⟩
  | ok policy =>
    obtain ⟨e, he⟩ | ⟨e, he⟩ := h
    · cases hpolicy.symm.trans he
    · obtain ⟨path, -, -, rfl⟩ := ControlPlane.ofSettings_eq_error_iff.1 he
      refine ⟨.missingCommand path, ?_⟩
      rw [run_bind_of_ok rfl, ControlPlane.locate, he]
      rfl

/-- A plan that leads to a check comes to what that check comes to. -/
theorem perform_run_of_leads (h : p.Leads w policy control) (now : Instant) (file : File) :
    (p.perform w now).run file =
      ⟨((Check.run w control policy now).run file).result,
        .logged ⟨.control, .debug, "Using aws CLI: " ++ control.tool⟩ ::
          ((Check.run w control policy now).run file).events,
        ((Check.run w control policy now).run file).metadata⟩ := by
  rw [perform, h.policy, run_bind_of_ok rfl, ControlPlane.locate, h.control]
  rfl

end Plan

end IdleStop
