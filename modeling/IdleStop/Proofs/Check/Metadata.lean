import IdleStop.Proofs.Check.Failure
import IdleStop.Proofs.Check.Stages
/-!
# What becomes of the metadata file

Nothing in a check writes the metadata file. A command that runs may delete it,
and then it is gone; otherwise it stays as it was. That is so of each stage, and
goes along `>>=` (`OnlyDeletes`).
-/

namespace IdleStop

open IdleStop.Action

namespace Trace

variable {t t' : Trace} {platform : Platform}

/-- Among the calls made is a command that deletes the metadata file. -/
def Deletes (platform : Platform) (t : Trace) : Prop :=
  ∃ c ∈ t.calls, ∃ op, c.Asks op ∧ (platform.behaviour op).deletesMetadata = true

theorem deletes_append :
    (t ++ t').Deletes platform ↔ t.Deletes platform ∨ t'.Deletes platform := by
  simp [Deletes, or_and_right, exists_or]

/-- A call that is made has been attempted. -/
theorem mem_attempts_of_mem_calls {c : Call} (h : c ∈ t.calls) : c ∈ t.attempts := by
  obtain ⟨e, he, hc⟩ := List.mem_filterMap.1 h
  refine List.mem_filterMap.2 ⟨e, he, ?_⟩
  split at hc
  · exact hc
  · cases hc

/-- Without a command nothing is deleted. -/
theorem not_deletes_of_no_command (h : ∀ args, .command args ∉ t.attempts) :
    ¬ t.Deletes platform := by
  rintro ⟨c, hc, op, hasks, -⟩
  exact Check.not_asks_of_no_command h c (mem_attempts_of_mem_calls hc) hasks

end Trace

namespace Action

variable {α β : Type} {platform : Platform} {x : Action α} {k : α → Action β}

/-- An action leaves the metadata file as it was, unless a command deletes it. -/
def OnlyDeletes (platform : Platform) (x : Action α) : Prop :=
  ∀ file, ((x.run file).events.Deletes platform → (x.run file).metadata = .missing) ∧
    (¬ (x.run file).events.Deletes platform → (x.run file).metadata = file)

namespace OnlyDeletes

/-- What attempts no command and keeps the file. -/
theorem of_no_command (hcalls : ∀ file args, .command args ∉ (x.run file).events.attempts)
    (hkeeps : ∀ file, (x.run file).metadata = file) : x.OnlyDeletes platform :=
  fun file => ⟨fun h => absurd h (Trace.not_deletes_of_no_command (hcalls file)),
    fun _ => hkeeps file⟩

theorem of_acts {ds : List Deed} (hx : x.Acts ds id)
    (hds : ∀ args, .command args ∉ Deed.calls ds) : x.OnlyDeletes platform := by
  refine of_no_command (fun file args => ?_) hx.metadata
  rw [hx.attempts]
  exact hds args

/-- What does nothing keeps the file. -/
theorem of_idle (hx : x.Acts [] id) : x.OnlyDeletes platform :=
  of_acts hx fun _ h => nomatch h

theorem ite {c : Prop} [Decidable c] {y : Action α} (hx : x.OnlyDeletes platform)
    (hy : y.OnlyDeletes platform) : (if c then x else y).OnlyDeletes platform := by
  split
  · exact hx
  · exact hy

/-- Once deleted, the file does not come back. -/
theorem bind (hx : x.OnlyDeletes platform) (hk : ∀ a, (k a).OnlyDeletes platform) :
    (x >>= k).OnlyDeletes platform := by
  intro file
  obtain ⟨hdeleted, hkept⟩ := hx file
  cases hresult : (x.run file).result with
  | error e =>
    rw [run_bind_of_error hresult]
    exact ⟨hdeleted, hkept⟩
  | ok a =>
    obtain ⟨hdeleted', hkept'⟩ := hk a (x.run file).metadata
    rw [run_bind_of_ok hresult]
    dsimp only
    rw [Trace.deletes_append, not_or]
    refine ⟨fun h => ?_, fun h => (hkept' h.2).trans (hkept h.1)⟩
    by_cases hsecond : ((k a).run (x.run file).metadata).events.Deletes platform
    · exact hdeleted' hsecond
    · exact (hkept' hsecond).trans (hdeleted (h.resolve_right hsecond))

end OnlyDeletes

end Action

/-! ## Stages -/

theorem Operation.name_injective {op op' : Operation} (h : op.name = op'.name) : op = op' := by
  revert h
  cases op <;> cases op' <;> decide

namespace ControlPlane

variable {c : ControlPlane} {platform : Platform} {op op' : Operation} {name : String}
variable {file : File}

/-- The command of an operation asks for that operation. -/
theorem asks_arguments_iff : (Call.command (c.arguments op name)).Asks op' ↔ op' = op := by
  have hname : (c.arguments op name)[1]? = some op.name := rfl
  rw [Call.Asks, hname, Option.some.injEq]
  exact ⟨fun h => (Operation.name_injective h).symm, fun h => congrArg Operation.name h.symm⟩

/-- A command is made just if it starts. -/
theorem invoke_calls :
    ((c.invoke platform op name).run file).events.calls =
      if c.startFault? (c.arguments op name) = none then [.command (c.arguments op name)]
      else [] := by
  unfold invoke
  dsimp only
  cases c.startFault? (c.arguments op name) with
  | some fault => rfl
  | none =>
    rw [run_bind_of_ok rfl, if_pos rfl]
    cases (platform.behaviour op).deletesMetadata <;>
      by_cases hexit : (platform.behaviour op).exit = some 0 <;> simp only [hexit] <;> rfl

theorem invoke_deletes_iff :
    ((c.invoke platform op name).run file).events.Deletes platform ↔
      c.startFault? (c.arguments op name) = none ∧
        (platform.behaviour op).deletesMetadata = true := by
  rw [Trace.Deletes, invoke_calls]
  by_cases hstart : c.startFault? (c.arguments op name) = none <;>
    simp [hstart, asks_arguments_iff]

/-- A command that runs deletes the file if that is what it does. -/
theorem invoke_onlyDeletes : (c.invoke platform op name).OnlyDeletes platform := by
  intro file
  rw [invoke_acts.metadata, invoke_deletes_iff, leaves]
  exact ⟨fun h => if_pos h, fun h => if_neg h⟩

end ControlPlane

theorem Identity.load_onlyDeletes {path : String} {platform : Platform} :
    (load path).OnlyDeletes platform := by
  refine .of_no_command (fun file args => ?_) fun file => load_yields.metadata
  rw [Trace.attempts_eq_calls, load_yields.deeds]
  simp

namespace Check

variable {w : World} {control : ControlPlane} {p : Policy} {now : Instant}

theorem collectSignal_onlyDeletes : (collectSignal w control).OnlyDeletes w.platform := by
  unfold collectSignal
  refine .bind (.of_acts Server.fetchSessions_acts (by simp)) fun sessions => ?_
  refine .ite ?_ ?_
  · refine .bind (.of_idle (.log _ _ _)) fun _ => .bind Identity.load_onlyDeletes fun identity => ?_
    unfold ControlPlane.describe
    refine .bind (.bind ControlPlane.invoke_onlyDeletes fun _ => .of_idle (.ofExcept _)) fun _ => ?_
    exact .of_idle (.pure _)
  · exact .bind (.of_idle (.log _ _ _)) fun _ => .of_idle (.pure _)

theorem collect_onlyDeletes : (collect w control).OnlyDeletes w.platform := by
  unfold collect
  refine .bind collectSignal_onlyDeletes fun (signal, known) => ?_
  refine .bind (.of_acts Server.fetchTerminals_acts (by simp)) fun terminals => ?_
  exact .of_idle (.ite (.log_bind (.pure _)) (.pure _))

theorem act_onlyDeletes (known : Option Identity) (v : Verdict) :
    (act w control p now known v).OnlyDeletes w.platform := by
  unfold act
  refine .ite ?_ (.of_idle (.log_bind (.log_bind (.pure _))))
  refine .bind ?_ fun identity => .bind (.of_idle (.log _ _ _)) fun _ => ?_
  · cases known with
    | some identity => exact .of_idle (.pure _)
    | none => exact Identity.load_onlyDeletes
  · unfold ControlPlane.stop
    refine .bind (.bind ControlPlane.invoke_onlyDeletes fun _ => .of_idle (.log _ _ _)) fun _ => ?_
    exact .of_idle (.pure _)

theorem run_onlyDeletes : (run w control p now).OnlyDeletes w.platform := by
  unfold run
  refine .bind collect_onlyDeletes fun o => .bind (.of_idle (evaluate_acts o)) fun v => ?_
  exact act_onlyDeletes o.identity v

end Check

/-- **All that a plan does to the metadata file is that its commands delete it.** -/
theorem Plan.perform_onlyDeletes {plan : Plan} {w : World} {now : Instant} :
    (plan.perform w now).OnlyDeletes w.platform := by
  unfold perform ControlPlane.locate
  refine .bind (.of_idle (.ofExcept _)) fun policy => .bind (.of_idle ?_) fun control => ?_
  · exact Acts.bind_idle (.ofExcept _) fun _ => .log_bind (.pure _)
  · exact Check.run_onlyDeletes

end IdleStop
