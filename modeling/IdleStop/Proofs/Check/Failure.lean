import IdleStop.Proofs.Check.Course
import IdleStop.Proofs.Check.Plan
import IdleStop.Proofs.Time.ActivityStamp
/-!
# What an error tells

Each stage fails with errors of its own: a listing with that of its request,
the identity with an instance not found, an evaluation with a time that cannot
be read. Errors of one kind come from several stages, but what a check had
tried by then is told by the kind (`Ended`): a stop is the last thing a check
tries, and nothing but a failed request for it comes of it otherwise.
-/

namespace IdleStop

open IdleStop.Action

/-! ## The errors of single stages -/

theorem Listing.fetch_failsAs {α : Type} {listing : Listing} {item? : Json.Tree → Option α}
    {server : String} {reply : Reply} :
    (listing.fetch item? server reply).FailsAs fun e =>
      ∃ fault, e = .transport (server ++ listing.path) fault := by
  have hfail : ∀ fault : TransportFault, (Action.fail
      (.transport (server ++ listing.path) fault) : Action (List α)).FailsAs fun e =>
        ∃ fault, e = .transport (server ++ listing.path) fault :=
    fun fault => .fail ⟨fault, rfl⟩
  unfold fetch
  dsimp only
  split
  · exact .bind (.emit _) fun _ => hfail _
  · split
    · split
      · exact .bind (.emit _) fun _ => hfail _
      · exact .bind (.emit _) fun _ => hfail _
      · refine .bind (.emit _) fun _ => ?_
        split
        · exact hfail _
        · refine .bind (.emit _) fun _ => ?_
          split
          · split
            · exact .pure _
            · exact hfail _
          · exact hfail _
    · exact .bind (.emit _) fun _ => hfail _

theorem Identity.notFound_of_ofFile {path : String} {file : File} {e : CheckError}
    (h : ofFile path file = .error e) : ∃ fault, e = .notFound fault := by
  rw [ofFile] at h
  split at h
  · exact ⟨_, (Except.error.inj h).symm⟩
  · split at h
    · exact ⟨_, (Except.error.inj h).symm⟩
    · split at h
      · exact ⟨_, (Except.error.inj h).symm⟩
      · cases h

theorem Rfc3339.format_of_parse {s : String} {e : CheckError} (h : parse s = .error e) :
    e = .format s .rfc3339 := by
  rw [parse] at h
  split at h
  · cases h
  · exact (Except.error.inj h).symm

theorem Epoch.format_of_parse {n : Json.Number} {e : CheckError} (h : parse n = .error e) :
    e = .format n.text .epochSeconds := by
  rw [parse] at h
  split at h
  · cases h
  · exact (Except.error.inj h).symm

namespace ControlPlane

variable {c : ControlPlane} {platform : Platform} {op : Operation} {name : String}

theorem invoke_failsAs :
    (c.invoke platform op name).FailsAs fun e => ∃ fault, e = .transport op.endpoint fault := by
  unfold invoke
  dsimp only
  refine .bind (.emit _) fun _ => ?_
  split
  · exact .bind (.emit _) fun _ => .fail ⟨_, rfl⟩
  · refine .bind (.emit _) fun _ => ?_
    -- whether the file is deleted or not, the exit code decides
    refine .ite (.bind .deleteMetadata fun _ => ?_) ?_ <;>
      exact .ite (.bind (.emit _) fun _ => .pure _) (.bind (.emit _) fun _ => .fail ⟨_, rfl⟩)

/-- A description that is of no use is no answer, or tells a time in no known
format. -/
theorem transport_or_format_of_modificationTime {output : String} {e : CheckError}
    (h : modificationTime output = .error e) :
    (∃ fault, e = .transport Operation.describe.endpoint fault) ∨
      ∃ value expected, e = .format value expected := by
  unfold modificationTime at h
  dsimp only at h
  split at h
  · exact Or.inl ⟨_, (Except.error.inj h).symm⟩
  · split at h
    · split at h
      · split at h
        · exact Or.inr ⟨_, _, Rfc3339.format_of_parse h⟩
        · exact Or.inl ⟨_, (Except.error.inj h).symm⟩
      · split at h
        · exact Or.inr ⟨_, _, Epoch.format_of_parse h⟩
        · exact Or.inl ⟨_, (Except.error.inj h).symm⟩
      · exact Or.inl ⟨_, (Except.error.inj h).symm⟩
    · exact Or.inl ⟨_, (Except.error.inj h).symm⟩

theorem describe_failsAs :
    (c.describe platform name).FailsAs fun e =>
      (∃ fault, e = .transport Operation.describe.endpoint fault) ∨
        ∃ value expected, e = .format value expected :=
  (invoke_failsAs.mono fun _ => Or.inl).bind fun _ =>
    .ofExcept fun _ => transport_or_format_of_modificationTime

theorem stop_failsAs :
    (c.stop platform name).FailsAs fun e =>
      ∃ fault, e = .transport Operation.stop.endpoint fault :=
  invoke_failsAs.bind fun _ => .emit _

end ControlPlane

/-- Only a time of activity keeps an entity from being assessed. -/
theorem Entity.format_of_assess {p : Policy} {now : Instant} {e : Entity} {err : CheckError}
    (h : e.assess p now = .error err) : ∃ value, err = .format value .activity := by
  have htext : ∀ (text : String) (f : Instant → Option Blocker),
      (do let last ← ActivityStamp.parse text; return f last) = Except.error err →
        ∃ value, err = .format value .activity := by
    intro text f h
    cases hparse : ActivityStamp.parse text with
    | ok last =>
      rw [hparse] at h
      cases h
    | error err' =>
      rw [hparse] at h
      cases h
      exact ⟨text, (ActivityStamp.parse_eq_error_iff.1 hparse).2⟩
  cases e with
  | machine last => cases h
  | terminal t => exact htext _ _ h
  | session s =>
    rw [assess] at h
    split at h
    · cases h
    · split at h
      · cases h
      · exact htext _ _ h

namespace Check

theorem evaluate_failsAs {p : Policy} {now : Instant} (o : Observations) :
    (evaluate o p now).FailsAs fun e => ∃ value, e = .format value .activity := by
  rw [evaluate_eq_foldlM]
  refine .foldlM (fun v e => ?_) _ _
  unfold consider examine
  refine .bind (.bind (.ofExcept fun err => Entity.format_of_assess) fun b => ?_) fun b => ?_
  · exact .ite (.bind (.emit _) fun _ => .pure _) (.pure _)
  · cases b with
    | none => exact .pure _
    | some blocker => exact .bind (.emit _) fun _ => .pure _

/-! ## How far a check got -/

end Check

/-- A call is a command of an operation. -/
def Call.Asks (op : Operation) : Call → Prop
  | command args => args[1]? = some op.name
  | get _ => False

namespace Check

/-- How far a check got that attempted these calls, by what it came to. A stop
is tried last or not at all, and where no instance was found no command was
tried. -/
inductive Ended (address : String) (calls : List Call) : Except CheckError Ending → Prop
  /-- A listing could not be fetched. -/
  | unlisted (listing : Listing) (fault : TransportFault) :
      (∀ c ∈ calls, ¬ c.Asks .stop) →
      Ended address calls (.error (.transport (address ++ listing.path) fault))
  /-- The instance could not be identified. -/
  | unidentified (fault : IdentityFault) :
      (∀ args, .command args ∉ calls) → Ended address calls (.error (.notFound fault))
  /-- The instance could not be described. -/
  | undescribed (fault : TransportFault) :
      (∀ c ∈ calls, ¬ c.Asks .stop) →
      Ended address calls (.error (.transport Operation.describe.endpoint fault))
  /-- A time could not be read. -/
  | unread (value : String) (expected : TimeFormat) :
      (∀ c ∈ calls, ¬ c.Asks .stop) → Ended address calls (.error (.format value expected))
  /-- Something was active. -/
  | active (v : Verdict) :
      (∀ c ∈ calls, ¬ c.Asks .stop) → Ended address calls (.ok (.active v))
  /-- The instance could not be stopped. -/
  | unstopped (before : List Call) (c : Call) (fault : TransportFault) :
      calls = before ++ [c] → c.Asks .stop →
      Ended address calls (.error (.transport Operation.stop.endpoint fault))
  | stopped (before : List Call) (c : Call) (name : String) :
      calls = before ++ [c] → c.Asks .stop → Ended address calls (.ok (.stopped name))

variable {w : World} {control : ControlPlane} {p : Policy} {now : Instant} {file : File}
variable {ds : List Deed}

/-- Nothing is stopped while there is still something to collect. -/
theorem CollectCourse.not_asks_stop {r : Except CheckError Observations}
    (h : CollectCourse w control file ds r) : ∀ c ∈ Deed.calls ds, ¬ c.Asks .stop := by
  intro c hc hstop
  cases c with
  | get path => exact hstop
  | command args =>
    obtain ⟨identity, -, rfl⟩ := h.command_mem hc
    have hother : Operation.describe.name ≠ Operation.stop.name := by decide
    exact hother (Option.some.inj hstop)

theorem SignalCourse.ended {e : CheckError}
    (h : SignalCourse w control file ds (.error e)) :
    Ended w.server.address (Deed.calls ds) (.error e) := by
  have hno := (CollectCourse.unsignalled h).not_asks_stop
  cases h with
  | unfetched hfetch =>
    obtain ⟨fault, rfl⟩ := Listing.fetch_failsAs hfetch
    exact .unlisted .sessions fault hno
  | unidentified _ hid =>
    obtain ⟨fault, rfl⟩ := Identity.notFound_of_ofFile hid
    exact .unidentified fault (by simp)
  | undescribed _ _ hdesc =>
    obtain ⟨fault, rfl⟩ | ⟨value, expected, rfl⟩ := ControlPlane.describe_failsAs hdesc
    · exact .undescribed fault hno
    · exact .unread value expected hno

theorem CollectCourse.ended {e : CheckError} (h : CollectCourse w control file ds (.error e)) :
    Ended w.server.address (Deed.calls ds) (.error e) := by
  have hno := h.not_asks_stop
  cases h with
  | unsignalled hsignal => exact hsignal.ended
  | unlisted _ hfetch =>
    obtain ⟨fault, rfl⟩ := Listing.fetch_failsAs hfetch
    exact .unlisted .terminals fault hno

/-- **What a check came to tells how far it got.** -/
theorem Course.ended {r : Except CheckError Ending} (h : Course w control p now file ds r) :
    Ended w.server.address (Deed.calls ds) r := by
  cases h with
  | uncollected hcollect => exact hcollect.ended
  | unevaluated hcollect heval =>
    obtain ⟨value, rfl⟩ := evaluate_failsAs _ heval
    exact .unread value .activity hcollect.not_asks_stop
  | evaluated hcollect _ hact =>
    rw [Deed.calls_append]
    cases hact with
    | active _ => exact .active _ (by simpa using hcollect.not_asks_stop)
    | unnamed _ hid =>
      -- a known instance needs no identifying, so none was described
      obtain ⟨-, ⟨_, -, -, -, hknown, rfl⟩ | ⟨_, _, -, -, -, -, hknown, -⟩⟩ := hcollect.shape
      · rw [hid.calls_eq_nil]
        rw [hknown] at hid
        cases hid with
        | read hread =>
          obtain ⟨fault, rfl⟩ := Identity.notFound_of_ofFile hread
          exact .unidentified fault (by simp)
      · rw [hknown] at hid
        cases hid
    | @unstopped _ identity _ _ hid hstop =>
      obtain ⟨fault, rfl⟩ := ControlPlane.stop_failsAs hstop
      exact .unstopped _ (.command (control.arguments .stop identity.name)) fault
        (by rw [Deed.calls_append, hid.calls_eq_nil]; rfl) rfl
    | @stopped _ identity _ hid _ =>
      exact .stopped _ (.command (control.arguments .stop identity.name)) identity.name
        (by rw [Deed.calls_append, hid.calls_eq_nil]; rfl) rfl

/-- The address of a listing is no operation. -/
theorem listing_ne_stop (address : String) (listing : Listing) :
    address ++ listing.path ≠ Operation.stop.endpoint := by
  intro h
  -- the last letters differ
  have hlast := congrArg (fun s : String => s.toList.getLast?) h
  cases listing <;> simp [Listing.path, Operation.endpoint, Operation.name] at hlast

/-- Without commands there is no stop. -/
theorem not_asks_of_no_command {calls : List Call} {op : Operation}
    (h : ∀ args, .command args ∉ calls) : ∀ c ∈ calls, ¬ c.Asks op := by
  intro c hc
  cases c with
  | get path => exact id
  | command args => exact absurd hc (h args)

namespace Ended

variable {address : String} {calls : List Call} {r : Except CheckError Ending}

/-- A stop is tried just if it succeeds or its request fails. -/
theorem exists_asks_stop_iff (h : Ended address calls r) :
    (∃ c ∈ calls, c.Asks .stop) ↔
      (∃ name, r = .ok (.stopped name)) ∨
        ∃ fault, r = .error (.transport Operation.stop.endpoint fault) := by
  cases h with
  | unlisted listing fault hno => simpa [listing_ne_stop] using hno
  | unidentified fault hno => simpa using not_asks_of_no_command hno
  | undescribed fault hno =>
    have hother : Operation.describe.endpoint ≠ Operation.stop.endpoint := by decide
    simpa [hother] using hno
  | unread value expected hno => simpa using hno
  | active v hno => simpa using hno
  | unstopped before c fault hcalls hc => simpa [hcalls] using Or.inr hc
  | stopped before c name hcalls hc => simpa [hcalls] using Or.inr hc

/-- A stop that is tried is the last call. -/
theorem exists_getLast?_of_asks_stop (h : Ended address calls r)
    (hstop : ∃ c ∈ calls, c.Asks .stop) : ∃ c, calls.getLast? = some c ∧ c.Asks .stop := by
  obtain ⟨c', hc', hasks⟩ := hstop
  cases h with
  | unstopped before c fault hcalls hc => exact ⟨c, by simp [hcalls], hc⟩
  | stopped before c name hcalls hc => exact ⟨c, by simp [hcalls], hc⟩
  | unidentified fault hno => exact absurd hasks (not_asks_of_no_command hno c' hc')
  | unlisted _ _ hno | undescribed _ hno | unread _ _ hno | active _ hno =>
    exact absurd hasks (hno c' hc')

end Ended

/-- A plan that is not rejected ends as a check does. -/
theorem ended_perform {plan : Plan} (h : ¬ plan.Rejected w) (now : Instant) (file : File) :
    Ended w.server.address ((plan.perform w now).run file).events.attempts
      ((plan.perform w now).run file).result := by
  obtain hrejected | ⟨policy, control, hleads⟩ := plan.rejected_or_leads w
  · exact absurd hrejected h
  · have hcourse := (course_run w control policy now file).ended
    rw [← Trace.attempts_eq_calls] at hcourse
    rw [Plan.perform_run_of_leads hleads]
    exact hcourse

/-- **The kind of an error tells how far a check got.** It is one of
configuration just if the plan is rejected, and then nothing was tried. If no
instance was found, no command was tried, and if a time could not be read, no
stop. A stop is tried just if the instance is stopped or the request for it
fails, and then nothing is tried after it. -/
theorem error_kind_tells_progress (plan : Plan) (w : World) (now : Instant) (file : File) :
    let o := (plan.perform w now).run file
    let stopTried := ∃ c ∈ o.events.attempts, c.Asks .stop
    ((∃ fault, o.result = .error (.configuration fault)) ↔ plan.Rejected w) ∧
    (∀ fault, o.result = .error (.configuration fault) → o.events.attempts = []) ∧
    (∀ fault, o.result = .error (.notFound fault) → ∀ args, .command args ∉ o.events.attempts) ∧
    (∀ value expected, o.result = .error (.format value expected) → ¬ stopTried) ∧
    (∀ endpoint fault, o.result = .error (.transport endpoint fault) → stopTried →
      endpoint = Operation.stop.endpoint ∧
        ∃ c, o.events.attempts.getLast? = some c ∧ c.Asks .stop) ∧
    (stopTried ↔ (∃ name, o.result = .ok (.stopped name)) ∨
      ∃ fault, o.result = .error (.transport Operation.stop.endpoint fault)) := by
  intro o stopTried
  by_cases hrejected : plan.Rejected w
  · obtain ⟨fault, hrun⟩ := Plan.perform_run_of_rejected hrejected now file
    have ho : o = ⟨.error (.configuration fault), [], file⟩ := hrun
    have hattempts : Trace.attempts [] = [] := rfl
    simp [stopTried, ho, hrejected, hattempts]
  · have hended : Ended w.server.address o.events.attempts o.result :=
      ended_perform hrejected now file
    have hconfig : ∀ fault, o.result ≠ .error (.configuration fault) := by
      intro fault hresult
      rw [hresult] at hended
      cases hended
    have hstop : stopTried ↔ _ := hended.exists_asks_stop_iff
    refine ⟨?_, ?_, ?_, ?_, ?_, hstop⟩
    · exact iff_of_false (fun ⟨fault, h⟩ => hconfig fault h) hrejected
    · exact fun fault h => absurd h (hconfig fault)
    · intro fault hresult
      rw [hresult] at hended
      cases hended with
      | unidentified _ hno => exact hno
    · intro value expected hresult
      rw [hstop, hresult]
      simp
    · intro endpoint fault hresult htried
      refine ⟨?_, hended.exists_getLast?_of_asks_stop htried⟩
      rw [hstop, hresult] at htried
      simpa using htried

end Check

end IdleStop
