import IdleStop.Proofs.Check.Evaluation
import IdleStop.Proofs.Check.Stages
/-!
# The course of a check

A check goes through its stages in a fixed order and ends at the first that
fails, with that stage's error. The relations below say so stage by stage:
what has been done by then (calls attempted and reads of the metadata file)
and what the check comes to. They mention no action but those of single
stages, each begun with the metadata file as it stood at the start; only
reading the identity depends on that file.

Every check has one course and no other (`course_iff`), so what holds of
every course holds of every check.
-/

namespace IdleStop

open IdleStop.Action

/-- A listing is requested. -/
def Deed.fetch (listing : Listing) : Deed :=
  .call (.get listing.path)

/-- A command is tried. -/
def Deed.invoke (c : ControlPlane) (op : Operation) (name : String) : Deed :=
  .call (.command (c.arguments op name))

@[simp] theorem Deed.calls_cons_fetch (listing : Listing) (ds : List Deed) :
    calls (fetch listing :: ds) = .get listing.path :: calls ds :=
  rfl

@[simp] theorem Deed.calls_cons_invoke (c : ControlPlane) (op : Operation) (name : String)
    (ds : List Deed) :
    calls (invoke c op name :: ds) = .command (c.arguments op name) :: calls ds :=
  rfl

namespace Check

variable (w : World) (control : ControlPlane) (p : Policy) (now : Instant) (file : File)

/-- The first stages: the sessions, and where there are none the identity
and the description of the instance. -/
inductive SignalCourse :
    List Deed → Except CheckError (SessionSignal × Option Identity) → Prop
  /-- The sessions cannot be fetched. -/
  | unfetched {e : CheckError} :
      (w.server.fetchSessions.run file).result = .error e →
      SignalCourse [.fetch .sessions] (.error e)
  /-- There are sessions. -/
  | listed {sessions : List Session} :
      (w.server.fetchSessions.run file).result = .ok sessions → sessions ≠ [] →
      SignalCourse [.fetch .sessions] (.ok (.sessions sessions, none))
  /-- There are none, and the metadata file does not tell the instance. -/
  | unidentified {e : CheckError} :
      (w.server.fetchSessions.run file).result = .ok [] →
      Identity.ofFile w.metadataPath file = .error e →
      SignalCourse [.fetch .sessions, .read] (.error e)
  /-- There are none, and the instance cannot be described. -/
  | undescribed {identity : Identity} {e : CheckError} :
      (w.server.fetchSessions.run file).result = .ok [] →
      Identity.ofFile w.metadataPath file = .ok identity →
      ((control.describe w.platform identity.name).run file).result = .error e →
      SignalCourse [.fetch .sessions, .read, .invoke control .describe identity.name] (.error e)
  /-- There are none, and the instance is described. -/
  | described {identity : Identity} {lastModified : Instant} :
      (w.server.fetchSessions.run file).result = .ok [] →
      Identity.ofFile w.metadataPath file = .ok identity →
      ((control.describe w.platform identity.name).run file).result = .ok lastModified →
      SignalCourse [.fetch .sessions, .read, .invoke control .describe identity.name]
        (.ok (.fallback lastModified, some identity))

/-- The stages up to the terminals. -/
inductive CollectCourse : List Deed → Except CheckError Observations → Prop
  /-- An earlier stage fails. -/
  | unsignalled {ds : List Deed} {e : CheckError} :
      SignalCourse w control file ds (.error e) → CollectCourse ds (.error e)
  /-- The terminals cannot be fetched. -/
  | unlisted {ds : List Deed} {signal : SessionSignal} {known : Option Identity}
      {e : CheckError} :
      SignalCourse w control file ds (.ok (signal, known)) →
      (w.server.fetchTerminals.run file).result = .error e →
      CollectCourse (ds ++ [.fetch .terminals]) (.error e)
  | collected {ds : List Deed} {signal : SessionSignal} {known : Option Identity}
      {terminals : List Terminal} :
      SignalCourse w control file ds (.ok (signal, known)) →
      (w.server.fetchTerminals.run file).result = .ok terminals →
      CollectCourse (ds ++ [.fetch .terminals]) (.ok ⟨signal, terminals, known⟩)

/-- The identity of the instance to stop: the one known, or else the one
that has yet to be read. -/
inductive Identified : Option Identity → List Deed → Except CheckError Identity → Prop
  | known (identity : Identity) : Identified (some identity) [] (.ok identity)
  | read {r : Except CheckError Identity} :
      Identity.ofFile w.metadataPath file = r → Identified none [.read] r

/-- What follows a verdict. -/
inductive ActCourse (known : Option Identity) (v : Verdict) :
    List Deed → Except CheckError Ending → Prop
  /-- Something is active. -/
  | active : v.isIdle = false → ActCourse known v [] (.ok (.active v))
  /-- Everything is idle, and the metadata file does not tell the instance. -/
  | unnamed {ds : List Deed} {e : CheckError} :
      v.isIdle = true → Identified w file known ds (.error e) →
      ActCourse known v ds (.error e)
  /-- Everything is idle, and the instance cannot be stopped. -/
  | unstopped {ds : List Deed} {identity : Identity} {e : CheckError} :
      v.isIdle = true → Identified w file known ds (.ok identity) →
      ((control.stop w.platform identity.name).run file).result = .error e →
      ActCourse known v (ds ++ [.invoke control .stop identity.name]) (.error e)
  | stopped {ds : List Deed} {identity : Identity} :
      v.isIdle = true → Identified w file known ds (.ok identity) →
      ((control.stop w.platform identity.name).run file).result = .ok () →
      ActCourse known v (ds ++ [.invoke control .stop identity.name])
        (.ok (.stopped identity.name))

/-- All stages. -/
inductive Course : List Deed → Except CheckError Ending → Prop
  /-- Collecting fails. -/
  | uncollected {ds : List Deed} {e : CheckError} :
      CollectCourse w control file ds (.error e) → Course ds (.error e)
  /-- An entity cannot be assessed. -/
  | unevaluated {ds : List Deed} {o : Observations} {e : CheckError} :
      CollectCourse w control file ds (.ok o) →
      ((evaluate o p now).run file).result = .error e →
      Course ds (.error e)
  | evaluated {ds ds' : List Deed} {o : Observations} {v : Verdict}
      {r : Except CheckError Ending} :
      CollectCourse w control file ds (.ok o) →
      ((evaluate o p now).run file).result = .ok v →
      ActCourse w control file o.identity v ds' r →
      Course (ds ++ ds') r

/-! ## Every check has a course -/

theorem exists_signalCourse : ∃ ds r, SignalCourse w control file ds r := by
  cases hfetch : (w.server.fetchSessions.run file).result with
  | error e => exact ⟨_, _, .unfetched hfetch⟩
  | ok sessions =>
    cases sessions with
    | cons s sessions => exact ⟨_, _, .listed hfetch (List.cons_ne_nil s sessions)⟩
    | nil =>
      cases hid : Identity.ofFile w.metadataPath file with
      | error e => exact ⟨_, _, .unidentified hfetch hid⟩
      | ok identity =>
        cases hdesc : ((control.describe w.platform identity.name).run file).result with
        | error e => exact ⟨_, _, .undescribed hfetch hid hdesc⟩
        | ok lastModified => exact ⟨_, _, .described hfetch hid hdesc⟩

theorem exists_collectCourse : ∃ ds r, CollectCourse w control file ds r := by
  obtain ⟨ds, r, hsignal⟩ := exists_signalCourse w control file
  cases r with
  | error e => exact ⟨_, _, .unsignalled hsignal⟩
  | ok sk =>
    cases hfetch : (w.server.fetchTerminals.run file).result with
    | error e => exact ⟨_, _, .unlisted hsignal hfetch⟩
    | ok terminals => exact ⟨_, _, .collected hsignal hfetch⟩

theorem exists_identified (known : Option Identity) :
    ∃ ds r, Identified w file known ds r := by
  cases known with
  | none => exact ⟨_, _, .read rfl⟩
  | some identity => exact ⟨_, _, .known identity⟩

theorem exists_actCourse (known : Option Identity) (v : Verdict) :
    ∃ ds r, ActCourse w control file known v ds r := by
  cases hidle : v.isIdle with
  | false => exact ⟨_, _, .active hidle⟩
  | true =>
    obtain ⟨ds, r, hid⟩ := exists_identified w file known
    cases r with
    | error e => exact ⟨_, _, .unnamed hidle hid⟩
    | ok identity =>
      cases hstop : ((control.stop w.platform identity.name).run file).result with
      | error e => exact ⟨_, _, .unstopped hidle hid hstop⟩
      | ok _ => exact ⟨_, _, .stopped hidle hid hstop⟩

theorem exists_course : ∃ ds r, Course w control p now file ds r := by
  obtain ⟨ds, r, hcollect⟩ := exists_collectCourse w control file
  cases r with
  | error e => exact ⟨_, _, .uncollected hcollect⟩
  | ok o =>
    cases heval : ((evaluate o p now).run file).result with
    | error e => exact ⟨_, _, .unevaluated hcollect heval⟩
    | ok v =>
      obtain ⟨ds', r, hact⟩ := exists_actCourse w control file o.identity v
      exact ⟨_, _, .evaluated hcollect heval hact⟩

variable {w control p now file} {ds : List Deed}

/-! ## A check takes its course

Until the identity is known no command is run, so the metadata file then
still stands as at the start. -/

theorem SignalCourse.yields {r : Except CheckError (SessionSignal × Option Identity)}
    (h : SignalCourse w control file ds r) :
    ∃ file', (collectSignal w control).Yields file r ds file' ∧
      ∀ signal, r = .ok (signal, none) → file' = file := by
  unfold collectSignal
  cases h with
  | unfetched hfetch =>
    exact ⟨file, (Server.fetchSessions_acts.yields hfetch).bind_error, fun _ h => nomatch h⟩
  | @listed sessions hfetch hne =>
    have hempty : sessions.isEmpty = false := List.isEmpty_eq_false_iff.2 hne
    refine ⟨file, (Server.fetchSessions_acts.yields hfetch).bind ?_, fun _ _ => rfl⟩
    rw [hempty]
    exact (Yields.log _ _ _).bind_nil (Yields.pure _)
  | unidentified hfetch hid =>
    refine ⟨file, (Server.fetchSessions_acts.yields hfetch).bind ?_, fun _ h => nomatch h⟩
    exact (Yields.log _ _ _).bind_nil (hid ▸ Identity.load_yields).bind_error
  | @undescribed identity e hfetch hid hdesc =>
    refine ⟨control.leaves w.platform .describe identity.name file,
      (Server.fetchSessions_acts.yields hfetch).bind ?_, fun _ h => nomatch h⟩
    refine (Yields.log _ _ _).bind_nil ((hid ▸ Identity.load_yields).bind ?_)
    exact (ControlPlane.describe_acts.yields hdesc).bind_error
  | @described identity lastModified hfetch hid hdesc =>
    refine ⟨control.leaves w.platform .describe identity.name file,
      (Server.fetchSessions_acts.yields hfetch).bind ?_, fun _ h => nomatch h⟩
    refine (Yields.log _ _ _).bind_nil ((hid ▸ Identity.load_yields).bind ?_)
    exact (ControlPlane.describe_acts.yields hdesc).bind (Yields.pure _)

theorem CollectCourse.yields {r : Except CheckError Observations}
    (h : CollectCourse w control file ds r) :
    ∃ file', (collect w control).Yields file r ds file' ∧
      ∀ o, r = .ok o → o.identity = none → file' = file := by
  unfold collect
  cases h with
  | unsignalled hsignal =>
    obtain ⟨file', hyields, -⟩ := hsignal.yields
    exact ⟨file', hyields.bind_error, fun _ h => nomatch h⟩
  | unlisted hsignal hfetch =>
    obtain ⟨file', hyields, -⟩ := hsignal.yields
    -- the terminals do not depend on what describing left of the file
    have hfetch' := Server.fetchTerminals_acts.blind.result_eq hfetch file'
    refine ⟨file', hyields.bind ?_, fun _ h => nomatch h⟩
    exact (Server.fetchTerminals_acts.yields hfetch').bind_error
  | @collected ds signal known terminals hsignal hfetch =>
    obtain ⟨file', hyields, hfile⟩ := hsignal.yields
    have hfetch' := Server.fetchTerminals_acts.blind.result_eq hfetch file'
    refine ⟨file', hyields.bind ?_, ?_⟩
    · refine (Server.fetchTerminals_acts.yields hfetch').bind ?_
      dsimp only
      split
      · exact (Yields.log _ _ _).bind_nil (Yields.pure _)
      · exact Yields.pure _
    · rintro o ⟨rfl⟩ rfl
      exact hfile signal rfl

/-- Identifying the instance reads the file only if it has to. -/
theorem Identified.yields {known : Option Identity} {r : Except CheckError Identity}
    (h : Identified w file known ds r) {file' : File} (hfile : known = none → file' = file) :
    (identify w known).Yields file' r ds file' := by
  cases h with
  | known identity => exact Yields.pure _
  | read hread =>
    rw [hfile rfl, ← hread]
    exact Identity.load_yields

theorem ActCourse.yields {known : Option Identity} {v : Verdict}
    {r : Except CheckError Ending} (h : ActCourse w control file known v ds r) (p : Policy)
    (now : Instant) {file' : File} (hfile : known = none → file' = file) :
    ∃ file'', (act w control p now known v).Yields file' r ds file'' := by
  unfold act
  cases h with
  | active hidle =>
    rw [hidle]
    exact ⟨file', (Yields.log _ _ _).bind_nil ((Yields.log _ _ _).bind_nil (Yields.pure _))⟩
  | unnamed hidle hid =>
    rw [hidle]
    exact ⟨file', (hid.yields hfile).bind_error⟩
  | @unstopped _ identity _ hidle hid hstop =>
    have hstop' := ControlPlane.stop_acts.blind.result_eq hstop file'
    rw [hidle]
    refine ⟨control.leaves w.platform .stop identity.name file', (hid.yields hfile).bind ?_⟩
    exact (Yields.log _ _ _).bind_nil (ControlPlane.stop_acts.yields hstop').bind_error
  | @stopped _ identity hidle hid hstop =>
    have hstop' := ControlPlane.stop_acts.blind.result_eq hstop file'
    rw [hidle]
    refine ⟨control.leaves w.platform .stop identity.name file', (hid.yields hfile).bind ?_⟩
    exact (Yields.log _ _ _).bind_nil
      ((ControlPlane.stop_acts.yields hstop').bind_quiet (Yields.pure _))

theorem Course.yields {r : Except CheckError Ending} (h : Course w control p now file ds r) :
    ∃ file', (run w control p now).Yields file r ds file' := by
  unfold run
  cases h with
  | uncollected hcollect =>
    obtain ⟨file', hyields, -⟩ := hcollect.yields
    exact ⟨file', hyields.bind_error⟩
  | unevaluated hcollect heval =>
    obtain ⟨file', hyields, -⟩ := hcollect.yields
    have heval' := (evaluate_acts _).blind.result_eq heval file'
    exact ⟨file', hyields.bind_quiet ((evaluate_acts _).yields heval').bind_error⟩
  | evaluated hcollect heval hact =>
    obtain ⟨file', hyields, hfile⟩ := hcollect.yields
    have heval' := (evaluate_acts _).blind.result_eq heval file'
    -- an identity that is still to be read is read from the file as it was
    obtain ⟨file'', hyields'⟩ := hact.yields p now (hfile _ rfl)
    exact ⟨file'', hyields.bind (((evaluate_acts _).yields heval').bind_nil hyields')⟩

/-- **A check takes its course and no other.** -/
theorem course_iff {r : Except CheckError Ending} :
    Course w control p now file ds r ↔
      ((run w control p now).run file).events.deeds = ds ∧
        ((run w control p now).run file).result = r := by
  constructor
  · intro h
    obtain ⟨file', hyields⟩ := h.yields
    exact ⟨hyields.deeds, hyields.result⟩
  · rintro ⟨rfl, rfl⟩
    -- some course there is, and the check takes it
    obtain ⟨ds, r, h⟩ := exists_course w control p now file
    obtain ⟨file', hyields⟩ := h.yields
    rw [hyields.deeds, hyields.result]
    exact h

/-- The course of a check. -/
theorem course_run (w : World) (control : ControlPlane) (p : Policy) (now : Instant)
    (file : File) :
    Course w control p now file ((run w control p now).run file).events.deeds
      ((run w control p now).run file).result :=
  course_iff.2 ⟨rfl, rfl⟩

/-! ## What a course has done -/

/-- **What is collected has one of two shapes**: sessions, and the instance
is not asked for, or the state of the instance that was described. -/
theorem CollectCourse.shape {o : Observations} (h : CollectCourse w control file ds (.ok o)) :
    (w.server.fetchTerminals.run file).result = .ok o.terminals ∧
      ((∃ sessions, (w.server.fetchSessions.run file).result = .ok sessions ∧ sessions ≠ [] ∧
          o.signal = .sessions sessions ∧ o.identity = none ∧
          ds = [.fetch .sessions, .fetch .terminals]) ∨
        ∃ identity lastModified, (w.server.fetchSessions.run file).result = .ok [] ∧
          Identity.ofFile w.metadataPath file = .ok identity ∧
          ((control.describe w.platform identity.name).run file).result = .ok lastModified ∧
          o.signal = .fallback lastModified ∧ o.identity = some identity ∧
          ds = [.fetch .sessions, .read, .invoke control .describe identity.name,
            .fetch .terminals]) := by
  cases h with
  | collected hsignal hterminals =>
    refine ⟨hterminals, ?_⟩
    cases hsignal with
    | listed hfetch hne => exact Or.inl ⟨_, hfetch, hne, rfl, rfl, rfl⟩
    | described hfetch hid hdesc => exact Or.inr ⟨_, _, hfetch, hid, hdesc, rfl, rfl, rfl⟩

/-- What collecting asks of the control plane is to describe the instance that
the metadata file names. -/
theorem CollectCourse.command_mem {r : Except CheckError Observations}
    (h : CollectCourse w control file ds r) {args : List String}
    (hargs : Call.command args ∈ Deed.calls ds) :
    ∃ identity, Identity.ofFile w.metadataPath file = .ok identity ∧
      args = control.arguments .describe identity.name := by
  have hsignal : ∀ {ds r}, SignalCourse w control file ds r →
      Call.command args ∈ Deed.calls ds →
      ∃ identity, Identity.ofFile w.metadataPath file = .ok identity ∧
        args = control.arguments .describe identity.name := by
    intro ds r h hargs
    cases h with
    | unfetched _ | listed _ _ | unidentified _ _ => simp at hargs
    | undescribed _ hread _ | described _ hread _ => exact ⟨_, hread, by simpa using hargs⟩
  cases h with
  | unsignalled h => exact hsignal h hargs
  | unlisted h _ => exact hsignal h (by simpa using hargs)
  | collected h _ => exact hsignal h (by simpa using hargs)

/-- The instance identified is the one that the metadata file names. -/
theorem CollectCourse.ofFile_eq {o : Observations} (h : CollectCourse w control file ds (.ok o))
    {ds' : List Deed} {identity : Identity}
    (hid : Identified w file o.identity ds' (.ok identity)) :
    Identity.ofFile w.metadataPath file = .ok identity := by
  obtain ⟨-, ⟨_, -, -, -, hknown, -⟩ | ⟨_, _, -, hread, -, -, hknown, -⟩⟩ := h.shape
  · rw [hknown] at hid
    cases hid with
    | read hread => exact hread
  · rw [hknown] at hid
    cases hid
    exact hread

/-- To identify an instance takes no call. -/
theorem Identified.calls_eq_nil {known : Option Identity} {r : Except CheckError Identity}
    (h : Identified w file known ds r) : Deed.calls ds = [] := by
  cases h <;> rfl

/-- After a verdict there is no call, or the one that stops the instance
identified. -/
theorem ActCourse.calls {known : Option Identity} {v : Verdict} {r : Except CheckError Ending}
    (h : ActCourse w control file known v ds r) :
    Deed.calls ds = [] ∨
      ∃ identity ds', v.isIdle = true ∧ Identified w file known ds' (.ok identity) ∧
        Deed.calls ds = [.command (control.arguments .stop identity.name)] := by
  cases h with
  | active _ => exact Or.inl rfl
  | unnamed _ hid => exact Or.inl hid.calls_eq_nil
  | unstopped hidle hid _ =>
    refine Or.inr ⟨_, _, hidle, hid, ?_⟩
    rw [Deed.calls_append, hid.calls_eq_nil]
    rfl
  | stopped hidle hid _ =>
    refine Or.inr ⟨_, _, hidle, hid, ?_⟩
    rw [Deed.calls_append, hid.calls_eq_nil]
    rfl

end Check

end IdleStop
