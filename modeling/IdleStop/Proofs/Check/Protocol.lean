import IdleStop.Proofs.Check.Course
/-!
# The order of calls

A check that goes all the way requests the sessions, has the instance
described if there are none, requests the terminals and has the instance
stopped. Any check attempts the first few of these calls, none of them
twice, up to the stage at which it ends.
-/

namespace IdleStop

namespace Check

/-- The calls of a check that goes all the way, for the sessions it is
given and the name of the instance. -/
def protocol (control : ControlPlane) (sessions : List Session) (name : String) : List Call :=
  [.get Listing.sessions.path] ++
    (if sessions.isEmpty then [.command (control.arguments .describe name)] else []) ++
    [.get Listing.terminals.path, .command (control.arguments .stop name)]

variable {w : World} {control : ControlPlane} {p : Policy} {now : Instant} {file : File}
variable {ds : List Deed}

/-- The operations have different command lines. -/
theorem arguments_describe_ne_stop (control : ControlPlane) (name name' : String) :
    control.arguments .describe name ≠ control.arguments .stop name' := by
  simp [ControlPlane.arguments, Operation.name]

theorem protocol_nodup (control : ControlPlane) (sessions : List Session) (name : String) :
    (protocol control sessions name).Nodup := by
  have hne := arguments_describe_ne_stop control name name
  cases sessions <;> simp [protocol, Listing.path, hne]

theorem protocol_nil (control : ControlPlane) (name : String) :
    protocol control [] name =
      [.get Listing.sessions.path, .command (control.arguments .describe name),
        .get Listing.terminals.path, .command (control.arguments .stop name)] :=
  rfl

theorem protocol_of_ne_nil {sessions : List Session} (h : sessions ≠ []) (control : ControlPlane)
    (name : String) :
    protocol control sessions name =
      [.get Listing.sessions.path, .get Listing.terminals.path,
        .command (control.arguments .stop name)] := by
  cases sessions with
  | nil => exact absurd rfl h
  | cons s sessions => rfl

/-- **After its first stages a check requests the terminals, and then there
is at most one call**, which stops the instance, the one described if one
was. If the first stages fail, there is no more. -/
theorem Course.calls_split {r : Except CheckError Ending} (h : Course w control p now file ds r) :
    ∃ ds₀ r₀, SignalCourse w control file ds₀ r₀ ∧
      ((∃ e, r₀ = .error e ∧ ds = ds₀ ∧ r = .error e) ∨
        ∃ signal known rest, r₀ = .ok (signal, known) ∧
          Deed.calls ds = Deed.calls ds₀ ++ .get Listing.terminals.path :: rest ∧
          (rest = [] ∨ ∃ identity, (∀ i, known = some i → identity = i) ∧
            rest = [.command (control.arguments .stop identity.name)])) := by
  have hcollected : ∀ {ds o}, CollectCourse w control file ds (.ok o) →
      ∃ ds₀, SignalCourse w control file ds₀ (.ok (o.signal, o.identity)) ∧
        ds = ds₀ ++ [.fetch .terminals] := by
    intro ds o h
    cases h with
    | collected hsignal _ => exact ⟨_, hsignal, rfl⟩
  cases h with
  | uncollected hcollect =>
    cases hcollect with
    | unsignalled hsignal => exact ⟨_, _, hsignal, Or.inl ⟨_, rfl, rfl, rfl⟩⟩
    | unlisted hsignal _ =>
      exact ⟨_, _, hsignal, Or.inr ⟨_, _, [], rfl, by simp, Or.inl rfl⟩⟩
  | unevaluated hcollect _ =>
    obtain ⟨ds₀, hsignal, rfl⟩ := hcollected hcollect
    exact ⟨_, _, hsignal, Or.inr ⟨_, _, [], rfl, by simp, Or.inl rfl⟩⟩
  | evaluated hcollect _ hact =>
    obtain ⟨ds₀, hsignal, rfl⟩ := hcollected hcollect
    refine ⟨_, _, hsignal, Or.inr ⟨_, _, _, rfl, by simp; rfl, ?_⟩⟩
    rcases hact.calls with hcalls | ⟨identity, _, -, hid, hcalls⟩
    · exact Or.inl hcalls
    · -- an instance that is known is not identified anew
      refine Or.inr ⟨identity, fun i hi => ?_, hcalls⟩
      rw [hi] at hid
      cases hid
      rfl

/-- **A check attempts the beginning of its protocol.** -/
theorem Course.calls_prefix {r : Except CheckError Ending} {sessions : List Session}
    (h : Course w control p now file ds r)
    (hfetch : (w.server.fetchSessions.run file).result = .ok sessions) :
    ∃ name, Deed.calls ds <+: protocol control sessions name := by
  obtain ⟨ds₀, r₀, hsignal, ⟨_, rfl, rfl, -⟩ | ⟨_, known, rest, rfl, hcalls, hrest⟩⟩ :=
    h.calls_split
  · cases hsignal with
    | unfetched hfetch' => simp [hfetch] at hfetch'
    | unidentified hfetch' _ =>
      obtain rfl := Except.ok.inj (hfetch.symm.trans hfetch')
      exact ⟨"", by simp [protocol_nil]⟩
    | @undescribed identity _ hfetch' _ _ =>
      obtain rfl := Except.ok.inj (hfetch.symm.trans hfetch')
      exact ⟨identity.name, by simp [protocol_nil]⟩
  · rw [hcalls]
    cases hsignal with
    | listed hfetch' hne =>
      obtain rfl := Except.ok.inj (hfetch.symm.trans hfetch')
      rcases hrest with rfl | ⟨identity, -, rfl⟩
      · exact ⟨"", by simp [protocol_of_ne_nil hne]⟩
      · exact ⟨identity.name, by simp [protocol_of_ne_nil hne]⟩
    | @described identity _ hfetch' _ _ =>
      obtain rfl := Except.ok.inj (hfetch.symm.trans hfetch')
      rcases hrest with rfl | ⟨identity', hsame, rfl⟩
      · exact ⟨identity.name, by simp [protocol_nil]⟩
      · exact ⟨identity.name, by simp [protocol_nil, hsame identity rfl]⟩

/-- Without the sessions there is nothing further to do. -/
theorem Course.calls_of_unfetched {r : Except CheckError Ending} {e : CheckError}
    (h : Course w control p now file ds r)
    (hfetch : (w.server.fetchSessions.run file).result = .error e) :
    Deed.calls ds = [.get Listing.sessions.path] := by
  obtain ⟨ds₀, r₀, hsignal, ⟨_, rfl, rfl, -⟩ | ⟨_, known, rest, rfl, hcalls, hrest⟩⟩ :=
    h.calls_split
  · cases hsignal <;> simp_all
  · cases hsignal <;> simp_all

/-- The instance is described just if there are no sessions and the metadata
file tells which it is. -/
theorem Course.describe_mem_iff {r : Except CheckError Ending}
    (h : Course w control p now file ds r) :
    (∃ name, Call.command (control.arguments .describe name) ∈ Deed.calls ds) ↔
      (w.server.fetchSessions.run file).result = .ok [] ∧
        ∃ identity, Identity.ofFile w.metadataPath file = .ok identity := by
  obtain ⟨ds₀, r₀, hsignal, ⟨_, rfl, rfl, -⟩ | ⟨_, known, rest, rfl, hcalls, hrest⟩⟩ :=
    h.calls_split
  · cases hsignal with
    | unfetched hfetch => simp [hfetch]
    | unidentified hfetch hid => simp [hid]
    | @undescribed identity _ hfetch hid _ =>
      exact ⟨fun _ => ⟨hfetch, identity, hid⟩, fun _ => ⟨identity.name, by simp⟩⟩
  · -- what comes after the terminals can only be a stop
    have hnot : ∀ name, Call.command (control.arguments .describe name) ∉ rest := by
      intro name
      rcases hrest with rfl | ⟨identity, -, rfl⟩
      · simp
      · simp [arguments_describe_ne_stop]
    rw [hcalls]
    cases hsignal with
    | listed hfetch hne => simp [hfetch, hne, hnot]
    | @described identity _ hfetch hid _ =>
      exact ⟨fun _ => ⟨hfetch, identity, hid⟩, fun _ => ⟨identity.name, by simp⟩⟩

/-- The terminals are requested just if the first stages succeed. -/
theorem Course.terminals_mem_iff {r : Except CheckError Ending}
    (h : Course w control p now file ds r) :
    Call.get Listing.terminals.path ∈ Deed.calls ds ↔
      ∃ s, ((collectSignal w control).run file).result = .ok s := by
  obtain ⟨ds₀, r₀, hsignal, hcase⟩ := h.calls_split
  obtain ⟨_, hyields, -⟩ := hsignal.yields
  rw [hyields.result]
  rcases hcase with ⟨_, rfl, rfl, -⟩ | ⟨_, known, rest, rfl, hcalls, -⟩
  · cases hsignal <;> simp [Listing.path]
  · rw [hcalls]
    exact ⟨fun _ => ⟨_, rfl⟩, fun _ => by simp⟩

/-- **A check follows its protocol and ends at the first stage that fails.**
The calls it attempts are the first few of the protocol for the sessions
fetched, none of them twice. The instance is described just if no sessions
are listed and the metadata file tells which it is, and the terminals are
requested whenever the first stages succeed. What a check does and what it
comes to are fixed by its course, in which a stage that fails is the last
and its error the result. -/
theorem run_follows_protocol (w : World) (control : ControlPlane) (p : Policy) (now : Instant)
    (file : File) :
    let fetched := (w.server.fetchSessions.run file).result
    let o := (run w control p now).run file
    (∀ sessions, fetched = .ok sessions →
      ∃ name, o.events.attempts <+: protocol control sessions name) ∧
    (∀ e, fetched = .error e → o.events.attempts = [.get Listing.sessions.path]) ∧
    o.events.attempts.Nodup ∧
    ((∃ name, .command (control.arguments .describe name) ∈ o.events.attempts) ↔
      fetched = .ok [] ∧ ∃ identity, Identity.ofFile w.metadataPath file = .ok identity) ∧
    (.get Listing.terminals.path ∈ o.events.attempts ↔
      ∃ s, ((collectSignal w control).run file).result = .ok s) ∧
    ∀ ds r, Course w control p now file ds r ↔ o.events.deeds = ds ∧ o.result = r := by
  have h := course_run w control p now file
  simp only [Trace.attempts_eq_calls]
  refine ⟨fun _ => h.calls_prefix, fun _ => h.calls_of_unfetched, ?_, h.describe_mem_iff,
    h.terminals_mem_iff, fun _ _ => course_iff⟩
  cases hfetch : (w.server.fetchSessions.run file).result with
  | error e =>
    rw [h.calls_of_unfetched hfetch]
    exact List.nodup_cons.2 ⟨List.not_mem_nil, List.nodup_nil⟩
  | ok sessions =>
    obtain ⟨name, hprefix⟩ := h.calls_prefix hfetch
    exact hprefix.sublist.nodup (protocol_nodup control sessions name)

end Check

end IdleStop
