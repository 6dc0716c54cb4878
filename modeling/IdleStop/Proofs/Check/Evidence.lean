import IdleStop.Proofs.Check.Instance
import IdleStop.Proofs.Check.Skew
import Mathlib.Logic.Basic
/-!
# What an idle verdict rests on

An evaluation of no sessions and no terminals finds nothing active, so it
comes to an idle verdict without having looked at anything. What keeps a check
from that is how it collects: it either has sessions, or it has the time of
the instance in their place. An idle verdict on what was collected therefore
rests on a time that was read and lies further back than the threshold.
-/

namespace IdleStop

variable {p : Policy} {now : Instant} {file : File}

/-- A time that is read of an entity lies further back than the threshold. -/
def Entity.FoundOld (p : Policy) (now : Instant) (e : Entity) : Prop :=
  ∃ last, e.Consults p last ∧ p.threshold < now.since last

/-- No entity is idle but by its time. -/
theorem Entity.foundOld_of_idle {e : Entity} (h : e.assess p now = .ok none) :
    e.FoundOld p now := by
  cases e with
  | session s =>
    obtain ⟨hstate, hclients, last, htext, hpassed⟩ := assess_session_idle_iff.1 h
    exact ⟨last, ⟨hstate, hclients, htext⟩, hpassed⟩
  | machine lastModified => exact ⟨lastModified, rfl, assess_machine_idle_iff.1 h⟩
  | terminal t => exact assess_terminal_idle_iff.1 h

/-- A signal has no entity just if it is an empty row of sessions. -/
theorem SessionSignal.entities_eq_nil_iff {signal : SessionSignal} :
    signal.entities = [] ↔ signal = .sessions [] := by
  cases signal with
  | sessions list => simp [entities]
  | fallback lastModified => simp [entities]

namespace Check

/-- **An idle verdict rests on the time of every entity observed**; it rests on one
in the signal unless that is an empty row of sessions. -/
theorem foundOld_of_evaluate_idle {o : Observations} {v : Verdict}
    (h : ((evaluate o p now).run file).result = .ok v) (hidle : v.isIdle = true) :
    (∀ e ∈ o.entities, e.FoundOld p now) ∧
      (o.signal ≠ .sessions [] → ∃ e ∈ o.signal.entities, e.FoundOld p now) := by
  have hold : ∀ e ∈ o.entities, e.FoundOld p now := fun e he =>
    Entity.foundOld_of_idle ((evaluate_idle_iff o file).1 ⟨v, h, hidle⟩ e he)
  refine ⟨hold, fun hsignal => ?_⟩
  obtain ⟨e, he⟩ :=
    List.exists_mem_of_ne_nil _ (mt SessionSignal.entities_eq_nil_iff.1 hsignal)
  exact ⟨e, he, hold e (List.mem_append_left _ he)⟩

-- of nothing the verdict is idle
example (identity : Option Identity) :
    ((evaluate ⟨.sessions [], [], identity⟩ p now).run file).result = .ok ⟨[]⟩ :=
  rfl

/-! ## What is collected -/

variable {w : World} {control : ControlPlane} {o : Observations}

/-- Sessions were observed: those that were fetched, of which there are some. The
instance was not asked for, and the calls attempted were no commands. -/
structure ObservedSessions (w : World) (file : File) (o : Observations) (attempts : List Call) :
    Prop where
  signal : ∃ sessions, (w.server.fetchSessions.run file).result = .ok sessions ∧
    sessions ≠ [] ∧ o.signal = .sessions sessions
  known : o.identity = none
  attempts : attempts = [.get Listing.sessions.path, .get Listing.terminals.path]

/-- The instance was observed: no sessions were fetched, and one command was tried,
to describe the instance that the metadata file names. The name is not blank. -/
structure ObservedInstance (w : World) (control : ControlPlane) (file : File)
    (o : Observations) (attempts : List Call) (identity : Identity) : Prop where
  fetched : (w.server.fetchSessions.run file).result = .ok []
  named : Identity.ofFile w.metadataPath file = .ok identity
  nonblank : ∃ c ∈ identity.name.toList, isBlank c = false
  signal : ∃ lastModified,
    ((control.describe w.platform identity.name).run file).result = .ok lastModified ∧
      o.signal = .fallback lastModified
  known : o.identity = some identity
  attempts : attempts = [.get Listing.sessions.path,
    .command (control.arguments .describe identity.name), .get Listing.terminals.path]

/-- Collecting that succeeds has its course. -/
theorem collectCourse_of_ok (h : ((collect w control).run file).result = .ok o) :
    CollectCourse w control file ((collect w control).run file).events.deeds (.ok o) := by
  obtain ⟨ds, r, hcourse⟩ := exists_collectCourse w control file
  obtain ⟨file', hyields, -⟩ := hcourse.yields
  obtain rfl : r = .ok o := hyields.result.symm.trans h
  rw [hyields.deeds]
  exact hcourse

/-- What is collected has a signal. -/
theorem signal_ne_of_collect (h : ((collect w control).run file).result = .ok o) :
    o.signal ≠ .sessions [] := by
  obtain ⟨-, ⟨sessions, -, hne, hsignal, -, -⟩ | ⟨_, _, -, -, -, hsignal, -, -⟩⟩ :=
    (collectCourse_of_ok h).shape
  · rw [hsignal]
    intro heq
    exact hne (SessionSignal.sessions.inj heq)
  · rw [hsignal]
    intro heq
    cases heq

/-- **Collected observations are well-formed and never vacuous.** The terminals are
those fetched, and either sessions were observed or the instance was, not both. So
whatever the policy and the time, an idle verdict rests on a session or on the
instance: its time was read and lies further back than the threshold, and so does that
of everything else observed. -/
theorem collect_rests_on_a_signal (h : ((collect w control).run file).result = .ok o) :
    let attempts := ((collect w control).run file).events.attempts
    (w.server.fetchTerminals.run file).result = .ok o.terminals ∧
      Xor (ObservedSessions w file o attempts)
        (∃ identity, ObservedInstance w control file o attempts identity) ∧
      ∀ p now file' v, ((evaluate o p now).run file').result = .ok v → v.isIdle = true →
        (∃ e ∈ o.signal.entities, e.FoundOld p now) ∧ ∀ e ∈ o.entities, e.FoundOld p now := by
  intro attempts
  have hattempts : attempts = Deed.calls ((collect w control).run file).events.deeds :=
    Trace.attempts_eq_calls _
  obtain ⟨hterminals, hshape⟩ := (collectCourse_of_ok h).shape
  refine ⟨hterminals, ?_, fun p now file' v hv hidle => ?_⟩
  · obtain ⟨sessions, hfetch, hne, hsignal, hknown, hds⟩ |
      ⟨identity, lastModified, hfetch, hread, hdesc, hsignal, hknown, hds⟩ := hshape
    · rw [hds] at hattempts
      refine Or.inl ⟨⟨⟨sessions, hfetch, hne, hsignal⟩, hknown, hattempts⟩, ?_⟩
      rintro ⟨identity, hinstance⟩
      exact nomatch hknown.symm.trans hinstance.known
    · rw [hds] at hattempts
      have hnonblank := (Identity.names_iff_of_ofFile hread).2
      refine Or.inr ⟨⟨identity, hfetch, hread, hnonblank, ⟨lastModified, hdesc, hsignal⟩, hknown,
        hattempts⟩, fun hsessions => ?_⟩
      exact nomatch hknown.symm.trans hsessions.known
  · obtain ⟨hall, hsome⟩ := foundOld_of_evaluate_idle hv hidle
    exact ⟨hsome (signal_ne_of_collect h), hall⟩

/-- A server with no sessions and no terminals: one command tells when the instance was
last modified, and an hour later that is what an idle verdict rests on. -/
theorem collect_rests_on_a_signal_empty :
    let file : File := .bytes "\x7b\"ResourceName\":\"research\"\x7d".toUTF8.data.toList
    let empty : Reply := .answer 200 "[]".toUTF8.data.toList true
    let output := "\x7b\"LastModifiedTime\":\"2024-03-01T10:00:00Z\"\x7d"
    let w : World := ⟨⟨"http://127.0.0.1:8888", empty, empty⟩,
      ⟨fun _ => .missing, .runnable, ⟨output.toUTF8.data.toList, [], some 0, true⟩,
        ⟨[], [], some 0, false⟩⟩, "metadata"⟩
    let control : ControlPlane := ⟨"aws", .runnable, none, none⟩
    let o : Observations := ⟨.fallback ⟨1709287200, 0, by decide⟩, [], some ⟨"research", none⟩⟩
    let p : Policy := ⟨.ofSeconds 600, false, 8888⟩
    let now : Instant := ⟨1709290800, 0, by decide⟩
    ((collect w control).run file).result = .ok o ∧
      Xor (ObservedSessions w file o ((collect w control).run file).events.attempts)
        (∃ identity, ObservedInstance w control file o
          ((collect w control).run file).events.attempts identity) ∧
      (∃ v, ((evaluate o p now).run file).result = .ok v ∧ v.isIdle = true) ∧
      ∃ e ∈ o.signal.entities, e.FoundOld p now := by
  intro file empty output w control o p now
  have hcollect : ((collect w control).run file).result = .ok o := by
    have hsome : ((collect w control).run file).result.toOption = some o := by decide +kernel
    cases hresult : ((collect w control).run file).result with
    | error e => simp [hresult, Except.toOption] at hsome
    | ok o' => simpa [hresult, Except.toOption] using hsome
  have hpassed : p.threshold < now.since ⟨1709287200, 0, by decide⟩ := by decide +kernel
  obtain ⟨v, hv, hidle⟩ : ∃ v, ((evaluate o p now).run file).result = .ok v ∧ v.isIdle = true :=
    (evaluate_idle_iff o file).2 <|
      Observations.entities_idle_iff.2 ⟨hpassed, fun t ht => absurd ht List.not_mem_nil⟩
  obtain ⟨-, hshape, hrests⟩ := collect_rests_on_a_signal hcollect
  exact ⟨hcollect, hshape, ⟨v, hv, hidle⟩, (hrests p now file v hv hidle).1⟩

end Check

end IdleStop
