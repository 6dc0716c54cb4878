import IdleStop.Proofs.Check.Independence
import IdleStop.Proofs.Json.Field
import IdleStop.Proofs.Notebook.Listing
/-!
# Only what says it is idle is idle

A kernel is idle just if its state is the word `idle`, letter by letter. Any
other word is read too, as another state, so it neither spoils a listing nor
lets the instance be stopped: whatever else there is, a check that meets such
a kernel tries no command.
-/

namespace IdleStop

open IdleStop.Action
open Json (Tree Units)

/-- One word is read as idle. -/
theorem KernelState.ofName_eq_idle_iff {word : String} : ofName word = idle ↔ word = "idle" := by
  rw [ofName]
  constructor
  · intro h
    by_contra hne
    rw [if_neg hne] at h
    split_ifs at h
  · exact fun h => if_pos h

/-! ## The state in an element of a listing -/

/-- The state that a kernel's record gives as a string is the one that its text
names. -/
theorem Kernel.state_of_ofTree? {k : Tree} {kernel : Kernel} {us : Units}
    (h : ofTree? k = some kernel) (hstate : k.Holds "execution_state" 2 (.string us)) :
    ∃ word, us.text? = some word ∧ kernel.state = .ofName word := by
  rw [ofTree?] at h
  obtain ⟨slots, hslots, h⟩ := Option.bind_eq_some_iff.1 h
  have hslot := Tree.fields?_of_holds (by decide) hslots rfl hstate
  split at h
  · obtain ⟨_, -, h⟩ := Option.bind_eq_some_iff.1 h
    obtain ⟨_, -, h⟩ := Option.bind_eq_some_iff.1 h
    obtain ⟨state, hread, h⟩ := Option.bind_eq_some_iff.1 h
    obtain ⟨_, -, h⟩ := Option.bind_eq_some_iff.1 h
    obtain ⟨_, -, h⟩ := Option.bind_eq_some_iff.1 h
    obtain rfl := Option.some.inj h
    obtain rfl := Option.some.inj hslot
    obtain ⟨word, hword, hname⟩ := Option.map_eq_some_iff.1 hread
    exact ⟨word, hword, hname.symm⟩
  · cases h

namespace Session

variable {t : Tree} {s : Session} {us : Units} {word : String}

/-- An element of a listing gives the state of its kernel as a string. -/
def GivesState (t : Tree) (us : Units) : Prop :=
  ∃ k, t.Holds "kernel" 2 k ∧ k.Holds "execution_state" 2 (.string us)

/-- All of an element but the state of its kernel, which is a string, can be
read. -/
def ReadsBesides (t : Tree) (us : Units) : Prop :=
  ∃ id path k kernelId name connections lastActivity,
    t.fields? ["id", "path", "kernel"] = some [id, path, some k] ∧
    k.fields? ["id", "name", "execution_state", "connections", "last_activity"] =
      some [kernelId, name, some (.string us), connections, lastActivity] ∧
    (Tree.optionalText? id).isSome ∧ (Tree.optionalText? path).isSome ∧
    (Tree.optionalText? kernelId).isSome ∧ (Tree.optionalText? name).isSome ∧
    (connections.bind Tree.word?).isSome ∧ (Tree.requiredText? lastActivity).isSome

theorem word_of_ofTree? (h : ofTree? t = some s) (hstate : GivesState t us) :
    ∃ word, us.text? = some word ∧ s.kernel.state = .ofName word := by
  obtain ⟨k, hkernel, hstate⟩ := hstate
  rw [ofTree?] at h
  obtain ⟨slots, hslots, h⟩ := Option.bind_eq_some_iff.1 h
  have hslot := Tree.fields?_of_holds (by decide) hslots rfl hkernel
  split at h
  · obtain ⟨_, -, h⟩ := Option.bind_eq_some_iff.1 h
    obtain ⟨_, -, h⟩ := Option.bind_eq_some_iff.1 h
    obtain ⟨kernel, hread, h⟩ := Option.bind_eq_some_iff.1 h
    obtain rfl := Option.some.inj h
    obtain rfl := Option.some.inj hslot
    exact Kernel.state_of_ofTree? hread hstate
  · cases h

/-- **A kernel is read as idle just if its state is that word.** -/
theorem state_eq_idle_iff (h : ofTree? t = some s) (hstate : GivesState t us) :
    s.kernel.state = .idle ↔ us.text? = some "idle" := by
  obtain ⟨word, hword, hname⟩ := word_of_ofTree? h hstate
  rw [hname, hword, KernelState.ofName_eq_idle_iff, Option.some.injEq]

/-- **No word for a state keeps an element from being read.** -/
theorem exists_ofTree?_of_readsBesides (h : ReadsBesides t us) (hword : us.text? = some word) :
    ∃ s, ofTree? t = some s := by
  obtain ⟨id, path, k, kernelId, name, connections, lastActivity, hsession, hkernel, hid, hpath,
    hkernelId, hname, hconnections, hlast⟩ := h
  obtain ⟨id, hid⟩ := Option.isSome_iff_exists.1 hid
  obtain ⟨path, hpath⟩ := Option.isSome_iff_exists.1 hpath
  obtain ⟨kernelId, hkernelId⟩ := Option.isSome_iff_exists.1 hkernelId
  obtain ⟨name, hname⟩ := Option.isSome_iff_exists.1 hname
  obtain ⟨connections, hconnections⟩ := Option.isSome_iff_exists.1 hconnections
  obtain ⟨lastActivity, hlast⟩ := Option.isSome_iff_exists.1 hlast
  have hk : Kernel.ofTree? k =
      some ⟨kernelId, name, .ofName word, connections, lastActivity⟩ := by
    simp [Kernel.ofTree?, hkernel, hkernelId, hname, hconnections, hlast, KernelState.ofTree?,
      hword]
  exact ⟨⟨id, path, ⟨kernelId, name, .ofName word, connections, lastActivity⟩⟩,
    by simp [ofTree?, hsession, hid, hpath, hk]⟩

end Session

/-! ## A check that meets a kernel that is not idle -/

namespace Check

variable {w : World} {control : ControlPlane} {p : Policy} {now : Instant} {file : File}
variable {sessions : List Session} {s : Session}

/-- Without a command nothing is stopped. -/
theorem not_stopped_of_no_command
    (h : ∀ args, .command args ∉ ((run w control p now).run file).events.attempts)
    (name : String) : ((run w control p now).run file).result ≠ .ok (.stopped name) := by
  intro hstopped
  have hcourse := course_run w control p now file
  rw [hstopped] at hcourse
  obtain ⟨_, -, -, hstop⟩ := hcourse.stopped_name
  rw [← Trace.attempts_eq_calls] at hstop
  exact h _ hstop

/-- The session that stands at a place of a listing is read from the item at that
place of the body. -/
theorem getElem?_of_listed {status : Nat} {body : List UInt8} {complete : Bool} {ts : List Tree}
    {i : Nat} {t : Tree} (hreply : w.server.sessions = .answer status body complete)
    (hbody : Tree.parse? (Utf8.decodeLossy body) = some (.array ts)) (hi : ts[i]? = some t)
    (hfetch : (w.server.fetchSessions.run file).result = .ok sessions) :
    ∃ s, sessions[i]? = some s ∧ Session.ofTree? t = some s := by
  obtain ⟨-, status', body', complete', text, hreply', htext, -, hitems⟩ :=
    Listing.fetch_eq_ok_iff.1 hfetch
  obtain ⟨rfl, rfl, rfl⟩ := Reply.answer.inj (hreply.symm.trans hreply')
  obtain ⟨ts', hparse, hread⟩ := Listing.ofText?_eq_some_iff.1 hitems
  -- an answer that has no body is no listing
  have htext' : text = Utf8.decodeLossy body := by
    unfold Listing.bodyText? at htext
    split_ifs at htext with hcarries hcomplete
    · exact (Option.some.inj htext).symm
    · obtain rfl := Option.some.inj htext
      cases hparse
  rw [htext', hbody] at hparse
  obtain rfl := Tree.array.inj (Option.some.inj hparse)
  obtain ⟨hlt, rfl⟩ := List.getElem?_eq_some_iff.1 hi
  have hlt' : i < sessions.length := hread.length_eq ▸ hlt
  exact ⟨sessions[i], List.getElem?_eq_getElem hlt', hread.get hlt hlt'⟩

/-- **Only the word `idle` can lead to a stop.** Take an item of the body of the
sessions that gives its kernel's state as a string. If the rest of it can be
read, it can be read whatever word the string is; it is read as idle just if
the word is `idle`, and stands in the listing at its place. With any other
string, a check tries no command and stops nothing. -/
theorem no_stop_unless_word_idle {status : Nat} {body : List UInt8} {complete : Bool}
    (hreply : w.server.sessions = .answer status body complete) {ts : List Tree}
    (hbody : Tree.parse? (Utf8.decodeLossy body) = some (.array ts)) {i : Nat} {t : Tree}
    (hi : ts[i]? = some t) {us : Units} (hstate : Session.GivesState t us) :
    (∀ word, us.text? = some word → Session.ReadsBesides t us →
      ∃ s, Session.ofTree? t = some s) ∧
    (∀ s, Session.ofTree? t = some s → (s.kernel.state = .idle ↔ us.text? = some "idle")) ∧
    (∀ file sessions, (w.server.fetchSessions.run file).result = .ok sessions →
      ∃ s, sessions[i]? = some s ∧ Session.ofTree? t = some s) ∧
    (us.text? ≠ some "idle" → ∀ control p now file,
      (∀ args, .command args ∉ ((run w control p now).run file).events.attempts) ∧
        ∀ name, ((run w control p now).run file).result ≠ .ok (.stopped name)) := by
  refine ⟨fun word hword h => Session.exists_ofTree?_of_readsBesides h hword,
    fun s hs => Session.state_eq_idle_iff hs hstate,
    fun file sessions => getElem?_of_listed hreply hbody hi, fun hother control p now file => ?_⟩
  have hno : ∀ args, .command args ∉ ((run w control p now).run file).events.attempts := by
    cases hfetch : (w.server.fetchSessions.run file).result with
    | error e =>
      rw [Trace.attempts_eq_calls, (course_run w control p now file).calls_of_unfetched hfetch]
      simp
    | ok sessions =>
      obtain ⟨s, hs, hread⟩ := getElem?_of_listed hreply hbody hi hfetch
      have hmem : s ∈ sessions := List.mem_of_getElem? hs
      have hactive : s.kernel.state ≠ .idle :=
        fun hidle => hother ((Session.state_eq_idle_iff hread hstate).1 hidle)
      exact command_not_mem_attempts hfetch (List.ne_nil_of_mem hmem)
        (not_findsIdle_of_state hfetch hmem hactive)
  exact ⟨hno, not_stopped_of_no_command hno⟩

/-- A kernel that writes its state with a capital letter, behind an escape, in a
notebook otherwise idle. -/
theorem no_stop_unless_word_idle_capital :
    let body := "[\x7b\"kernel\":\x7b\"execution_state\":\"\\u0049dle\"," ++
      "\"connections\":0,\"last_activity\":\"\"\x7d\x7d]"
    let kernel : Tree := .object [
      (Units.ofString "execution_state", .string (Units.ofString "Idle")),
      (Units.ofString "connections", .number ⟨false, [0], [], none⟩),
      (Units.ofString "last_activity", .string [])]
    let t : Tree := .object [(Units.ofString "kernel", kernel)]
    let us := Units.ofString "Idle"
    let w : World := ⟨⟨"http://127.0.0.1:8000", .answer 200 body.toUTF8.data.toList true,
      .answer 200 "[]".toUTF8.data.toList true⟩,
      ⟨fun _ => .runnable, .runnable, ⟨[], [], some 0, false⟩, ⟨[], [], some 0, false⟩⟩, "metadata"⟩
    Tree.parse? (Utf8.decodeLossy body.toUTF8.data.toList) = some (.array [t]) ∧
      Session.GivesState t us ∧ us.text? = some "Idle" ∧ Session.ReadsBesides t us ∧
      (∃ s, Session.ofTree? t = some s) ∧
      ∀ control p now file,
        (∀ args, .command args ∉ ((run w control p now).run file).events.attempts) ∧
          ∀ name, ((run w control p now).run file).result ≠ .ok (.stopped name) := by
  intro body kernel t us w
  have hbody : Tree.parse? (Utf8.decodeLossy body.toUTF8.data.toList) = some (.array [t]) := by
    simp only [body, t, kernel]
    rfl
  have hstate : Session.GivesState t us :=
    ⟨kernel, Or.inl ⟨_, _, rfl, List.mem_singleton_self _, rfl⟩,
      Or.inl ⟨_, _, rfl, List.mem_cons_self, rfl⟩⟩
  have hword : us.text? = some "Idle" := rfl
  have hrest : Session.ReadsBesides t us :=
    ⟨none, none, kernel, none, none, _, _, rfl, rfl, rfl, rfl, rfl, rfl, rfl, rfl⟩
  obtain ⟨hread, -, -, hno⟩ := no_stop_unless_word_idle (w := w) rfl hbody (i := 0) rfl hstate
  exact ⟨hbody, hstate, hword, hrest, hread _ hword hrest,
    hno (by rw [hword]; decide)⟩

end Check

end IdleStop
