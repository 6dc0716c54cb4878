import IdleStop.Proofs.Check.Course
import IdleStop.Proofs.Json.Field
/-!
# One instance in a check

All commands of a check name one instance, the one the metadata file named
when it was read, and it is read once. What becomes of the file afterwards,
even if describing the instance deletes it, does not change what the check
comes to.
-/

namespace IdleStop

open IdleStop.Action

/-- A metadata file names an instance: it is a record whose `ResourceName`
is this text, as it stands. -/
def File.Names (file : File) (name : String) : Prop :=
  ∃ text tree us, file.readText = .ok text ∧ Json.Tree.parse? text = some tree ∧
    tree.Holds "ResourceName" 0 (.string us) ∧ us.text? = some name

/-! ## The identity in the file -/

namespace Identity

variable {path : String} {file : File} {identity : Identity}

/-- The name in an identity is the text of the one value that the record holds
for it. -/
theorem holds_iff_of_ofTree? {t : Json.Tree} (h : ofTree? t = some identity) :
    ∃ us, us.text? = some identity.name ∧
      ∀ value, t.Holds "ResourceName" 0 value ↔ value = .string us := by
  rw [ofTree?] at h
  obtain ⟨slots, hslots, h⟩ := Option.bind_eq_some_iff.1 h
  split at h
  · rename_i name arn
    obtain ⟨s, hs, h⟩ := Option.bind_eq_some_iff.1 h
    obtain ⟨a, -, h⟩ := Option.bind_eq_some_iff.1 h
    obtain rfl := Option.some.inj h
    obtain ⟨us, rfl, hus⟩ := Json.Tree.requiredText?_eq_some_iff.1 hs
    refine ⟨us, hus, fun value => ⟨fun hholds => ?_, ?_⟩⟩
    · have hread := Json.Tree.fields?_of_holds (by decide) hslots rfl hholds
      exact (Option.some.inj (Option.some.inj hread)).symm
    · rintro rfl
      exact Json.Tree.holds_of_fields? hslots rfl rfl
  · cases h

/-- What it takes for a file to identify an instance. -/
theorem ofFile_eq_ok_iff :
    ofFile path file = .ok identity ↔
      ∃ text tree, file.readText = .ok text ∧ Json.Tree.parse? text = some tree ∧
        ofTree? tree = some identity ∧ isBlankText identity.name = false := by
  constructor
  · intro h
    rw [ofFile] at h
    cases htext : file.readText with
    | error fault => simp [htext] at h
    | ok text =>
      cases hread : (Json.Tree.parse? text).bind ofTree? with
      | none => simp [htext, hread] at h
      | some identity' =>
        obtain ⟨tree, hparse, htree⟩ := Option.bind_eq_some_iff.1 hread
        cases hblank : isBlankText identity'.name with
        | true => simp [htext, hread, hblank] at h
        | false =>
          obtain rfl : identity' = identity := by simpa [htext, hread, hblank] using h
          exact ⟨text, tree, rfl, hparse, htree, hblank⟩
  · rintro ⟨text, tree, htext, hparse, htree, hblank⟩
    simp [ofFile, htext, hparse, htree, hblank]

/-- **A file names the instance that is identified by it, and no other**, and
the name is not blank. -/
theorem names_iff_of_ofFile (h : ofFile path file = .ok identity) :
    (∀ name, file.Names name ↔ name = identity.name) ∧
      ∃ c ∈ identity.name.toList, isBlank c = false := by
  obtain ⟨text, tree, htext, hparse, htree, hblank⟩ := ofFile_eq_ok_iff.1 h
  obtain ⟨us, hus, hholds⟩ := holds_iff_of_ofTree? htree
  refine ⟨fun name => ⟨?_, ?_⟩, by simpa [isBlankText] using hblank⟩
  · rintro ⟨text', tree', us', htext', hparse', hholds', hus'⟩
    obtain rfl := Except.ok.inj (htext.symm.trans htext')
    obtain rfl := Option.some.inj (hparse.symm.trans hparse')
    obtain rfl := Json.Tree.string.inj ((hholds _).1 hholds')
    exact Option.some.inj (hus'.symm.trans hus)
  · rintro rfl
    exact ⟨text, tree, us, htext, hparse, (hholds _).2 rfl, hus⟩

end Identity

/-! ## The commands of a course -/

namespace Check

variable {w : World} {control : ControlPlane} {p : Policy} {now : Instant} {file : File}
variable {ds : List Deed}

/-- Every command is for the instance that the metadata file names. -/
theorem Course.command_mem {r : Except CheckError Ending} (h : Course w control p now file ds r)
    {args : List String} (hargs : Call.command args ∈ Deed.calls ds) :
    ∃ identity, Identity.ofFile w.metadataPath file = .ok identity ∧
      ∃ op, args = control.arguments op identity.name := by
  have hcollected : ∀ {ds r}, CollectCourse w control file ds r →
      Call.command args ∈ Deed.calls ds →
      ∃ identity, Identity.ofFile w.metadataPath file = .ok identity ∧
        ∃ op, args = control.arguments op identity.name := by
    intro ds r h hargs
    obtain ⟨identity, hread, rfl⟩ := h.command_mem hargs
    exact ⟨identity, hread, .describe, rfl⟩
  cases h with
  | uncollected hcollect => exact hcollected hcollect hargs
  | unevaluated hcollect _ => exact hcollected hcollect hargs
  | evaluated hcollect _ hact =>
    rw [Deed.calls_append, List.mem_append] at hargs
    rcases hargs with hargs | hargs
    · exact hcollected hcollect hargs
    · rcases hact.calls with hcalls | ⟨identity, _, -, hid, hcalls⟩
      · rw [hcalls] at hargs
        exact absurd hargs List.not_mem_nil
      · rw [hcalls, List.mem_singleton] at hargs
        exact ⟨identity, hcollect.ofFile_eq hid, .stop, Call.command.inj hargs⟩

/-- An instance that was requested to stop is that instance. -/
theorem Course.stopped_name {name : String}
    (h : Course w control p now file ds (.ok (.stopped name))) :
    ∃ identity, Identity.ofFile w.metadataPath file = .ok identity ∧ name = identity.name ∧
      Call.command (control.arguments .stop name) ∈ Deed.calls ds := by
  cases h with
  | evaluated hcollect _ hact =>
    cases hact with
    | @stopped _ identity _ hid _ => exact ⟨identity, hcollect.ofFile_eq hid, rfl, by simp⟩

/-! ## The reading of the file -/

/-- Deeds that read the metadata file first, and not again, if they do
anything. -/
def ReadsFirst (ds : List Deed) : Prop :=
  ds = [] ∨ ∃ after, ds = .read :: after ∧ .read ∉ after

/-- Deeds in which the metadata file is read at most once, and before that
only listings are requested. -/
def ReadsOnce (ds : List Deed) : Prop :=
  ∃ (listings : List Listing) (rest : List Deed), ds = listings.map .fetch ++ rest ∧ ReadsFirst rest

theorem read_not_mem_fetch (listings : List Listing) :
    Deed.read ∉ listings.map Deed.fetch := by
  intro hmem
  obtain ⟨listing, -, hd⟩ := List.mem_map.1 hmem
  cases hd

theorem ReadsOnce.count_le_one (h : ReadsOnce ds) : ds.count .read ≤ 1 := by
  obtain ⟨listings, rest, rfl, hrest⟩ := h
  rw [List.count_append, List.count_eq_zero.2 (read_not_mem_fetch listings), Nat.zero_add]
  rcases hrest with rfl | ⟨after, rfl, hafter⟩
  · exact Nat.zero_le 1
  · have hzero : after.count .read = 0 := List.count_eq_zero.2 hafter
    exact Nat.le_of_eq (by rw [List.count_cons_self, hzero])

/-- So no command comes before the reading. -/
theorem ReadsOnce.command_not_mem_takeWhile (h : ReadsOnce ds) (args : List String) :
    Deed.call (.command args) ∉ ds.takeWhile (· ≠ .read) := by
  obtain ⟨listings, rest, rfl, hrest⟩ := h
  have hnone : rest.takeWhile (· ≠ .read) = [] := by
    rcases hrest with rfl | ⟨after, rfl, -⟩ <;> simp
  -- nothing before the rest is a reading, so all of it is taken
  have hall : ∀ d ∈ listings.map Deed.fetch, decide (d ≠ Deed.read) = true := by
    intro d hd
    refine decide_eq_true ?_
    rintro rfl
    exact read_not_mem_fetch listings hd
  rw [List.takeWhile_append_of_pos hall, hnone, List.append_nil]
  intro hmem
  obtain ⟨listing, -, hd⟩ := List.mem_map.1 hmem
  cases hd

theorem CollectCourse.readsOnce {r : Except CheckError Observations}
    (h : CollectCourse w control file ds r) : ReadsOnce ds := by
  cases h with
  | unsignalled h =>
    cases h with
    | unfetched _ => exact ⟨[.sessions], [], rfl, Or.inl rfl⟩
    | unidentified _ _ => exact ⟨[.sessions], _, rfl, Or.inr ⟨_, rfl, List.not_mem_nil⟩⟩
    | undescribed _ _ _ =>
      exact ⟨[.sessions], _, rfl, Or.inr ⟨_, rfl, by simp [Deed.invoke]⟩⟩
  | unlisted h _ | collected h _ =>
    cases h with
    | listed _ _ => exact ⟨[.sessions, .terminals], [], rfl, Or.inl rfl⟩
    | described _ _ _ =>
      exact ⟨[.sessions], _, rfl, Or.inr ⟨_, rfl, by simp [Deed.invoke, Deed.fetch]⟩⟩

/-- A known instance is not looked up again. -/
theorem ActCourse.read_not_mem {identity : Identity} {v : Verdict}
    {r : Except CheckError Ending} (h : ActCourse w control file (some identity) v ds r) :
    Deed.read ∉ ds := by
  cases h with
  | active _ => exact List.not_mem_nil
  | unnamed _ hid => cases hid
  | unstopped _ hid _ | stopped _ hid _ =>
    cases hid
    simp [Deed.invoke]

theorem ActCourse.readsFirst {v : Verdict} {r : Except CheckError Ending}
    (h : ActCourse w control file none v ds r) : ReadsFirst ds := by
  cases h with
  | active _ => exact Or.inl rfl
  | unnamed _ hid =>
    cases hid
    exact Or.inr ⟨_, rfl, List.not_mem_nil⟩
  | unstopped _ hid _ | stopped _ hid _ =>
    cases hid
    exact Or.inr ⟨_, rfl, by simp [Deed.invoke]⟩

/-- **The metadata file is read at most once, and before any command.** -/
theorem Course.readsOnce {r : Except CheckError Ending}
    (h : Course w control p now file ds r) : ReadsOnce ds := by
  cases h with
  | uncollected hcollect | unevaluated hcollect _ => exact hcollect.readsOnce
  | @evaluated _ ds' _ _ _ hcollect _ hact =>
    obtain ⟨-, ⟨_, -, -, -, hknown, rfl⟩ | ⟨_, _, -, -, -, -, hknown, rfl⟩⟩ := hcollect.shape
    · rw [hknown] at hact
      exact ⟨[.sessions, .terminals], ds', rfl, hact.readsFirst⟩
    · rw [hknown] at hact
      refine ⟨[.sessions], _, rfl, Or.inr ⟨_, rfl, ?_⟩⟩
      simpa [Deed.invoke, Deed.fetch] using hact.read_not_mem

end Check

/-! ## A file that goes away -/

/-- The world in which describing the instance deletes the metadata file, or
does not, and which is otherwise the same. -/
def World.describing (w : World) (deletes : Bool) : World :=
  { w with platform.describe.deletesMetadata := deletes }

namespace ControlPlane

variable {c : ControlPlane} {platform platform' : Platform} {op : Operation} {name : String}

/-- What a command comes to does not depend on whether it deletes the
metadata file. -/
theorem invoke_alike {deletes : Bool}
    (h : platform'.behaviour op = { platform.behaviour op with deletesMetadata := deletes })
    (file : File) :
    Alike ((c.invoke platform' op name).run file) ((c.invoke platform op name).run file) := by
  unfold invoke
  dsimp only
  refine Alike.bind (Alike.refl _) fun _ _ => ?_
  cases c.startFault? (c.arguments op name) with
  | some fault => exact Alike.refl _
  | none =>
    refine Alike.bind (Alike.refl _) fun _ _ => ?_
    rw [h]
    refine Blind.delete_first ?_ _ _ _
    exact Acts.blind (.ite (.log_bind (.pure _)) (.log_bind (.fail _)))

theorem describe_alike (w : World) (deletes : Bool) (file : File) :
    Alike ((c.describe (w.describing deletes).platform name).run file)
      ((c.describe w.platform name).run file) := by
  have h : (w.describing deletes).platform.behaviour .describe =
      { w.platform.behaviour .describe with deletesMetadata := deletes } := rfl
  exact Alike.bind (invoke_alike h file) fun _ _ => ⟨rfl, rfl⟩

end ControlPlane

namespace Check

variable {w : World} {control : ControlPlane} {p : Policy} {now : Instant}

/-- Whether describing the instance deletes the metadata file makes no
difference to what is collected. -/
theorem collect_alike (w : World) (control : ControlPlane) (deletes : Bool) (file : File) :
    Alike ((collect (w.describing deletes) control).run file)
      ((collect w control).run file) := by
  -- only where the instance is described do the two worlds differ
  have hsignal : Alike ((collectSignal (w.describing deletes) control).run file)
      ((collectSignal w control).run file) := by
    unfold collectSignal
    refine Alike.bind (Alike.refl _) fun sessions _ => ?_
    cases sessions.isEmpty with
    | false => exact Alike.refl _
    | true =>
      refine Alike.bind (Alike.refl _) fun _ _ => ?_
      refine Alike.bind (Alike.refl _) fun identity _ => ?_
      exact Alike.bind (ControlPlane.describe_alike w deletes _) fun _ _ => ⟨rfl, rfl⟩
  unfold collect
  refine hsignal.bind fun s _ => ?_
  refine Blind.bind Server.fetchTerminals_acts.blind (fun terminals => ?_) _ _
  cases terminals.isEmpty with
  | false => exact Acts.blind (.log_bind (.pure _))
  | true => exact Acts.blind (.pure _)

/-- If the instance is not known by then, no command has touched the
metadata file. -/
theorem collect_metadata {o : Observations} {file : File}
    (h : ((collect w control).run file).result = .ok o) (hknown : o.identity = none) :
    ((collect w control).run file).metadata = file := by
  obtain ⟨ds, r, hcourse⟩ := exists_collectCourse w control file
  obtain ⟨file', hyields, hfile⟩ := hcourse.yields
  rw [hyields.metadata]
  exact hfile o (hyields.result.symm.trans h) hknown

/-- With a known instance, acting does not depend on the metadata file. -/
theorem act_blind (identity : Identity) (v : Verdict) :
    (act w control p now (some identity) v).Blind := by
  unfold act
  cases v.isIdle with
  | false => exact Acts.blind (.log_bind (.log_bind (.pure _)))
  | true =>
    refine Blind.bind (fun _ _ => ⟨rfl, rfl⟩) fun identity => ?_
    exact Acts.blind (.log_bind (ControlPlane.stop_acts.bind_idle fun _ => .pure _))

/-- **Whether describing the instance deletes the metadata file makes no
difference to a check.** -/
theorem run_alike (w : World) (control : ControlPlane) (p : Policy) (now : Instant)
    (file : File) (deletes : Bool) :
    Alike ((run (w.describing deletes) control p now).run file)
      ((run w control p now).run file) := by
  have hcollect := collect_alike w control deletes file
  refine hcollect.bind fun o ho => ?_
  refine Alike.bind ((evaluate_acts o).blind _ _) fun v _ => ?_
  rw [(evaluate_acts o).metadata, (evaluate_acts o).metadata]
  cases hknown : o.identity with
  | some identity => exact act_blind identity v _ _
  | none =>
    -- both left the file as it was
    rw [id, id, collect_metadata ho hknown, collect_metadata (hcollect.1.symm.trans ho) hknown]
    exact Alike.refl _

/-- **A check has to do with one instance.** Its commands all name the one
that the metadata file names and no other, and that name is not blank;
an instance that was requested to stop is that one. The file is read at most
once and before any command, and it makes no difference if it goes away when
the instance is described. -/
theorem run_names_one_instance (w : World) (control : ControlPlane) (p : Policy)
    (now : Instant) (file : File) :
    let o := (run w control p now).run file
    (∃ name,
      (∀ args, .command args ∈ o.events.attempts →
        (∀ n, file.Names n ↔ n = name) ∧ (∃ c ∈ name.toList, isBlank c = false) ∧
          ∃ op, args = control.arguments op name) ∧
      ∀ name', o.result = .ok (.stopped name') →
        name' = name ∧ .command (control.arguments .stop name) ∈ o.events.attempts) ∧
    o.events.count .metadataRead ≤ 1 ∧
    (∀ args, .call (.command args) ∉ o.events.deeds.takeWhile (· ≠ .read)) ∧
    ∀ deletes, Alike ((run (w.describing deletes) control p now).run file) o := by
  intro o
  have h : Course w control p now file o.events.deeds o.result :=
    course_run w control p now file
  rw [Trace.count_metadataRead, Trace.attempts_eq_calls]
  refine ⟨?_, h.readsOnce.count_le_one, h.readsOnce.command_not_mem_takeWhile,
    run_alike w control p now file⟩
  cases hid : Identity.ofFile w.metadataPath file with
  | error e =>
    -- no command was tried, so any name will do
    refine ⟨"", fun args hargs => ?_, fun name hstopped => ?_⟩
    · obtain ⟨_, hread, -⟩ := h.command_mem hargs
      simp [hid] at hread
    · rw [hstopped] at h
      obtain ⟨_, hread, -⟩ := h.stopped_name
      simp [hid] at hread
  | ok identity =>
    refine ⟨identity.name, fun args hargs => ?_, fun name hstopped => ?_⟩
    · obtain ⟨identity', hread, hop⟩ := h.command_mem hargs
      obtain rfl := Except.ok.inj (hid.symm.trans hread)
      obtain ⟨hnames, hblank⟩ := Identity.names_iff_of_ofFile hread
      exact ⟨hnames, hblank, hop⟩
    · rw [hstopped] at h
      obtain ⟨identity', hread, rfl, hstop⟩ := h.stopped_name
      obtain rfl := Except.ok.inj (hid.symm.trans hread)
      exact ⟨rfl, hstop⟩

end Check

end IdleStop
