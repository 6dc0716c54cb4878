import IdleStop.Proofs.Check.Failure
import IdleStop.Proofs.Instance.Description
import IdleStop.Proofs.Json.Grammar
/-!
# What comes of asking for a description

A command that starts and succeeds answers with the document it prints, if that can
be read (`ControlPlane.Answers`). Of the document only the last entry for the time of
last modification counts (`ControlPlane.Reports`). If it tells an instant, that is
the result. Any other text or number is a time in no known format, and without such an
entry nothing was told at all. So what comes of a command is one of three things
(`ControlPlane.Told`), whatever it prints.
-/

namespace IdleStop

open Json (Tree Units)

/-! ## The last entry of an object -/

namespace Json.Tree

variable {t value value' : Tree} {key : String}

/-- The last entry of an object with this key holds this value. -/
def HoldsLast (t : Tree) (key : String) (value : Tree) : Prop :=
  ∃ before us after, t = .object (before ++ (us, value) :: after) ∧ us.text? = some key ∧
    ∀ m ∈ after, m.1.text? ≠ some key

/-- The last entry is the one that is looked up. -/
theorem lookup?_eq_some_iff : t.lookup? key = some value ↔ t.HoldsLast key value := by
  constructor
  · intro h
    cases t with
    | object ms =>
      obtain ⟨⟨us, _⟩, hfind, rfl⟩ := Option.map_eq_some_iff.1 h
      obtain ⟨hus, after, before, hms, hafter⟩ := List.find?_eq_some_iff_append.1 hfind
      refine ⟨before.reverse, us, after.reverse, ?_, of_decide_eq_true hus, ?_⟩
      · rw [← List.reverse_reverse ms, hms]
        simp
      · intro m hm
        simpa using hafter m (List.mem_reverse.1 hm)
    | null | bool _ | number _ | string _ | array _ => cases h
  · rintro ⟨before, us, after, rfl, hus, hafter⟩
    refine Option.map_eq_some_iff.2 ⟨(us, value), List.find?_eq_some_iff_append.2 ?_, rfl⟩
    refine ⟨decide_eq_true hus, after.reverse, before.reverse, by simp, fun m hm => ?_⟩
    simpa using hafter m (List.mem_reverse.1 hm)

theorem isMeaningful_of_mem {us : Units} {ms : List (Units × Tree)}
    (h : membersMeaningful ms = true) (hmem : (us, value) ∈ ms) : value.isMeaningful = true := by
  induction ms with
  | nil => exact absurd hmem List.not_mem_nil
  | cons m ms ih =>
    obtain ⟨us', t⟩ := m
    rw [membersMeaningful, Bool.and_eq_true, Bool.and_eq_true] at h
    rcases List.mem_cons.1 hmem with heq | hmem
    · obtain ⟨-, rfl⟩ := Prod.mk.inj heq
      exact h.1.2
    · exact ih h.2 hmem

/-- Where a document can be read, so can what it holds. -/
theorem HoldsLast.isMeaningful (h : t.HoldsLast key value) (ht : t.isReadable = true) :
    value.isMeaningful = true := by
  obtain ⟨before, us, after, rfl, -⟩ := h
  rw [isReadable, Bool.and_eq_true, isMeaningful] at ht
  exact isMeaningful_of_mem ht.2 (List.mem_append_right before List.mem_cons_self)

end Json.Tree

namespace ControlPlane

variable {c : ControlPlane} {platform : Platform} {name : String}
variable {value : Tree} {i : Instant}

/-! ## What a command reports -/

/-- The command that describes an instance starts, succeeds, and prints this document,
which can be read. -/
structure Answers (c : ControlPlane) (platform : Platform) (name : String) (t : Tree) : Prop where
  starts : c.startFault? (c.arguments .describe name) = none
  succeeds : platform.describe.exit = some 0
  prints : t.Spells (Utf8.decodeLossy platform.describe.stdout)
  readable : t.isReadable = true

/-- A command answers with an object whose last entry for the time of last modification
is this. -/
def Reports (c : ControlPlane) (platform : Platform) (name : String) (value : Tree) : Prop :=
  ∃ t, c.Answers platform name t ∧ t.HoldsLast "LastModifiedTime" value

/-- A text that is an instant in RFC 3339, or a number that tells one as epoch
seconds. -/
inductive Tells : Tree → Instant → Prop
  | text {us : Units} {s : String} {i : Instant} (hus : us.text? = some s)
      (h : Rfc3339.parse s = .ok i) : Tells (.string us) i
  | number {l : Json.Literal} {n : Json.Number} {i : Instant}
      (hl : Json.Number.ofLiteral? l = some n) (h : Epoch.Tells n i) : Tells (.number l) i

/-- A text or a number, as errors show it, and the format that is expected of it. -/
inductive Shows : Tree → String → TimeFormat → Prop
  | text {us : Units} {s : String} (hus : us.text? = some s) : Shows (.string us) s .rfc3339
  | number {l : Json.Literal} {n : Json.Number} (hl : Json.Number.ofLiteral? l = some n) :
    Shows (.number l) n.text .epochSeconds

/-- A text or a number. -/
def IsTextOrNumber (value : Tree) : Prop :=
  (∃ us, value = .string us) ∨ ∃ l, value = .number l

/-- What comes of asking for a description. -/
inductive Told (c : ControlPlane) (platform : Platform) (name : String) :
    Except CheckError Instant → Prop
  /-- The instant that is told. -/
  | instant {value : Tree} {i : Instant} (hvalue : c.Reports platform name value)
      (h : Tells value i) : Told c platform name (.ok i)
  /-- A text or number that tells no instant. -/
  | misformed {value : Tree} {shown : String} {expected : TimeFormat}
      (hvalue : c.Reports platform name value) (hshown : Shows value shown expected)
      (h : ∀ i, ¬ Tells value i) : Told c platform name (.error (.format shown expected))
  /-- No text or number was told. -/
  | untold (fault : TransportFault)
      (h : ∀ value, c.Reports platform name value → ¬ IsTextOrNumber value) :
    Told c platform name (.error (.transport Operation.describe.endpoint fault))

/-! ## One of three things comes of a command -/

/-- What a command prints is all that its description is read from. -/
theorem describe_result_eq (file : File) :
    ((c.describe platform name).run file).result =
      (do modificationTime (← ((c.invoke platform .describe name).run file).result)) := by
  rw [describe]
  cases hinvoke : ((c.invoke platform .describe name).run file).result with
  | error e => rw [Action.run_bind_of_error hinvoke]; rfl
  | ok output => rw [Action.run_bind_of_ok hinvoke]; rfl

/-- The document that a command answers with is read. -/
theorem describe_result_of_answers {t : Tree} (h : c.Answers platform name t) (file : File) :
    ((c.describe platform name).run file).result =
      modificationTime (Utf8.decodeLossy platform.describe.stdout) := by
  rw [describe_result_eq, invoke_result h.starts h.succeeds file]
  rfl

/-- A command that does not answer fails. -/
theorem describe_result_of_not_answers (h : ∀ t, ¬ c.Answers platform name t) (file : File) :
    ∃ fault, ((c.describe platform name).run file).result =
      .error (.transport Operation.describe.endpoint fault) := by
  rw [describe_result_eq, invoke_result_eq]
  cases hstarts : c.startFault? (c.arguments .describe name) with
  | some fault => exact ⟨.notStarted fault, rfl⟩
  | none =>
    by_cases hexit : (platform.behaviour .describe).exit = some 0
    · refine ⟨.malformedOutput, ?_⟩
      rw [if_pos hexit]
      change modificationTime (Utf8.decodeLossy platform.describe.stdout) = _
      rw [modificationTime]
      cases hparse : Tree.parse? (Utf8.decodeLossy platform.describe.stdout) with
      | none => rfl
      | some t =>
        have hreadable : ¬ t.isReadable = true := fun hreadable =>
          h t ⟨hstarts, hexit, Tree.parse?_eq_some_iff.1 hparse, hreadable⟩
        dsimp only
        rw [if_neg hreadable]
    · refine ⟨.exited platform.describe.exit, ?_⟩
      rw [if_neg hexit]
      rfl

/-- A command answers with one document. -/
theorem Answers.unique {t t' : Tree} (h : c.Answers platform name t)
    (h' : c.Answers platform name t') : t = t' :=
  h.prints.unique h'.prints

/-- A command reports one value. -/
theorem Reports.unique {value' : Tree} (h : c.Reports platform name value)
    (h' : c.Reports platform name value') : value = value' := by
  obtain ⟨t, ht, hlast⟩ := h
  obtain ⟨t', ht', hlast'⟩ := h'
  obtain rfl := ht.unique ht'
  exact Option.some.inj
    ((Tree.lookup?_eq_some_iff.2 hlast).symm.trans (Tree.lookup?_eq_some_iff.2 hlast'))

/-- A value tells one instant. -/
theorem Tells.unique {j : Instant} (h : Tells value i) (h' : Tells value j) : i = j := by
  cases h with
  | text hus h =>
    cases h' with
    | text hus' h' =>
      obtain rfl := Option.some.inj (hus.symm.trans hus')
      exact Except.ok.inj (h.symm.trans h')
  | number hl h =>
    cases h' with
    | number hl' h' =>
      obtain rfl := Option.some.inj (hl.symm.trans hl')
      exact Except.ok.inj ((Epoch.parse_eq_ok_iff.2 h).symm.trans (Epoch.parse_eq_ok_iff.2 h'))

/-- A value is shown in one way. -/
theorem Shows.unique {shown shown' : String} {expected expected' : TimeFormat}
    (h : Shows value shown expected) (h' : Shows value shown' expected') :
    shown = shown' ∧ expected = expected' := by
  cases h with
  | text hus =>
    cases h' with
    | text hus' => exact ⟨Option.some.inj (hus.symm.trans hus'), rfl⟩
  | number hl =>
    cases h' with
    | number hl' =>
      obtain rfl := Option.some.inj (hl.symm.trans hl')
      exact ⟨rfl, rfl⟩

theorem Shows.isTextOrNumber {shown : String} {expected : TimeFormat}
    (h : Shows value shown expected) : IsTextOrNumber value := by
  cases h with
  | text => exact Or.inl ⟨_, rfl⟩
  | number => exact Or.inr ⟨_, rfl⟩

theorem Tells.isTextOrNumber (h : Tells value i) : IsTextOrNumber value := by
  cases h with
  | text => exact Or.inl ⟨_, rfl⟩
  | number => exact Or.inr ⟨_, rfl⟩

/-- A text is read as RFC 3339. -/
theorem told_of_text {us : Units} {s : String} (h : c.Reports platform name (.string us))
    (hus : us.text? = some s) : Told c platform name (Rfc3339.parse s) := by
  cases hparse : Rfc3339.parse s with
  | ok i => exact .instant h (.text hus hparse)
  | error e =>
    obtain rfl := Rfc3339.format_of_parse hparse
    refine .misformed h (.text hus) fun i htells => ?_
    cases htells with
    | text hus' hparse' =>
      obtain rfl := Option.some.inj (hus.symm.trans hus')
      rw [hparse'] at hparse
      cases hparse

/-- A number is read as epoch seconds. -/
theorem told_of_number {l : Json.Literal} {n : Json.Number}
    (h : c.Reports platform name (.number l)) (hl : Json.Number.ofLiteral? l = some n) :
    Told c platform name (Epoch.parse n) := by
  cases hparse : Epoch.parse n with
  | ok i => exact .instant h (.number hl (Epoch.parse_eq_ok_iff.1 hparse))
  | error e =>
    obtain rfl := Epoch.format_of_parse hparse
    refine .misformed h (.number hl) fun i htells => ?_
    cases htells with
    | number hl' htells' =>
      obtain rfl := Option.some.inj (hl.symm.trans hl')
      rw [Epoch.parse_eq_ok_iff.2 htells'] at hparse
      cases hparse

/-- A document that can be read is read for what its last entry tells. -/
theorem told_of_answers {t : Tree} (h : c.Answers platform name t) :
    Told c platform name (modificationTime (Utf8.decodeLossy platform.describe.stdout)) := by
  have huntold : (∀ value, t.HoldsLast "LastModifiedTime" value → ¬ IsTextOrNumber value) →
      ∀ fault, Told c platform name (.error (.transport Operation.describe.endpoint fault)) := by
    intro hnone fault
    refine .untold fault ?_
    rintro value ⟨t', ht', hlast⟩
    obtain rfl := h.unique ht'
    exact hnone value hlast
  simp only [modificationTime, Tree.parse?_of_spells h.prints, h.readable, if_true]
  cases hlookup : t.lookup? "LastModifiedTime" with
  | none =>
    refine huntold (fun value hlast => ?_) _
    rw [Tree.lookup?_eq_some_iff.2 hlast] at hlookup
    cases hlookup
  | some value =>
    have hlast : t.HoldsLast "LastModifiedTime" value := Tree.lookup?_eq_some_iff.1 hlookup
    have hreports : c.Reports platform name value := ⟨t, h, hlast⟩
    have hmeaningful : value.isMeaningful = true := hlast.isMeaningful h.readable
    cases value with
    | string us =>
      obtain ⟨cs, hcs⟩ := Option.isSome_iff_exists.1 hmeaningful
      have hus : us.text? = some (String.ofList cs) := congrArg (Option.map String.ofList) hcs
      simp only [hus]
      exact told_of_text hreports hus
    | number l =>
      obtain ⟨n, hl⟩ := Option.isSome_iff_exists.1 hmeaningful
      simp only [hl]
      exact told_of_number hreports hl
    | null | bool _ | array _ | object _ =>
      refine huntold (fun value hlast' => ?_) _
      obtain rfl := hreports.unique ⟨t, h, hlast'⟩
      rintro (⟨us, hus⟩ | ⟨l, hl⟩) <;> contradiction

/-- **One of three things comes of a command.** -/
theorem describe_told (c : ControlPlane) (platform : Platform) (name : String) (file : File) :
    Told c platform name ((c.describe platform name).run file).result := by
  by_cases hanswers : ∃ t, c.Answers platform name t
  · obtain ⟨t, ht⟩ := hanswers
    rw [describe_result_of_answers ht]
    exact told_of_answers ht
  · obtain ⟨fault, hfault⟩ := describe_result_of_not_answers (not_exists.1 hanswers) file
    rw [hfault]
    refine .untold fault ?_
    rintro value ⟨t, ht, -⟩
    exact absurd ⟨t, ht⟩ hanswers

namespace Told

variable {r : Except CheckError Instant} {shown : String} {expected : TimeFormat}

theorem ok_iff (h : Told c platform name r) :
    r = .ok i ↔ ∃ value, c.Reports platform name value ∧ Tells value i := by
  constructor
  · rintro rfl
    cases h with
    | instant hvalue htells => exact ⟨_, hvalue, htells⟩
  · rintro ⟨value, hvalue, htells⟩
    cases h with
    | instant hvalue' htells' =>
      obtain rfl := hvalue.unique hvalue'
      rw [htells.unique htells']
    | misformed hvalue' _ hnone =>
      obtain rfl := hvalue.unique hvalue'
      exact absurd htells (hnone i)
    | untold fault hnone => exact absurd htells.isTextOrNumber (hnone value hvalue)

theorem format_iff (h : Told c platform name r) :
    r = .error (.format shown expected) ↔
      ∃ value, c.Reports platform name value ∧ Shows value shown expected ∧
        ∀ i, ¬ Tells value i := by
  constructor
  · rintro rfl
    cases h with
    | misformed hvalue hshown hnone => exact ⟨_, hvalue, hshown, hnone⟩
  · rintro ⟨value, hvalue, hshown, hnone⟩
    cases h with
    | instant hvalue' htells =>
      obtain rfl := hvalue.unique hvalue'
      exact absurd htells (hnone _)
    | misformed hvalue' hshown' _ =>
      obtain rfl := hvalue.unique hvalue'
      obtain ⟨rfl, rfl⟩ := hshown.unique hshown'
      rfl
    | untold fault hnone' => exact absurd hshown.isTextOrNumber (hnone' value hvalue)

theorem transport_iff (h : Told c platform name r) :
    (∃ fault, r = .error (.transport Operation.describe.endpoint fault)) ↔
      ∀ value, c.Reports platform name value → ¬ IsTextOrNumber value := by
  constructor
  · rintro ⟨fault, rfl⟩
    cases h with
    | untold _ hnone => exact hnone
  · intro hnone
    cases h with
    | instant hvalue htells => exact absurd htells.isTextOrNumber (hnone _ hvalue)
    | misformed hvalue hshown _ => exact absurd hshown.isTextOrNumber (hnone _ hvalue)
    | untold fault _ => exact ⟨fault, rfl⟩

/-- There are no other errors. -/
theorem error_cases {e : CheckError} (h : Told c platform name (.error e)) :
    (∃ shown expected, e = .format shown expected) ∨
      ∃ fault, e = .transport Operation.describe.endpoint fault := by
  cases h with
  | misformed => exact Or.inl ⟨_, _, rfl⟩
  | untold fault => exact Or.inr ⟨fault, rfl⟩

end Told

/-! ## Nothing else has a say -/

/-- What is written to standard error is not read. -/
theorem describe_result_of_stderr (stderr : List UInt8) (file : File) :
    ((c.describe { platform with describe := { platform.describe with stderr } } name).run
        file).result = ((c.describe platform name).run file).result := by
  rw [describe_result_eq, describe_result_eq, invoke_result_eq, invoke_result_eq]
  rfl

/-- Of documents that can be read, only the last entry is. -/
theorem describe_result_of_last {c' : ControlPlane} {platform' : Platform} {name' : String}
    {t t' : Tree} (h : c.Answers platform name t) (h' : c'.Answers platform' name' t')
    (hlast : ∀ value, t.HoldsLast "LastModifiedTime" value ↔
      t'.HoldsLast "LastModifiedTime" value) (file file' : File) :
    ((c.describe platform name).run file).result =
      ((c'.describe platform' name').run file').result := by
  have hlookup : t.lookup? "LastModifiedTime" = t'.lookup? "LastModifiedTime" :=
    Option.ext fun value => by
      rw [Tree.lookup?_eq_some_iff, Tree.lookup?_eq_some_iff, hlast value]
  rw [describe_result_of_answers h, describe_result_of_answers h']
  simp only [modificationTime, Tree.parse?_of_spells h.prints, Tree.parse?_of_spells h'.prints,
    h.readable, h'.readable, hlookup]

/-- **An instant is told, a time is in no known format, or nothing was told.** Asking
for a description succeeds exactly if the command starts, succeeds and answers with an
object whose last entry for the time of last modification tells that instant; it fails
for the format exactly if that entry is any other text or number; and it fails for the
command exactly if there is no such text or number. No entry but the last has a say,
nor does what is written to standard error. -/
theorem describe_told_misformed_or_untold (c : ControlPlane) (platform : Platform) (name : String)
    (file : File) :
    (∀ i, ((c.describe platform name).run file).result = .ok i ↔
      ∃ value, c.Reports platform name value ∧ Tells value i) ∧
    (∀ shown expected,
      ((c.describe platform name).run file).result = .error (.format shown expected) ↔
        ∃ value, c.Reports platform name value ∧ Shows value shown expected ∧
          ∀ i, ¬ Tells value i) ∧
    ((∃ fault, ((c.describe platform name).run file).result =
        .error (.transport "sagemaker describe-notebook-instance" fault)) ↔
      ∀ value, c.Reports platform name value → ¬ IsTextOrNumber value) ∧
    (∀ e, ((c.describe platform name).run file).result = .error e →
      (∃ shown expected, e = .format shown expected) ∨
        ∃ fault, e = .transport "sagemaker describe-notebook-instance" fault) ∧
    (∀ stderr,
      ((c.describe { platform with describe := { platform.describe with stderr } } name).run
        file).result = ((c.describe platform name).run file).result) ∧
    ∀ (c' : ControlPlane) (platform' : Platform) (name' : String) (t t' : Tree),
      c.Answers platform name t → c'.Answers platform' name' t' →
      (∀ value, t.HoldsLast "LastModifiedTime" value ↔ t'.HoldsLast "LastModifiedTime" value) →
      ∀ file', ((c.describe platform name).run file).result =
        ((c'.describe platform' name').run file').result := by
  have htold : Told c platform name ((c.describe platform name).run file).result :=
    describe_told c platform name file
  refine ⟨fun i => htold.ok_iff, fun shown expected => htold.format_iff, htold.transport_iff,
    fun e he => ?_, fun stderr => describe_result_of_stderr stderr file,
    fun c' platform' name' t t' ht ht' hlast file' => ?_⟩
  · rw [he] at htold
    exact htold.error_cases
  · exact describe_result_of_last ht ht' hlast file file'

/-- Of three entries for the time of last modification, one of them nested, the last
at the top is no time. -/
theorem describe_told_misformed_or_untold_repeated :
    let text := "\x7b\"LastModifiedTime\":\"2024-01-01T00:00:00Z\"," ++
      "\"LastModifiedTime\":\"yesterday\",\"Tags\":[\x7b\"LastModifiedTime\":0\x7d]\x7d\n"
    let c : ControlPlane := ⟨"aws", .runnable, none, none⟩
    let platform : Platform := ⟨fun _ => .missing, .runnable,
      ⟨text.toUTF8.data.toList, [0xff], some 0, false⟩, ⟨[], [], none, false⟩⟩
    ∀ file, ((c.describe platform "n").run file).result =
      .error (.format "yesterday" .rfc3339) := by
  intro text c platform file
  let t : Tree := .object [(Units.ofString "LastModifiedTime",
      .string (Units.ofString "2024-01-01T00:00:00Z")),
    (Units.ofString "LastModifiedTime", .string (Units.ofString "yesterday")),
    (Units.ofString "Tags", .array [.object [(Units.ofString "LastModifiedTime",
      .number ⟨false, [0], [], none⟩)]])]
  have hstarts : c.startFault? (c.arguments .describe "n") = none := by decide
  have hscan : Json.Token.scan? text.toList = some t.tokens := by decide +kernel
  have hprints : t.Spells (Utf8.decodeLossy platform.describe.stdout) := by
    rw [Utf8.decodeLossy_toUTF8]
    exact Json.Token.spaced_of_scan? hscan
  have hanswers : c.Answers platform "n" t := ⟨hstarts, rfl, hprints, by decide⟩
  have hlast : t.HoldsLast "LastModifiedTime" (.string (Units.ofString "yesterday")) :=
    ⟨[_], _, [_], rfl, by decide, by decide⟩
  have hshown : Shows (.string (Units.ofString "yesterday")) "yesterday" .rfc3339 :=
    .text (by decide)
  have hnone : ∀ i, ¬ Tells (.string (Units.ofString "yesterday")) i := by
    intro i htells
    cases htells with
    | text hus h =>
      obtain rfl := Option.some.inj ((by decide : _ = some "yesterday").symm.trans hus)
      cases h
  obtain ⟨-, hformat, -⟩ := describe_told_misformed_or_untold c platform "n" file
  exact (hformat _ _).2 ⟨_, ⟨t, hanswers, hlast⟩, hshown, hnone⟩

end ControlPlane

end IdleStop
