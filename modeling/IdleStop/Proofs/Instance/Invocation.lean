import IdleStop.Proofs.Check.Metadata
/-!
# What a command line asks for

A command line has six words that are always there, and behind them two flags that may
be missing. It is read back by position: the word behind a flag is its value whatever it
looks like, and a flag is looked for only where it may stand. So a value cannot be taken
for a flag, not even `--profile` as the name of a region, and reading and writing are
inverse to each other (`Invocation.read?_eq_some_iff`).
-/

namespace IdleStop

/-- What a command line asks for: an operation, by its name there, on an instance, in a
region and with a profile if these are told. -/
structure Invocation where
  operation : String
  instanceName : String
  region : Option String
  profile : Option String
  deriving DecidableEq

namespace Invocation

variable {flag : String} {value : Option String} {rest args : List String}
variable {v v' : Invocation} {i : Nat}

/-! ## Flags -/

/-- A flag and its value, if there is one. -/
def flagged (flag : String) : Option String → List String
  | none => []
  | some value => [flag, value]

/-- The value of a flag, if words begin with that flag, and the words behind it. -/
def takeFlag (flag : String) : List String → Option String × List String
  | word :: value :: rest =>
    if word = flag then (some value, rest) else (none, word :: value :: rest)
  | args => (none, args)

/-- A flag that is missing is not found where another word comes first. -/
theorem takeFlag_of_head?_ne (h : args.head? ≠ some flag) :
    takeFlag flag args = (none, args) := by
  unfold takeFlag
  split
  · next word _ _ =>
    have hword : word ≠ flag := fun heq => h (congrArg some heq)
    exact if_neg hword
  · rfl

/-- A flag is found with its value, unless it is missing and the next word looks like
it. -/
theorem takeFlag_flagged (h : rest.head? ≠ some flag) :
    takeFlag flag (flagged flag value ++ rest) = (value, rest) := by
  cases value with
  | none => exact takeFlag_of_head?_ne h
  | some value => exact if_pos rfl

/-- Whatever is found, no word is lost. -/
theorem flagged_takeFlag (flag : String) (args : List String) :
    flagged flag (takeFlag flag args).1 ++ (takeFlag flag args).2 = args := by
  unfold takeFlag
  split
  · split
    · next hword =>
      rw [hword]
      rfl
    · rfl
  · rfl

/-! ## Command lines -/

/-- The command line that asks for something. -/
def words (v : Invocation) : List String :=
  "sagemaker" :: v.operation :: "--notebook-instance-name" :: v.instanceName :: "--output" ::
    "json" :: (flagged "--region" v.region ++ flagged "--profile" v.profile)

/-- What a command line asks for, if each word is at its place. -/
def read? : List String → Option Invocation
  | service :: operation :: nameFlag :: instanceName :: outputFlag :: output :: options =>
    let region := takeFlag "--region" options
    let profile := takeFlag "--profile" region.2
    if service = "sagemaker" ∧ nameFlag = "--notebook-instance-name" ∧ outputFlag = "--output" ∧
        output = "json" ∧ profile.2 = [] then
      some ⟨operation, instanceName, region.1, profile.1⟩
    else none
  | _ => none

/-- A command line is read as what it asks for. -/
theorem read?_words (v : Invocation) : read? v.words = some v := by
  have hprofile : takeFlag "--profile" (flagged "--profile" v.profile ++ []) = (v.profile, []) :=
    takeFlag_flagged (by simp)
  rw [List.append_nil] at hprofile
  -- where the region is missing, the flag of the profile is not taken for its flag
  have hhead : (flagged "--profile" v.profile).head? ≠ some "--region" := by
    cases v.profile with
    | none => simp [flagged]
    | some profile => simp [flagged]
  simp only [words, read?, takeFlag_flagged hhead, hprofile, and_self, if_true]

/-- Nothing but the command line of something is read as that. -/
theorem eq_words_of_read? (h : read? args = some v) : args = v.words := by
  unfold read? at h
  split at h
  · next service operation nameFlag instanceName outputFlag output options =>
    dsimp only at h
    split at h
    · next hplaces =>
      obtain ⟨rfl, rfl, rfl, rfl, hend⟩ := hplaces
      cases h
      have hregion := flagged_takeFlag "--region" options
      have hprofile := flagged_takeFlag "--profile" (takeFlag "--region" options).2
      rw [hend, List.append_nil] at hprofile
      simp only [Invocation.words, hprofile, hregion]
    · cases h
  · cases h

/-- **Command lines are read as what they are written for, and nothing else is.** -/
theorem read?_eq_some_iff : read? args = some v ↔ args = v.words :=
  ⟨eq_words_of_read?, fun h => h ▸ read?_words v⟩

theorem words_inj : v.words = v'.words ↔ v = v' := by
  constructor
  · intro h
    have hread := read?_words v
    rw [h, read?_words v', Option.some.injEq] at hread
    exact hread.symm
  · rintro rfl
    rfl

/-- In one region and with one profile, command lines differ at most in the second and
the fourth word. -/
theorem getElem?_words_eq_iff (hregion : v.region = v'.region) (hprofile : v.profile = v'.profile) :
    v.words[i]? = v'.words[i]? ↔
      (i = 1 → v.operation = v'.operation) ∧ (i = 3 → v.instanceName = v'.instanceName) := by
  rcases i with _ | _ | _ | _ | i <;> simp [words, hregion, hprofile]

end Invocation

/-! ## The commands of a control plane -/

theorem Operation.name_inj {op op' : Operation} : op.name = op'.name ↔ op = op' :=
  ⟨name_injective, congrArg name⟩

namespace ControlPlane

variable {c c' : ControlPlane} {op op' : Operation} {name name' : String}

/-- What a control plane asks for when it is to do something with an instance. -/
def invocation (c : ControlPlane) (op : Operation) (name : String) : Invocation :=
  ⟨op.name, name, c.region, c.profile⟩

theorem arguments_eq_words (c : ControlPlane) (op : Operation) (name : String) :
    c.arguments op name = (c.invocation op name).words := by
  obtain ⟨tool, program, region, profile⟩ := c
  cases region <;> cases profile <;> rfl

theorem invocation_inj :
    c.invocation op name = c'.invocation op' name' ↔
      op = op' ∧ name = name' ∧ c.region = c'.region ∧ c.profile = c'.profile := by
  rw [invocation, invocation, Invocation.mk.injEq, Operation.name_inj]

/-- The commands of one control plane differ at most in the operation and the name. -/
theorem getElem?_arguments_eq_iff {i : Nat} :
    (c.arguments op name)[i]? = (c.arguments op' name')[i]? ↔
      (i = 1 → op = op') ∧ (i = 3 → name = name') := by
  have hregion : (c.invocation op name).region = (c.invocation op' name').region := rfl
  rw [arguments_eq_words, arguments_eq_words, Invocation.getElem?_words_eq_iff hregion rfl,
    ← Operation.name_inj]
  rfl

/-- **A command line tells all that is asked for.** Two are the same just if they ask for
the same operation on the same instance, in the same region and with the same profile,
whatever texts these are, and each can be read back. The name is the fourth word, whole
and as it is, and no other word depends on it. The commands that describe and stop an
instance are such command lines, which differ in the second word and nowhere else. -/
theorem arguments_unambiguous (c c' : ControlPlane) (op op' : Operation) (name name' : String)
    (platform : Platform) (file : File) :
    (c.arguments op name = c'.arguments op' name' ↔
      op = op' ∧ name = name' ∧ c.region = c'.region ∧ c.profile = c'.profile) ∧
    c.arguments op name = (c.invocation op name).words ∧
    (∀ v v' : Invocation, v.words = v'.words ↔ v = v') ∧
    (∀ args v, Invocation.read? args = some v ↔ args = v.words) ∧
    (c.arguments op name)[3]? = some name ∧
    (∀ i, (c.arguments op name)[i]? = (c.arguments op name')[i]? ↔ (i = 3 → name = name')) ∧
    ((c.describe platform name).run file).events.attempts =
      [.command (c.arguments .describe name)] ∧
    ((c.stop platform name).run file).events.attempts = [.command (c.arguments .stop name)] ∧
    ∀ i, (c.arguments .describe name)[i]? = (c.arguments .stop name)[i]? ↔ i ≠ 1 := by
  refine ⟨?_, arguments_eq_words c op name, fun _ _ => Invocation.words_inj,
    fun _ _ => Invocation.read?_eq_some_iff, rfl, fun i => ?_, describe_acts.attempts file,
    stop_acts.attempts file, fun i => ?_⟩
  · rw [arguments_eq_words, arguments_eq_words, Invocation.words_inj, invocation_inj]
  · simp [getElem?_arguments_eq_iff]
  · simp [getElem?_arguments_eq_iff]

-- a region that looks like a flag is not taken for one
example :
    arguments ⟨"aws", .runnable, some "--profile", none⟩ .stop "n" ≠
      arguments ⟨"aws", .runnable, none, some "--profile"⟩ .stop "n" := by
  decide

end ControlPlane

end IdleStop
