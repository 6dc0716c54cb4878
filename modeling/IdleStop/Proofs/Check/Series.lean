import IdleStop.Check.Series
import IdleStop.Proofs.Check.Metadata
/-!
# Checks in a row are single checks

Of what one check did the next sees nothing but the metadata file. Which file a
check begins with is told by the files put in place up to then and by the commands
that have run since the last of them (`FileBefore`); from there it comes to what a
single check would.
-/

namespace IdleStop

open IdleStop.Action

namespace Step

variable {steps : List Step} {os : List (Outcome Ending)} {i j j' : Nat} {s s' : Step}
variable {content content' : File} {o : Outcome Ending}

/-! ## One step after the other -/

theorem outcomes_zero (hs : steps[0]? = some s) (start : File) :
    (outcomes steps start)[0]? = some (s.outcome start) := by
  cases steps with
  | nil => cases hs
  | cons s' steps =>
    obtain rfl : s' = s := by simpa using hs
    rfl

/-- A step begins with the metadata file that the step before it left. -/
theorem outcomes_succ (hs : steps[i + 1]? = some s) {start : File}
    (ho : (outcomes steps start)[i]? = some o) :
    (outcomes steps start)[i + 1]? = some (s.outcome o.metadata) := by
  induction i generalizing steps start with
  | zero =>
    cases steps with
    | nil => cases hs
    | cons s' steps =>
      obtain rfl : s'.outcome start = o := by simpa [outcomes] using ho
      exact outcomes_zero hs _
  | succ i ih =>
    cases steps with
    | nil => cases hs
    | cons s' steps => exact ih hs ho

/-! ## The file a step begins with -/

/-- The metadata file last put in place up to step `i`, and the step before which
that was. At first there is none. -/
inductive LastPlaced (steps : List Step) (i : Nat) : Nat → File → Prop
  | start (h : ∀ k s, k ≤ i → steps[k]? = some s → s.placed = none) :
    LastPlaced steps i 0 .missing
  | placed {j : Nat} {s : Step} {content : File} (hj : j ≤ i) (hs : steps[j]? = some s)
      (hplaced : s.placed = some content)
      (hsince : ∀ k s, j < k → k ≤ i → steps[k]? = some s → s.placed = none) :
    LastPlaced steps i j content

/-- In a step from `j` on and before `i`, a command that ran deleted the metadata
file. -/
def DeletedBetween (steps : List Step) (os : List (Outcome Ending)) (j i : Nat) : Prop :=
  ∃ k s o, j ≤ k ∧ k < i ∧ steps[k]? = some s ∧ os[k]? = some o ∧
    o.events.Deletes s.world.platform

/-- The metadata file that step `i` begins with, where the steps come to `os`: the
last that was put in place, unless a command has deleted it since. -/
inductive FileBefore (steps : List Step) (os : List (Outcome Ending)) (i : Nat) : File → Prop
  | kept {j : Nat} {content : File} (hlast : LastPlaced steps i j content)
      (h : ¬ DeletedBetween steps os j i) : FileBefore steps os i content
  | deleted {j : Nat} {content : File} (hlast : LastPlaced steps i j content)
      (h : DeletedBetween steps os j i) : FileBefore steps os i .missing

namespace LastPlaced

theorem le (h : LastPlaced steps i j content) : j ≤ i := by
  cases h with
  | start h => exact Nat.zero_le i
  | placed hj hs hplaced hsince => exact hj

/-- Where no file is put in place, the last one is the same as before. -/
theorem succ (h : LastPlaced steps i j content) (hs : steps[i + 1]? = some s)
    (hplaced : s.placed = none) : LastPlaced steps (i + 1) j content := by
  have hnone : ∀ k s', k = i + 1 → steps[k]? = some s' → s'.placed = none := by
    rintro k s' rfl hs'
    obtain rfl := Option.some.inj (hs.symm.trans hs')
    exact hplaced
  cases h with
  | start h =>
    refine .start fun k s' hk hs' => ?_
    rcases Nat.lt_or_eq_of_le hk with hlt | heq
    · exact h k s' (Nat.le_of_lt_succ hlt) hs'
    · exact hnone k s' heq hs'
  | placed hj hsj hplacedj hsince =>
    refine .placed (Nat.le_succ_of_le hj) hsj hplacedj fun k s' hjk hk hs' => ?_
    rcases Nat.lt_or_eq_of_le hk with hlt | heq
    · exact hsince k s' hjk (Nat.le_of_lt_succ hlt) hs'
    · exact hnone k s' heq hs'

/-- There is one last. -/
theorem unique (h : LastPlaced steps i j content) (h' : LastPlaced steps i j' content') :
    j = j' ∧ content = content' := by
  cases h with
  | start h =>
    cases h' with
    | start h' => exact ⟨rfl, rfl⟩
    | placed hj hs hplaced hsince => simp [h _ _ hj hs] at hplaced
  | placed hj hs hplaced hsince =>
    cases h' with
    | start h' => simp [h' _ _ hj hs] at hplaced
    | placed hj' hs' hplaced' hsince' =>
      rcases Nat.lt_trichotomy j j' with hlt | rfl | hlt
      · simp [hsince _ _ hlt hj' hs'] at hplaced'
      · obtain rfl := Option.some.inj (hs.symm.trans hs')
        exact ⟨rfl, Option.some.inj (hplaced.symm.trans hplaced')⟩
      · simp [hsince' _ _ hlt hj hs] at hplaced

end LastPlaced

theorem not_deletedBetween_self : ¬ DeletedBetween steps os i i := by
  rintro ⟨k, _, _, hle, hlt, -⟩
  omega

theorem deletedBetween_succ (hj : j ≤ i) (hs : steps[i]? = some s) (ho : os[i]? = some o) :
    DeletedBetween steps os j (i + 1) ↔
      DeletedBetween steps os j i ∨ o.events.Deletes s.world.platform := by
  constructor
  · rintro ⟨k, s', o', hjk, hk, hs', ho', hdel⟩
    rcases Nat.lt_or_eq_of_le (Nat.le_of_lt_succ hk) with hlt | rfl
    · exact Or.inl ⟨k, s', o', hjk, hlt, hs', ho', hdel⟩
    · obtain rfl := Option.some.inj (hs.symm.trans hs')
      obtain rfl := Option.some.inj (ho.symm.trans ho')
      exact Or.inr hdel
  · rintro (⟨k, s', o', hjk, hk, hs', ho', hdel⟩ | hdel)
    · exact ⟨k, s', o', hjk, Nat.lt_succ_of_lt hk, hs', ho', hdel⟩
    · exact ⟨i, s, o, hj, Nat.lt_succ_self i, hs, ho, hdel⟩

namespace FileBefore

variable {file : File}

/-- Before a step for which a file is put in place, it is that file. -/
theorem of_placed (hs : steps[i]? = some s) (hplaced : s.placed = some content) :
    FileBefore steps os i content := by
  refine .kept (.placed (Nat.le_refl i) hs hplaced fun k s' hik hki => ?_) not_deletedBetween_self
  omega

/-- Before any other step, it is what the step before it left. -/
theorem succ (h : FileBefore steps os i file) (hs : steps[i]? = some s) (ho : os[i]? = some o)
    (hs' : steps[i + 1]? = some s') (hplaced : s'.placed = none)
    (hdeleted : o.events.Deletes s.world.platform → o.metadata = .missing)
    (hkept : ¬ o.events.Deletes s.world.platform → o.metadata = file) :
    FileBefore steps os (i + 1) o.metadata := by
  by_cases hdel : o.events.Deletes s.world.platform
  · rw [hdeleted hdel]
    cases h with
    | kept hlast _ | deleted hlast _ =>
      exact .deleted (hlast.succ hs' hplaced) ((deletedBetween_succ hlast.le hs ho).2 (Or.inr hdel))
  · rw [hkept hdel]
    cases h with
    | kept hlast h =>
      refine .kept (hlast.succ hs' hplaced) ?_
      rw [deletedBetween_succ hlast.le hs ho, not_or]
      exact ⟨h, hdel⟩
    | deleted hlast h =>
      exact .deleted (hlast.succ hs' hplaced) ((deletedBetween_succ hlast.le hs ho).2 (Or.inl h))

end FileBefore

/-- A step comes to what a single check would from the metadata file it begins
with. -/
theorem exists_fileBefore (hs : steps[i]? = some s) :
    ∃ file, FileBefore steps (outcomes steps .missing) i file ∧
      (outcomes steps .missing)[i]? = some ((s.plan.perform s.world s.now).run file) := by
  induction i generalizing s with
  | zero =>
    refine ⟨s.placed.getD .missing, ?_, outcomes_zero hs .missing⟩
    cases hplaced : s.placed with
    | some content => exact .of_placed hs hplaced
    | none =>
      refine .kept (.start fun k s' hk hs' => ?_) not_deletedBetween_self
      obtain rfl := Nat.le_zero.1 hk
      obtain rfl := Option.some.inj (hs.symm.trans hs')
      exact hplaced
  | succ i ih =>
    obtain ⟨hi, -⟩ := List.getElem?_eq_some_iff.1 hs
    have hs₀ := List.getElem?_eq_getElem (Nat.lt_of_succ_lt hi)
    obtain ⟨file, hfile, ho⟩ := ih hs₀
    refine ⟨_, ?_, outcomes_succ hs ho⟩
    cases hplaced : s.placed with
    | some content => exact .of_placed hs hplaced
    | none =>
      obtain ⟨hdeleted, hkept⟩ := Plan.perform_onlyDeletes file
      exact hfile.succ hs₀ ho hs hplaced hdeleted hkept

/-- **Checks in a row are single checks.** A check leaves the metadata file as it
was, unless a command that runs deletes it, and so it does if it tries no command.
Each of several checks in a row, beginning without a metadata file, comes to what a
single check would with the file that was put in place last, or with none if none
was or a command that ran since has deleted it. -/
theorem outcomes_single (steps : List Step) :
    (∀ (plan : Plan) (w : World) (now : Instant) (file : File),
      let o := (plan.perform w now).run file
      (o.events.Deletes w.platform → o.metadata = .missing) ∧
        (¬ o.events.Deletes w.platform → o.metadata = file) ∧
        ((∀ args, .command args ∉ o.events.attempts) → o.metadata = file)) ∧
    let os := outcomes steps .missing
    ∀ i s, steps[i]? = some s →
      let single := (s.plan.perform s.world s.now).run
      ∃ j content, LastPlaced steps i j content ∧
        (∀ j' content', LastPlaced steps i j' content' → j' = j ∧ content' = content) ∧
        (DeletedBetween steps os j i → os[i]? = some (single .missing)) ∧
        (¬ DeletedBetween steps os j i → os[i]? = some (single content)) := by
  refine ⟨fun plan w now file => ?_, fun i s hs => ?_⟩
  · obtain ⟨hdeleted, hkept⟩ := Plan.perform_onlyDeletes file
    exact ⟨hdeleted, hkept, fun h => hkept (Trace.not_deletes_of_no_command h)⟩
  · obtain ⟨file, hfile, ho⟩ := exists_fileBefore hs
    cases hfile with
    | kept hlast h =>
      exact ⟨_, _, hlast, fun _ _ h' => h'.unique hlast, fun h' => absurd h' h, fun _ => ho⟩
    | deleted hlast h =>
      exact ⟨_, _, hlast, fun _ _ h' => h'.unique hlast, fun _ => ho, fun h' => absurd h h'⟩

end Step

end IdleStop
