import IdleStop.Proofs.Settings.Keys
/-!
# Settings among other statements

A document that assigns settings may state anything else as well. What it states about
other keys has no part in what its settings are, and they have no part in whether that is
right (`Settings.Mixes.run`): as many assignments as there are settings, each to another
key, go through and set what they say. But a statement about one of the six keys that is
no setting (`Settings.ofMembers?_of_misuse`), or an assignment to a key that has a value
(`Document.run_of_assigned`), leaves nothing.
-/

namespace IdleStop

namespace Toml

variable {p q : String → Prop} {current : Option Path} {statement : Statement}
variable {statements before between after : List Statement} {d d' : Document} {key : String}
variable {v w : Value}

namespace Statement

theorem AllAbout.mono (h : AllAbout p current statements) (hpq : ∀ key, p key → q key) :
    AllAbout q current statements := by
  induction statements generalizing current with
  | nil => trivial
  | cons statement statements ih => exact ⟨hpq _ h.1, ih h.2⟩

/-- The key of a statement that stands above all headers, if it is an assignment. -/
def first : Statement → String
  | header path | repeatedHeader path | assignment path _ => path.first

theorem about_eq_first (h : statement.isAssignment = true → current = none) :
    statement.about current = statement.first := by
  cases statement with
  | header path | repeatedHeader path => rfl
  | assignment path v =>
    rw [h rfl]
    rfl

end Statement

namespace Document

/-- A row that goes through goes through each of its statements. -/
theorem exists_of_run (h : (before ++ statement :: after).foldlM add d = some d') :
    ∃ d₁ d₂, before.foldlM add d = some d₁ ∧ d₁.add statement = some d₂ ∧
      after.foldlM add d₂ = some d' := by
  rw [List.foldlM_append] at h
  obtain ⟨d₁, hbefore, h⟩ := Option.bind_eq_some_iff.1 h
  rw [List.foldlM_cons] at h
  obtain ⟨d₂, hadd, hafter⟩ := Option.bind_eq_some_iff.1 h
  exact ⟨d₁, d₂, hbefore, hadd, hafter⟩

/-- **A key is assigned once.** A second assignment above all headers leaves no document,
whatever stands between them. -/
theorem run_of_assigned (hcurrent : d.current = none)
    (hbefore : ∀ statement ∈ before, statement.isAssignment = true)
    (hbetween : ∀ statement ∈ between, statement.isAssignment = true) :
    (before ++ .assignment ⟨[], key⟩ v ::
      (between ++ .assignment ⟨[], key⟩ w :: after)).foldlM add d = none := by
  refine Option.eq_none_iff_forall_ne_some.2 fun d' hrun => ?_
  obtain ⟨d₁, d₂, hrun₁, hadd, hrest⟩ := exists_of_run hrun
  obtain ⟨d₃, d₄, hrun₃, hagain, -⟩ := exists_of_run hrest
  have hcurrent₁ : d₁.current = none := (current_of_run hrun₁ hbefore).trans hcurrent
  have hcurrent₂ : d₂.current = none := (current_of_add hadd).trans hcurrent₁
  have hcurrent₃ : d₃.current = none := (current_of_run hrun₃ hbetween).trans hcurrent₂
  have hkey : (Statement.assignment ⟨[], key⟩ v).about d₁.current = key := by
    rw [hcurrent₁]
    rfl
  obtain ⟨u, hu, -⟩ := holds_of_add hadd
  rw [hkey] at hu
  obtain ⟨u', hu', -⟩ := becomes_of_run hrun₃ hu
  rw [add_fresh hcurrent₃, Members.alter?_fresh_eq_none hu'] at hagain
  cases hagain

end Document

end Toml

open Toml (Document Statement)

/-- The assignment of a setting. -/
def Setting.statement (a : Setting) : Statement :=
  .assignment ⟨[], a.key⟩ (.scalar a.scalar)

namespace Settings

variable {a : Setting} {as : List Setting} {unknown all : List Statement} {d d' d'' : Document}
variable {statement : Statement} {statements : List Statement} {s : Settings}

/-- The keys that do not count. -/
def isUnknown (key : String) : Bool :=
  !Setting.keys.contains key

theorem isUnknown_iff {key : String} : isUnknown key = true ↔ key ∉ Setting.keys := by
  simp [isUnknown]

theorem isUnknown_key (a : Setting) : isUnknown a.key = false := by
  simp [isUnknown, a.key_mem_keys]

/-- The statements of a document that assigns settings among other assignments, and may
have tables behind them. -/
inductive Mixes : List Setting → List Statement → List Statement → Prop
  | rest {statements : List Statement}
      (h : Statement.AllAbout (isUnknown · = true) none statements) : Mixes [] statements statements
  | setting {as : List Setting} {unknown all : List Statement} (a : Setting)
      (h : Mixes as unknown all) : Mixes (a :: as) unknown (a.statement :: all)
  | other {as : List Setting} {statement : Statement} {unknown all : List Statement}
      (hassignment : statement.isAssignment = true) (hunknown : isUnknown statement.first = true)
      (h : Mixes as unknown all) : Mixes as (statement :: unknown) (statement :: all)

/-- Statements about unknown keys go through with the others as they do without, and leave
the settings. -/
theorem run_of_unknown (hs : ofMembers? d.members = some s)
    (h : Statement.AllAbout (isUnknown · = true) d.current statements)
    (hrun : (statements.foldlM Document.add (d.kept isUnknown)).isSome = true) :
    ∃ d', statements.foldlM Document.add d = some d' ∧ ofMembers? d'.members = some s := by
  rw [Document.kept_run h, Option.isSome_map] at hrun
  obtain ⟨d', hd'⟩ := Option.isSome_iff_exists.1 hrun
  refine ⟨d', hd', (ofMembers?_congr fun key hkey => ?_).trans hs⟩
  refine Document.lookup?_of_run hd' (h.mono fun other hother => ?_)
  rintro rfl
  exact isUnknown_iff.1 hother hkey

/-- **Settings among other statements.** If the statements about unknown keys go through on
their own, then all of them do, and the settings are those that are assigned. -/
theorem Mixes.run (h : Mixes as unknown all) (hdistinct : (as.map Setting.key).Nodup)
    (hcurrent : d.current = none) (hs : ofMembers? d.members = some s)
    (hfree : ∀ a ∈ as, d.members.lookup? a.key = none)
    (hunknown : (unknown.foldlM Document.add (d.kept isUnknown)).isSome = true) :
    ∃ d', all.foldlM Document.add d = some d' ∧
      ofMembers? d'.members = some (as.foldl Setting.set s) := by
  induction h generalizing d s with
  | rest h => exact run_of_unknown hs (hcurrent ▸ h) hunknown
  | @setting as unknown all a h ih =>
    obtain ⟨hfirst, hdistinct⟩ := List.nodup_cons.1 hdistinct
    obtain ⟨hnone, hfree⟩ := List.forall_mem_cons.1 hfree
    obtain ⟨ms, hput⟩ := Toml.Members.exists_alter?_fresh hnone (.scalar a.scalar)
    have hadd : d.add a.statement = some ⟨ms, none⟩ := by
      rw [Setting.statement, Document.add_fresh hcurrent, hput]
      rfl
    have hkept : Document.kept isUnknown ⟨ms, none⟩ = d.kept isUnknown := by
      have habout : isUnknown (a.statement.about d.current) = false := by
        rw [hcurrent]
        exact isUnknown_key a
      exact Document.kept_of_add habout hadd
    rw [List.foldlM_cons, hadd]
    refine ih hdistinct rfl (ofMembers?_of_put hs hnone hput) (fun a' ha' => ?_) ?_
    · have hne : a'.key ≠ a.key := by
        intro heq
        exact hfirst (heq ▸ List.mem_map_of_mem ha')
      exact (Toml.Members.lookup?_of_alter?_of_ne hput hne).trans (hfree a' ha')
    · rwa [hkept]
  | @other as statement unknown all hassignment hstatement h ih =>
    have habout : isUnknown (statement.about d.current) = true := by
      rwa [Statement.about_eq_first fun _ => hcurrent]
    rw [List.foldlM_cons, Document.add_kept habout] at hunknown
    cases hadd : d.add statement with
    | none =>
      rw [hadd] at hunknown
      cases hunknown
    | some d₁ =>
      rw [hadd] at hunknown
      have hkeys : ∀ key ∈ Setting.keys, d₁.members.lookup? key = d.members.lookup? key := by
        intro key hkey
        refine Document.lookup?_of_add hadd ?_
        rintro rfl
        exact isUnknown_iff.1 habout hkey
      have hcurrent₁ : d₁.current = none := by
        rw [Document.current_of_add hadd, hcurrent]
        cases statement <;> first | rfl | cases hassignment
      rw [List.foldlM_cons, hadd]
      refine ih hdistinct hcurrent₁ ((ofMembers?_congr hkeys).trans hs) (fun a ha => ?_) hunknown
      exact (hkeys a.key a.key_mem_keys).trans (hfree a ha)

/-- **A statement about one of the six keys that is no setting leaves no settings**,
whatever follows. -/
theorem ofMembers?_of_misuse (hadd : d.add statement = some d')
    (hrun : statements.foldlM Document.add d' = some d'')
    (hkey : statement.about d.current ∈ Setting.keys)
    (hmisuse : ∀ a : Setting, statement ≠ a.statement) :
    ofMembers? d''.members = none := by
  obtain ⟨v, hv, hput⟩ := Document.holds_of_add hadd
  obtain ⟨w, hw, hbecomes⟩ := Document.becomes_of_run hrun hv
  cases hs : ofMembers? d''.members with
  | none => rfl
  | some s =>
    obtain ⟨a, ha, rfl⟩ := fits_of_ofMembers? hs hkey hw
    have hscalar : (Toml.Value.scalar a.scalar).IsScalar := ⟨_, rfl⟩
    rcases hbecomes with rfl | ⟨-, hnot⟩
    · rcases hput with hnot | ⟨name, rfl, hcurrent⟩
      · exact absurd hscalar hnot
      · rw [hcurrent] at ha
        obtain rfl : a.key = name := ha
        exact absurd rfl (hmisuse a)
    · exact absurd hscalar hnot

end Settings

end IdleStop
