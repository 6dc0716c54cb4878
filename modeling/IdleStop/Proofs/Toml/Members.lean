import IdleStop.Toml.Document
import Mathlib.Data.Option.Basic
/-!
# What a statement does to a document

A statement changes one key of the document, the first part of a path, and looks at no
other (`Document.add_spec`). It may put a value under a key that has none, or it may add
to what stands there; but it does not change a value without parts, and nothing that has
parts becomes a value without. So the statements about some keys do the same with or
without the others (`Document.kept_run`), and what a key holds at the end tells what was
put there first (`Document.becomes_of_run`).
-/

namespace IdleStop

namespace Toml

variable {key : String} {v w : Value} {ms ms' : Members} {path : Path}
variable {f g : Option Value → Option Value}

/-- A value without parts. -/
def Value.IsScalar (v : Value) : Prop :=
  ∃ s, v = .scalar s

/-- The first part of a key. -/
def Path.first (path : Path) : String :=
  path.parents.headD path.name

namespace Members

/-! ## Changes of one key -/

/-- Puts a value where there is none. -/
def fresh (v : Value) : Option Value → Option Value
  | none => some v
  | some _ => none

/-- A change that puts something with parts where there is nothing, or adds to something
with parts. -/
def Opens (f : Option Value → Option Value) : Prop :=
  ∀ o w, f o = some w → ¬ w.IsScalar ∧ ∀ v, o = some v → ¬ v.IsScalar

theorem not_isScalar_table (origin : Origin) (ms : Members) : ¬ (Value.table origin ms).IsScalar :=
  nofun

theorem not_isScalar_tables (earlier : List Members) (last : Members) :
    ¬ (Value.tables earlier last).IsScalar :=
  nofun

theorem not_isScalar_of_table {origin : Origin} {o : Option Members}
    (h : o.map (Value.table origin) = some w) : ¬ w.IsScalar := by
  obtain ⟨ms, -, rfl⟩ := Option.map_eq_some_iff.1 h
  exact not_isScalar_table origin ms

theorem not_isScalar_of_tables {earlier : List Members} {o : Option Members}
    (h : o.map (Value.tables earlier) = some w) : ¬ w.IsScalar := by
  obtain ⟨ms, -, rfl⟩ := Option.map_eq_some_iff.1 h
  exact not_isScalar_tables earlier ms

/-- A table can be added to. -/
theorem isOpen_table {origin : Origin} :
    ∀ v, some (Value.table origin ms) = some v → ¬ v.IsScalar := by
  rintro v ⟨⟩
  exact not_isScalar_table origin ms

/-- And so can repeated tables. -/
theorem isOpen_tables {earlier : List Members} :
    ∀ v, some (Value.tables earlier ms) = some v → ¬ v.IsScalar := by
  rintro v ⟨⟩
  exact not_isScalar_tables earlier ms

theorem opens_opened : Opens opened := by
  intro o w h
  unfold opened at h
  split at h
  · cases h
    exact ⟨not_isScalar_table _ _, nofun⟩
  · cases h
    exact ⟨not_isScalar_table _ _, isOpen_table⟩
  · cases h

theorem opens_repeated : Opens repeated := by
  intro o w h
  unfold repeated at h
  split at h
  · cases h
    exact ⟨not_isScalar_tables _ _, nofun⟩
  · cases h
    exact ⟨not_isScalar_tables _ _, isOpen_tables⟩
  · cases h

theorem opens_extended (path : Path) (v : Value) : Opens (extended path v) := by
  intro o w h
  unfold extended at h
  split at h
  · exact ⟨not_isScalar_of_table h, isOpen_table⟩
  · exact ⟨not_isScalar_of_tables h, isOpen_tables⟩
  · cases h

/-- **A path of headers is a change of its first part.** -/
theorem define_eq (path : Path) (hg : Opens g) :
    ∃ f, Opens f ∧ ∀ ms : Members, ms.define path.name g path.parents = ms.alter? path.first f := by
  obtain ⟨parents, name⟩ := path
  cases parents with
  | nil => exact ⟨g, hg, fun ms => by rw [define]; rfl⟩
  | cons key keys =>
    refine ⟨_, ?_, fun ms => by rw [define]; rfl⟩
    intro o w h
    dsimp only at h
    split at h
    · exact ⟨not_isScalar_of_table h, nofun⟩
    · cases h
    · exact ⟨not_isScalar_of_table h, isOpen_table⟩
    · exact ⟨not_isScalar_of_tables h, isOpen_tables⟩
    · cases h

/-- **So is an assignment**, and a key of one part only has a value put where it has
none. -/
theorem assign_eq (path : Path) (v : Value) :
    ∃ f, (path.parents = [] ∧ f = fresh v ∨ path.parents ≠ [] ∧ Opens f) ∧
      ∀ ms : Members, ms.assign path.name v path.parents = ms.alter? path.first f := by
  obtain ⟨parents, name⟩ := path
  cases parents with
  | nil =>
    refine ⟨fresh v, Or.inl ⟨rfl, rfl⟩, fun ms => ?_⟩
    rw [assign]
    rfl
  | cons key keys =>
    refine ⟨_, Or.inr ⟨nofun, ?_⟩, fun ms => by rw [assign]; rfl⟩
    intro o w h
    dsimp only at h
    split at h
    · exact ⟨not_isScalar_of_table h, nofun⟩
    · exact ⟨not_isScalar_of_table h, isOpen_table⟩
    · exact ⟨not_isScalar_of_table h, isOpen_table⟩
    · split at h
      · cases h
      · exact ⟨not_isScalar_of_tables h, isOpen_tables⟩
    · cases h

/-- A value can be put where there is none. -/
theorem exists_alter?_fresh (h : ms.lookup? key = none) (v : Value) :
    ∃ ms', ms.alter? key (fresh v) = some ms' := by
  induction ms with
  | nil => exact ⟨[(key, v)], rfl⟩
  | cons m ms ih =>
    obtain ⟨k, w⟩ := m
    by_cases hk : k = key
    · simp [lookup?, hk] at h
    · obtain ⟨ms', hms'⟩ := ih (by simpa [lookup?, hk] using h)
      exact ⟨(k, w) :: ms', by rw [alter?, if_neg hk, hms', Option.map_some]⟩

/-- And nowhere else. -/
theorem alter?_fresh_eq_none (h : ms.lookup? key = some w) (v : Value) :
    ms.alter? key (fresh v) = none := by
  cases halter : ms.alter? key (fresh v) with
  | none => rfl
  | some ms' =>
    obtain ⟨u, hu, -⟩ := lookup?_of_alter? halter
    rw [h] at hu
    cases hu

/-- A change of a key that is kept does not look at members that are not. -/
theorem alter?_filter {keep : String → Bool} (hkey : keep key = true) (ms : Members) :
    (ms.alter? key f).map (·.filter fun m => keep m.1) =
      alter? key f (ms.filter fun m => keep m.1) := by
  induction ms with
  | nil => cases hf : f none <;> simp [alter?, hf, hkey]
  | cons m ms ih =>
    obtain ⟨k, v⟩ := m
    by_cases hk : k = key
    · subst hk
      cases hf : f (some v) <;> simp [alter?, hf, hkey]
    · cases hkeep : keep k with
      | true => simp [alter?, hk, hkeep, ← ih, Function.comp_def]
      | false => simp [alter?, hk, hkeep, ← ih, Function.comp_def]

/-- A change of a key that is not kept leaves the members that are. -/
theorem filter_of_alter? {keep : String → Bool} (hkey : keep key = false)
    (h : ms.alter? key f = some ms') :
    (ms'.filter fun m => keep m.1) = ms.filter fun m => keep m.1 := by
  induction ms generalizing ms' with
  | nil =>
    obtain ⟨v, -, rfl⟩ := Option.map_eq_some_iff.1 h
    simp [hkey]
  | cons m ms ih =>
    obtain ⟨k, v⟩ := m
    unfold alter? at h
    split at h
    · next hk =>
      obtain ⟨w, -, rfl⟩ := Option.map_eq_some_iff.1 h
      simp [hk, hkey]
    · obtain ⟨rest, hrest, rfl⟩ := Option.map_eq_some_iff.1 h
      rw [List.filter_cons, List.filter_cons, ih hrest]

end Members

/-! ## Statements -/

namespace Statement

/-- Whether a statement is an assignment. -/
def isAssignment : Statement → Bool
  | assignment _ _ => true
  | _ => false

/-- The key of the document that a statement is about: the first part of its path, or of
the path of the header above it. -/
def about (current : Option Path) : Statement → String
  | header path | repeatedHeader path => path.first
  | assignment path _ => (current.getD path).first

/-- The table that assignments behind a statement are part of. -/
def leaves (current : Option Path) : Statement → Option Path
  | header path | repeatedHeader path => some path
  | assignment _ _ => current

/-- Every statement is about a key with a property. -/
def AllAbout (p : String → Prop) : Option Path → List Statement → Prop
  | _, [] => True
  | current, statement :: statements =>
    p (statement.about current) ∧ AllAbout p (statement.leaves current) statements

end Statement

variable {d d' : Document} {statement : Statement} {statements : List Statement}

/-- **A statement is a change of the key it is about.** Only an assignment above all
headers to a key of one part puts a value there as it is, and only where there is none;
any other statement puts or adds to something with parts. -/
theorem Document.add_spec (d : Document) (statement : Statement) :
    ∃ f, (∀ ms, add ⟨ms, d.current⟩ statement =
        (ms.alter? (statement.about d.current) f).map (⟨·, statement.leaves d.current⟩)) ∧
      (Members.Opens f ∨ ∃ name v, d.current = none ∧ statement = .assignment ⟨[], name⟩ v ∧
        f = Members.fresh v) := by
  cases statement with
  | header path =>
    obtain ⟨f, hf, heq⟩ := Members.define_eq path Members.opens_opened
    exact ⟨f, fun ms => by rw [add, heq]; rfl, Or.inl hf⟩
  | repeatedHeader path =>
    obtain ⟨f, hf, heq⟩ := Members.define_eq path Members.opens_repeated
    exact ⟨f, fun ms => by rw [add, heq]; rfl, Or.inl hf⟩
  | assignment path v =>
    cases hcurrent : d.current with
    | some table =>
      obtain ⟨f, hf, heq⟩ := Members.define_eq table (Members.opens_extended path v)
      exact ⟨f, fun ms => by rw [add]; simp only [heq]; rfl, Or.inl hf⟩
    | none =>
      obtain ⟨f, hf, heq⟩ := Members.assign_eq path v
      refine ⟨f, fun ms => by rw [add]; simp only [heq]; rfl, ?_⟩
      rcases hf with ⟨hparents, rfl⟩ | ⟨-, hf⟩
      · obtain ⟨parents, name⟩ := path
        obtain rfl : parents = [] := hparents
        exact Or.inr ⟨name, v, rfl, rfl, rfl⟩
      · exact Or.inl hf

namespace Document

/-- What comes of a statement is a change of its key. -/
theorem change_of_add (h : d.add statement = some d') :
    ∃ f, d.members.alter? (statement.about d.current) f = some d'.members ∧
      (Members.Opens f ∨ ∃ name v, d.current = none ∧ statement = .assignment ⟨[], name⟩ v ∧
        f = Members.fresh v) := by
  obtain ⟨f, hadd, hf⟩ := add_spec d statement
  obtain ⟨ms, hms, rfl⟩ := Option.map_eq_some_iff.1 ((hadd d.members).symm.trans h)
  exact ⟨f, hms, hf⟩

/-- Only headers open a table. -/
theorem current_of_add (h : d.add statement = some d') :
    d'.current = statement.leaves d.current := by
  obtain ⟨f, hadd, -⟩ := add_spec d statement
  obtain ⟨ms, -, rfl⟩ := Option.map_eq_some_iff.1 ((hadd d.members).symm.trans h)
  rfl

/-- What other keys hold stays. -/
theorem lookup?_of_add (h : d.add statement = some d') (hkey : key ≠ statement.about d.current) :
    d'.members.lookup? key = d.members.lookup? key := by
  obtain ⟨f, halter, -⟩ := change_of_add h
  exact Members.lookup?_of_alter?_of_ne halter hkey

/-- **What a statement leaves under its key** has parts, or is what an assignment puts
there. -/
theorem holds_of_add (h : d.add statement = some d') :
    ∃ w, d'.members.lookup? (statement.about d.current) = some w ∧
      (¬ w.IsScalar ∨ ∃ name, statement = .assignment ⟨[], name⟩ w ∧ d.current = none) := by
  obtain ⟨f, halter, hf⟩ := change_of_add h
  obtain ⟨w, hw, hlookup⟩ := Members.lookup?_of_alter? halter
  refine ⟨w, hlookup, ?_⟩
  rcases hf with hf | ⟨name, v, hcurrent, rfl, rfl⟩
  · exact Or.inl (hf _ _ hw).1
  · have hput : v = w := by
      unfold Members.fresh at hw
      split at hw
      · exact Option.some.inj hw
      · cases hw
    exact Or.inr ⟨name, hput ▸ rfl, hcurrent⟩

/-- An assignment above all headers to a key of one part succeeds where the key has no
value, and puts its own there. -/
theorem add_fresh (hcurrent : d.current = none) :
    d.add (.assignment ⟨[], key⟩ v) =
      (d.members.alter? key (Members.fresh v)).map (⟨·, none⟩) := by
  rw [add, hcurrent]
  simp only [Members.assign]
  rfl

/-! ## Rows of statements -/

/-- **A value stays as it is, or has parts and goes on having some**, whatever is stated
after it. -/
theorem becomes_of_run (h : statements.foldlM add d = some d')
    (hv : d.members.lookup? key = some v) :
    ∃ w, d'.members.lookup? key = some w ∧ (v = w ∨ ¬ v.IsScalar ∧ ¬ w.IsScalar) := by
  induction statements generalizing d v with
  | nil =>
    cases h
    exact ⟨v, hv, Or.inl rfl⟩
  | cons statement statements ih =>
    rw [List.foldlM_cons] at h
    obtain ⟨d₁, hadd, hrest⟩ := Option.bind_eq_some_iff.1 h
    by_cases hkey : key = statement.about d.current
    · subst hkey
      obtain ⟨f, halter, hf⟩ := change_of_add hadd
      obtain ⟨u, hu, hlookup⟩ := Members.lookup?_of_alter? halter
      rw [hv] at hu
      rcases hf with hf | ⟨name, v', -, -, rfl⟩
      · obtain ⟨hu', hv'⟩ := hf _ _ hu
        obtain ⟨w, hw, hbecomes⟩ := ih hrest hlookup
        refine ⟨w, hw, Or.inr ⟨hv' v rfl, ?_⟩⟩
        rcases hbecomes with rfl | ⟨-, hw'⟩
        · exact hu'
        · exact hw'
      · cases hu
    · exact ih hrest ((lookup?_of_add hadd hkey).trans hv)

/-- Above all headers there are assignments only. -/
theorem current_of_run (h : statements.foldlM add d = some d')
    (hassignments : ∀ statement ∈ statements, statement.isAssignment = true) :
    d'.current = d.current := by
  induction statements generalizing d with
  | nil =>
    cases h
    rfl
  | cons statement statements ih =>
    rw [List.foldlM_cons] at h
    obtain ⟨d₁, hadd, hrest⟩ := Option.bind_eq_some_iff.1 h
    obtain ⟨hfirst, hassignments⟩ := List.forall_mem_cons.1 hassignments
    rw [ih hrest hassignments, current_of_add hadd]
    cases statement with
    | assignment path v => rfl
    | header path | repeatedHeader path => cases hfirst

/-- What a key holds stays, if nothing is stated about it. -/
theorem lookup?_of_run (h : statements.foldlM add d = some d')
    (hstatements : Statement.AllAbout (· ≠ key) d.current statements) :
    d'.members.lookup? key = d.members.lookup? key := by
  induction statements generalizing d with
  | nil =>
    cases h
    rfl
  | cons statement statements ih =>
    rw [List.foldlM_cons] at h
    obtain ⟨d₁, hadd, hrest⟩ := Option.bind_eq_some_iff.1 h
    obtain ⟨hkey, hstatements⟩ := hstatements
    rw [← current_of_add hadd] at hstatements
    exact (ih hrest hstatements).trans (lookup?_of_add hadd hkey.symm)

/-! ## Parts of a document -/

/-- A document less the keys that are not kept. -/
def kept (keep : String → Bool) (d : Document) : Document :=
  ⟨d.members.filter fun m => keep m.1, d.current⟩

/-- **A statement about a key that is kept** does the same without the others. -/
theorem add_kept {keep : String → Bool} (hkeep : keep (statement.about d.current) = true) :
    (d.kept keep).add statement = (d.add statement).map (kept keep) := by
  obtain ⟨f, hadd, -⟩ := add_spec d statement
  have hall : d.add statement = _ := hadd d.members
  have hkept : (d.kept keep).add statement = _ := hadd (d.members.filter fun m => keep m.1)
  rw [hkept, hall, ← Members.alter?_filter hkeep, Option.map_map, Option.map_map]
  rfl

/-- A statement about another key leaves those that are kept. -/
theorem kept_of_add {keep : String → Bool} (hkeep : keep (statement.about d.current) = false)
    (h : d.add statement = some d') :
    d'.kept keep = ⟨(d.kept keep).members, statement.leaves d.current⟩ := by
  obtain ⟨f, halter, -⟩ := change_of_add h
  rw [← current_of_add h]
  exact congrArg (Document.mk · d'.current) (Members.filter_of_alter? hkeep halter)

/-- **Statements about keys that are kept** do the same without the others. -/
theorem kept_run {keep : String → Bool}
    (h : Statement.AllAbout (keep · = true) d.current statements) :
    statements.foldlM add (d.kept keep) = (statements.foldlM add d).map (kept keep) := by
  induction statements generalizing d with
  | nil => rfl
  | cons statement statements ih =>
    obtain ⟨hkeep, hrest⟩ := h
    rw [List.foldlM_cons, List.foldlM_cons, add_kept hkeep]
    cases hadd : d.add statement with
    | none => rfl
    | some d₁ =>
      rw [← current_of_add hadd] at hrest
      exact ih hrest

end Document

end Toml

end IdleStop
