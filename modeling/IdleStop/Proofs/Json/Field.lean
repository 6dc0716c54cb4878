import IdleStop.Json.Record
/-!
# Where the fields of a record stand

Reading a record takes the value of a field as it stands: under the field's
name in an object, or at the field's place in an array. Nothing else of the
record gets into it, and no value the record holds for the field is passed
over.
-/

namespace IdleStop

namespace Json

namespace Tree

/-- A record holds a value for the field with a name and a place. -/
def Holds (t : Tree) (name : String) (place : Nat) (value : Tree) : Prop :=
  (∃ ms us, t = .object ms ∧ (us, value) ∈ ms ∧ us.text? = some name) ∨
    ∃ ts, t = .array ts ∧ ts[place]? = some value

variable {names : List String} {name : String} {t value : Tree} {i : Nat}

variable {slots slots' : List (Option Tree)}

/-- What it takes to assign a value where there are names and fields: it goes
to the first field, which has the name and no value yet, or to the rest. -/
theorem assign?_cons {n : String} {slot : Option Tree}
    (h : assign? (n :: names) name t (slot :: slots) = some slots') :
    (n = name ∧ slot = none ∧ slots' = some t :: slots) ∨
      (n ≠ name ∧ ∃ rest, assign? names name t slots = some rest ∧ slots' = slot :: rest) := by
  simp only [assign?] at h
  by_cases hn : n = name
  · rw [if_pos hn] at h
    cases slot with
    | some _ => cases h
    | none => exact Or.inl ⟨hn, rfl, (Option.some.inj h).symm⟩
  · rw [if_neg hn, Option.map_eq_map, Option.map_eq_some_iff] at h
    obtain ⟨rest, hrest, heq⟩ := h
    exact Or.inr ⟨hn, rest, hrest, heq.symm⟩

/-- Where there are no more names or fields, a value is passed over. -/
theorem assign?_of_nil (h : assign? names name t slots = some slots')
    (hnil : names = [] ∨ slots = []) : slots' = slots := by
  unfold assign? at h
  split at h
  · simp at hnil
  · exact (Option.some.inj h).symm

/-- What a field holds after a value was assigned, it held before, or it is
the value and the name is the field's. -/
theorem getElem?_of_assign? (h : assign? names name t slots = some slots')
    (hi : slots'[i]? = some (some value)) :
    slots[i]? = some (some value) ∨ names[i]? = some name ∧ value = t := by
  induction names generalizing slots slots' i with
  | nil => exact Or.inl (assign?_of_nil h (Or.inl rfl) ▸ hi)
  | cons n names ih =>
    cases slots with
    | nil => exact Or.inl (assign?_of_nil h (Or.inr rfl) ▸ hi)
    | cons slot slots =>
      rcases assign?_cons h with ⟨hn, -, rfl⟩ | ⟨-, rest, hrest, rfl⟩
      · cases i with
        | zero =>
          refine Or.inr ⟨congrArg some hn, ?_⟩
          simpa using hi.symm
        | succ i => exact Or.inl hi
      · cases i with
        | zero => exact Or.inl hi
        | succ i => exact ih hrest hi

theorem length_of_assign? (h : assign? names name t slots = some slots') :
    slots'.length = slots.length := by
  induction names generalizing slots slots' with
  | nil => rw [assign?_of_nil h (Or.inl rfl)]
  | cons n names ih =>
    cases slots with
    | nil => rw [assign?_of_nil h (Or.inr rfl)]
    | cons slot slots =>
      rcases assign?_cons h with ⟨-, -, rfl⟩ | ⟨-, rest, hrest, rfl⟩
      · rfl
      · rw [List.length_cons, List.length_cons, ih hrest]

/-- A value that a field has is not replaced. -/
theorem assign?_keeps (h : assign? names name t slots = some slots')
    (hi : slots[i]? = some (some value)) : slots'[i]? = some (some value) := by
  induction names generalizing slots slots' i with
  | nil => rwa [assign?_of_nil h (Or.inl rfl)]
  | cons n names ih =>
    cases slots with
    | nil => cases hi
    | cons slot slots =>
      rcases assign?_cons h with ⟨-, rfl, rfl⟩ | ⟨-, rest, hrest, rfl⟩
      · cases i with
        | zero => cases hi
        | succ i => exact hi
      · cases i with
        | zero => exact hi
        | succ i => exact ih (i := i) hrest hi

/-- A value that is assigned is what the field has then. -/
theorem assign?_puts (hnames : names.Nodup) (h : assign? names name t slots = some slots')
    (hname : names[i]? = some name) (hi : i < slots.length) : slots'[i]? = some (some t) := by
  induction names generalizing slots slots' i with
  | nil => cases hname
  | cons n names ih =>
    obtain ⟨hhead, htail⟩ := List.nodup_cons.1 hnames
    cases slots with
    | nil => cases hi
    | cons slot slots =>
      rcases assign?_cons h with ⟨rfl, -, rfl⟩ | ⟨hn, rest, hrest, rfl⟩
      · cases i with
        | zero => rfl
        | succ i =>
          -- the name would stand at two places
          exact absurd (List.mem_of_getElem? (i := i) hname) hhead
      · cases i with
        | zero => exact absurd (Option.some.inj hname) hn
        | succ i => exact ih (i := i) htail hrest hname (Nat.lt_of_succ_lt_succ hi)

variable {ms : List (Units × Tree)} {us : Units}

/-- To assign members is to assign the first, which has a name, and then the
others. -/
theorem assignAll?_cons (h : assignAll? names ((us, t) :: ms) slots = some slots') :
    ∃ key slots₁, us.text? = some key ∧ assign? names key t slots = some slots₁ ∧
      assignAll? names ms slots₁ = some slots' := by
  rw [assignAll?] at h
  cases hus : us.text? with
  | none => simp [hus] at h
  | some key =>
    simp only [hus, Option.bind_eq_some_iff] at h
    obtain ⟨slots₁, hassign, hrest⟩ := h
    exact ⟨key, slots₁, rfl, hassign, hrest⟩

/-- What a field holds after the members were assigned, it held before, or a
member with its name has it. -/
theorem getElem?_of_assignAll? (h : assignAll? names ms slots = some slots')
    (hi : slots'[i]? = some (some value)) :
    slots[i]? = some (some value) ∨
      ∃ us name, names[i]? = some name ∧ (us, value) ∈ ms ∧ us.text? = some name := by
  induction ms generalizing slots with
  | nil => exact Or.inl (Option.some.inj h ▸ hi)
  | cons m ms ih =>
    obtain ⟨us, t⟩ := m
    obtain ⟨key, slots₁, hus, hassign, hrest⟩ := assignAll?_cons h
    rcases ih hrest with hbefore | ⟨us', key', hkey, hmem, htext⟩
    · rcases getElem?_of_assign? hassign hbefore with hslot | ⟨hkey, rfl⟩
      · exact Or.inl hslot
      · exact Or.inr ⟨us, key, hkey, List.mem_cons_self, hus⟩
    · exact Or.inr ⟨us', key', hkey, List.mem_cons_of_mem _ hmem, htext⟩

/-- **A field that is read stands in the record.** -/
theorem holds_of_fields? (h : t.fields? names = some slots)
    (hname : names[i]? = some name) (hi : slots[i]? = some (some value)) :
    t.Holds name i value := by
  cases t with
  | object ms =>
    rcases getElem?_of_assignAll? h hi with hslot | ⟨us, key, hkey, hmem, htext⟩
    · -- no field has a value to begin with
      rw [List.getElem?_map, hname] at hslot
      cases hslot
    · obtain rfl : name = key := Option.some.inj (hname.symm.trans hkey)
      exact Or.inl ⟨ms, us, rfl, hmem, htext⟩
  | array ts =>
    rw [fields?] at h
    split at h
    · obtain rfl := Option.some.inj h
      refine Or.inr ⟨ts, rfl, ?_⟩
      rcases Nat.lt_or_ge i ts.length with hlt | hge
      · rw [List.getElem?_append_left (by simpa using hlt), List.getElem?_map,
          Option.map_eq_some_iff] at hi
        obtain ⟨t, ht, hsome⟩ := hi
        rw [ht, Option.some.inj hsome]
      · -- beyond the items there are only absent fields
        rw [List.getElem?_append_right (by simpa using hge)] at hi
        have habsent := List.eq_of_mem_replicate (List.mem_of_getElem? hi)
        cases habsent
    · cases h
  | null | bool _ | number _ | string _ => cases h

/-! ## What is held is read -/

theorem assignAll?_keeps (h : assignAll? names ms slots = some slots')
    (hi : slots[i]? = some (some value)) : slots'[i]? = some (some value) := by
  induction ms generalizing slots with
  | nil => exact Option.some.inj h ▸ hi
  | cons m ms ih =>
    obtain ⟨us, t⟩ := m
    obtain ⟨key, slots₁, -, hassign, hrest⟩ := assignAll?_cons h
    exact ih hrest (assign?_keeps hassign hi)

theorem assignAll?_puts (hnames : names.Nodup) (h : assignAll? names ms slots = some slots')
    (hname : names[i]? = some name) (hi : i < slots.length) (hmem : (us, value) ∈ ms)
    (htext : us.text? = some name) : slots'[i]? = some (some value) := by
  induction ms generalizing slots with
  | nil => exact absurd hmem List.not_mem_nil
  | cons m ms ih =>
    obtain ⟨us', t⟩ := m
    obtain ⟨key, slots₁, hus, hassign, hrest⟩ := assignAll?_cons h
    rcases List.mem_cons.1 hmem with heq | hmem
    · obtain ⟨rfl, rfl⟩ := Prod.mk.inj heq
      obtain rfl := Option.some.inj (htext.symm.trans hus)
      exact assignAll?_keeps hrest (assign?_puts hnames hassign hname hi)
    · exact ih hrest (length_of_assign? hassign ▸ hi) hmem

/-- **A field that stands in the record is read**, and so it stands there once. -/
theorem fields?_of_holds (hnames : names.Nodup)
    (h : t.fields? names = some slots) (hname : names[i]? = some name)
    (hholds : t.Holds name i value) : slots[i]? = some (some value) := by
  have hi : i < names.length := (List.getElem?_eq_some_iff.1 hname).1
  rcases hholds with ⟨ms, us, rfl, hmem, htext⟩ | ⟨ts, rfl, hts⟩
  · exact assignAll?_puts hnames h hname (by simpa using hi) hmem htext
  · rw [fields?] at h
    split at h
    · obtain rfl := Option.some.inj h
      have hlt : i < ts.length := (List.getElem?_eq_some_iff.1 hts).1
      rw [List.getElem?_append_left (by simpa using hlt), List.getElem?_map, hts]
      rfl
    · cases h

/-- A field that is read as text holds that text. -/
theorem requiredText?_eq_some_iff {slot : Option Tree} {s : String} :
    requiredText? slot = some s ↔ ∃ us, slot = some (.string us) ∧ us.text? = some s := by
  constructor
  · intro h
    obtain ⟨t, rfl, ht⟩ := Option.bind_eq_some_iff.1 h
    cases t with
    | string us => exact ⟨us, rfl, ht⟩
    | null | bool _ | number _ | array _ | object _ => cases ht
  · rintro ⟨us, rfl, hus⟩
    exact hus

end Tree

end Json

end IdleStop
