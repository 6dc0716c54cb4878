import IdleStop.Proofs.Json.Record
/-!
# What can be read

A record can be read exactly if it is an object whose keys are all texts and that
names no field twice, or an array with no more items than there are fields
(`Tree.fields?_eq_some_iff`). Of values, a text that may be absent is absent, null
or text, and a whole number of 64 bits is digits alone, without sign, point and
exponent, and not beyond the greatest such number.
-/

namespace IdleStop

namespace Json

namespace Tree

variable {names : List String} {name : String} {slots slots' : List (Option Tree)}
variable {t value : Tree} {ms : List (Units × Tree)} {i : Nat}

/-! ## Fields -/

/-- A record has these values for the fields of these names, and none where a field
is absent. -/
inductive HasFields (names : List String) : List (Option Tree) → Tree → Prop
  /-- By name, in an object whose keys are texts and that names no field twice. -/
  | object {slots : List (Option Tree)} {ms : List (Units × Tree)}
      (htext : ∀ m ∈ ms, ∃ key, m.1.text? = some key) (hapart : ms.Pairwise (NamedApart names))
      (hlength : slots.length = names.length)
      (hslots : ∀ (i : Nat) (name : String) (value : Tree), names[i]? = some name →
        (slots[i]? = some (some value) ↔ ∃ us, (us, value) ∈ ms ∧ us.text? = some name)) :
    HasFields names slots (.object ms)
  /-- By place, in an array with no more items than there are fields. -/
  | array {ts : List Tree} (h : ts.length ≤ names.length) :
    HasFields names (ts.map some ++ List.replicate (names.length - ts.length) none) (.array ts)

/-- A field that has a value is not given another. -/
theorem assign?_ne_some (hnames : names.Nodup) (hname : names[i]? = some name)
    (hi : slots[i]? = some (some value)) : assign? names name t slots ≠ some slots' := by
  induction names generalizing slots slots' i with
  | nil => cases hname
  | cons n names ih =>
    obtain ⟨hhead, htail⟩ := List.nodup_cons.1 hnames
    intro h
    cases slots with
    | nil => cases hi
    | cons slot slots =>
      rcases assign?_cons h with ⟨rfl, rfl, -⟩ | ⟨hn, rest, hrest, -⟩
      · cases i with
        | zero => cases hi
        | succ i => exact hhead (List.mem_of_getElem? (i := i) hname)
      · cases i with
        | zero => exact hn (Option.some.inj hname)
        | succ i => exact ih (i := i) htail hname hi hrest

/-- Where members are assigned, none of them names a field that has a value. -/
theorem text?_ne_of_assignAll? (hnames : names.Nodup) (h : assignAll? names ms slots = some slots')
    (hname : names[i]? = some name) (hi : slots[i]? = some (some value)) :
    ∀ m ∈ ms, m.1.text? ≠ some name := by
  induction ms generalizing slots with
  | nil => exact nofun
  | cons m ms ih =>
    obtain ⟨us, t⟩ := m
    obtain ⟨key, slots₁, hus, hassign, hrest⟩ := assignAll?_cons h
    refine List.forall_mem_cons.2 ⟨?_, ih hrest (assign?_keeps hassign hi)⟩
    intro htext
    obtain rfl := Option.some.inj (hus.symm.trans htext)
    exact assign?_ne_some hnames hname hi hassign

/-- Where members are assigned, each has a text for a key and no two name the same
field. -/
theorem apart_of_assignAll? (hnames : names.Nodup) (hlength : slots.length = names.length)
    (h : assignAll? names ms slots = some slots') :
    (∀ m ∈ ms, ∃ key, m.1.text? = some key) ∧ ms.Pairwise (NamedApart names) := by
  induction ms generalizing slots with
  | nil => exact ⟨nofun, .nil⟩
  | cons m ms ih =>
    obtain ⟨us, t⟩ := m
    obtain ⟨key, slots₁, hus, hassign, hrest⟩ := assignAll?_cons h
    obtain ⟨htext, hapart⟩ := ih ((length_of_assign? hassign).trans hlength) hrest
    refine ⟨List.forall_mem_cons.2 ⟨⟨key, hus⟩, htext⟩, List.pairwise_cons.2 ⟨?_, hapart⟩⟩
    intro m hm name hname hus'
    obtain rfl := Option.some.inj (hus.symm.trans hus')
    obtain ⟨i, hi, hkey⟩ := List.mem_iff_getElem.1 hname
    have hkey' : names[i]? = some key := List.getElem?_eq_some_iff.2 ⟨hi, hkey⟩
    -- the first member fills the field, so no later one can
    have hfilled : slots₁[i]? = some (some t) :=
      assign?_puts hnames hassign hkey' (hlength ▸ hi)
    exact text?_ne_of_assignAll? hnames hrest hkey' hfilled m hm

/-- What an object holds for its fields tells what they are read as. -/
theorem slots_eq_of_holds (hlength : slots.length = names.length)
    (hlength' : slots'.length = names.length)
    (h : ∀ (i : Nat) (name : String) (value : Tree), names[i]? = some name →
      (slots[i]? = some (some value) ↔ slots'[i]? = some (some value))) : slots = slots' := by
  refine List.ext_getElem (hlength.trans hlength'.symm) fun i hi hi' => Option.ext fun value => ?_
  have hname : names[i]? = some names[i] := List.getElem?_eq_getElem (hlength ▸ hi)
  have hvalue := h i names[i] value hname
  rwa [List.getElem?_eq_getElem hi, List.getElem?_eq_getElem hi', Option.some.injEq,
    Option.some.injEq] at hvalue

/-- **What it takes to read a record.** -/
theorem fields?_eq_some_iff (hnames : names.Nodup) :
    t.fields? names = some slots ↔ HasFields names slots t := by
  have hfree : (names.map fun _ => (none : Option Tree)).length = names.length := List.length_map _
  -- an object is read as what it holds
  have hheld : ∀ {ms slots}, (object ms).fields? names = some slots →
      ∀ (i : Nat) (name : String) (value : Tree), names[i]? = some name →
        (slots[i]? = some (some value) ↔ ∃ us, (us, value) ∈ ms ∧ us.text? = some name) := by
    intro ms slots h i name value hname
    constructor
    · intro hi
      rcases holds_of_fields? h hname hi with ⟨_, us, hms, hmem, htext⟩ | ⟨_, harray, -⟩
      · obtain rfl := Tree.object.inj hms
        exact ⟨us, hmem, htext⟩
      · cases harray
    · rintro ⟨us, hmem, htext⟩
      exact fields?_of_holds hnames h hname (Or.inl ⟨ms, us, rfl, hmem, htext⟩)
  constructor
  · intro h
    cases t with
    | object ms =>
      obtain ⟨htext, hapart⟩ := apart_of_assignAll? hnames hfree h
      exact .object htext hapart ((length_of_assignAll? h).trans hfree) (hheld h)
    | array ts =>
      rw [fields?] at h
      split at h
      · next hle =>
        cases h
        exact .array hle
      · cases h
    | null | bool _ | number _ | string _ => cases h
  · intro h
    cases h with
    | @object slots ms htext hapart hlength hslots =>
      have hnone : ∀ m ∈ ms, ∀ (i : Nat) name value, names[i]? = some name →
          m.1.text? = some name → (names.map fun _ => (none : Option Tree))[i]? ≠
            some (some value) := by
        intro m _ i name value hname _ hi
        rw [List.getElem?_map, hname] at hi
        cases hi
      obtain ⟨slots', hslots'⟩ := exists_assignAll? htext hapart hnone
      have hread : (object ms).fields? names = some slots' := hslots'
      have heq : slots' = slots := by
        refine slots_eq_of_holds ((length_of_assignAll? hslots').trans hfree) hlength ?_
        intro i name value hname
        rw [hheld hread i name value hname, hslots i name value hname]
      rw [hread, heq]
    | array h => rw [fields?, if_pos h]

/-- What is read from the fields of a record is read from the values it has for them. -/
theorem bind_fields?_eq_some_iff {α : Type} {k : List (Option Tree) → Option α} {a : α}
    (hnames : names.Nodup) :
    (t.fields? names >>= k) = some a ↔ ∃ slots, HasFields names slots t ∧ k slots = some a := by
  simp only [Option.bind_eq_bind, Option.bind_eq_some_iff, fields?_eq_some_iff hnames]

/-! ## Values -/

/-- A field that is absent or null, or a text. -/
inductive HasOptionalText : Option Tree → Option String → Prop
  | absent : HasOptionalText none none
  | null : HasOptionalText (some .null) none
  | text {us : Units} {s : String} (h : us.text? = some s) :
    HasOptionalText (some (.string us)) (some s)

theorem optionalText?_eq_some_iff {slot : Option Tree} {s : Option String} :
    optionalText? slot = some s ↔ HasOptionalText slot s := by
  constructor
  · intro h
    unfold optionalText? at h
    split at h
    · cases h
      exact .absent
    · cases h
      exact .null
    · next t _ =>
      obtain ⟨s', hs', rfl⟩ := Option.map_eq_some_iff.1 h
      cases t with
      | string us => exact .text hs'
      | null | bool _ | number _ | array _ | object _ => cases hs'
  · intro h
    cases h with
    | absent | null => rfl
    | text h => exact congrArg (Option.map some) h

end Tree

/-- Digits that are all collected are those of the number. -/
theorem Literal.foldl_of_collect {n k : Nat} {ds : List Nat} (h : collect n ds = (k, [])) :
    k = ds.foldl (fun n d => 10 * n + d) n := by
  induction ds generalizing n with
  | nil => exact (congrArg Prod.fst h).symm
  | cons d ds ih =>
    rw [collect] at h
    split at h
    · exact ih h
    · cases h

theorem Literal.collect_lt {n : Nat} (hn : n < Nat.pow 2 64) (ds : List Nat) :
    (collect n ds).1 < Nat.pow 2 64 := by
  induction ds generalizing n with
  | nil => exact hn
  | cons d ds ih =>
    rw [collect]
    split
    · next hd => exact ih hd
    · exact hn

/-- A literal whose value is a whole number is its digits. -/
theorem Number.digits_of_natural {l : Literal} {n : Nat} (h : ofLiteral? l = some (.natural n)) :
    l = ⟨false, l.whole, [], none⟩ ∧ Literal.collect 0 l.whole = (n, []) := by
  -- what is scaled is a double
  have hscaled : ∀ (o : Option Binary64) (scale : Binary64 → Option Binary64),
      (o.bind fun x => (scale x).bind fun y => some (double y)) ≠ some (natural n) := by
    intro o scale hn
    obtain ⟨x, -, hx⟩ := Option.bind_eq_some_iff.1 hn
    obtain ⟨y, -, hy⟩ := Option.bind_eq_some_iff.1 hx
    cases hy
  unfold ofLiteral? at h
  cases hcollect : Literal.collect 0 l.whole with
  | mk k dropped =>
    simp only [hcollect, Option.pure_def, Option.bind_eq_bind] at h
    split at h
    · next hwhole =>
      split at h
      · next hnegative =>
        cases h
        simp only [Literal.isWhole, Bool.and_eq_true, List.isEmpty_iff, Option.isNone_iff_eq_none]
          at hwhole
        obtain ⟨⟨hfraction, hexponent⟩, rfl⟩ := hwhole
        obtain ⟨negative, whole, fraction, exponent⟩ := l
        dsimp only at hfraction hexponent hnegative
        rw [Bool.not_eq_true'] at hnegative
        rw [hfraction, hexponent, hnegative]
        exact ⟨rfl, rfl⟩
      · split at h
        · cases h
        · split at h
          · cases h
          · exact absurd h (hscaled _ _)
    · exact absurd h (hscaled _ _)

/-- **A whole number of 64 bits is digits alone**: neither `1.0` nor `1e0` is one,
nor is a number beyond the greatest. -/
theorem Tree.word?_eq_some_iff {t : Tree} {n : UInt64} : t.word? = some n ↔ WritesWord n t := by
  constructor
  · intro h
    unfold word? at h
    split at h
    · next l =>
      split at h
      · next k hk =>
        obtain ⟨hl, hcollect⟩ := Number.digits_of_natural hk
        have hdigits : k = Digits.toNat l.whole := Literal.foldl_of_collect hcollect
        have hlt : k < Nat.pow 2 64 := by
          have hread := Literal.collect_lt (by decide : 0 < Nat.pow 2 64) l.whole
          rwa [hcollect] at hread
        cases h
        rw [hl]
        refine .mk ?_
        rw [← hdigits]
        exact (UInt64.toNat_ofNat_of_lt' hlt).symm
      · cases h
    · cases h
  · exact word?_of_writes

end Json

end IdleStop
