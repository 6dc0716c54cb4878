import IdleStop.Proofs.Json.Field
import Mathlib.Data.List.Basic
/-!
# Writing records

The objects that write a record are told by what each field holds: an object
gives the fields that are not absent, each by a member whose key is the field's
name, and these members stand in any order among others whose keys name no
field. Such an object is read as the fields it was written for
(`Tree.fields?_of_writesRecord`), and what writes a text, an optional text or a
whole number is read as that.
-/

namespace IdleStop

namespace Json

/-! ## Texts -/

namespace Units

/-- The first surrogate of a character beyond the first `2 ^ 16`. -/
def highOf (c : Char) : Nat :=
  0xd800 + (c.toNat - 0x10000) / 0x400

/-- The second surrogate of a character beyond the first `2 ^ 16`. -/
def lowOf (c : Char) : Nat :=
  0xdc00 + (c.toNat - 0x10000) % 0x400

/-- Code points that spell characters: each character is its own code point, and
beyond the first `2 ^ 16` it may also be two surrogates. -/
inductive WritesChars : Units → List Char → Prop
  | nil : WritesChars [] []
  | char (c : Char) {us : Units} {cs : List Char} (h : WritesChars us cs) :
    WritesChars (c.toNat :: us) (c :: cs)
  | pair {c : Char} (hc : 0x10000 ≤ c.toNat) {us : Units} {cs : List Char}
      (h : WritesChars us cs) : WritesChars (highOf c :: lowOf c :: us) (c :: cs)

/-- Code points that spell a text. -/
def Writes (us : Units) (s : String) : Prop :=
  WritesChars us s.toList

variable {us : Units} {cs : List Char} {s : String}

/-- No character is a surrogate. -/
theorem not_isSurrogate (c : Char) : isHigh c.toNat = false ∧ isLow c.toNat = false := by
  have hvalid : c.toNat < 0xd800 ∨ 0xdfff < c.toNat ∧ c.toNat < 0x110000 := c.valid
  simp only [isHigh, isLow, Bool.and_eq_false_iff, decide_eq_false_iff_not]
  omega

theorem chars?_char (c : Char) (us : Units) :
    chars? (c.toNat :: us) = (c :: ·) <$> chars? us := by
  obtain ⟨hhigh, hlow⟩ := not_isSurrogate c
  cases us <;> simp [chars?, hhigh, hlow]

theorem chars?_pair {c : Char} (hc : 0x10000 ≤ c.toNat) (us : Units) :
    chars? (highOf c :: lowOf c :: us) = (c :: ·) <$> chars? us := by
  have hvalid : c.toNat < 0xd800 ∨ 0xdfff < c.toNat ∧ c.toNat < 0x110000 := c.valid
  have hhigh : isHigh (highOf c) = true := by
    unfold isHigh highOf
    rw [Bool.and_eq_true, decide_eq_true_iff, decide_eq_true_iff]
    omega
  have hlow : isLow (lowOf c) = true := by
    unfold isLow lowOf
    rw [Bool.and_eq_true, decide_eq_true_iff, decide_eq_true_iff]
    omega
  have hcode : 0x10000 + (highOf c - 0xd800) * 0x400 + (lowOf c - 0xdc00) = c.toNat := by
    unfold highOf lowOf
    omega
  have hpair : Char.ofNat (0x10000 + (highOf c - 0xd800) * 0x400 + (lowOf c - 0xdc00)) = c := by
    rw [hcode, Char.ofNat_toNat]
  rw [chars?.eq_def]
  simp only [hhigh, hlow, if_true, hpair]

theorem chars?_of_writesChars (h : WritesChars us cs) : us.chars? = some cs := by
  induction h with
  | nil => rfl
  | char c _ ih => rw [chars?_char, ih]; rfl
  | pair hc _ ih => rw [chars?_pair hc, ih]; rfl

/-- A text's own code points spell it. -/
theorem writes_ofString (s : String) : Writes (ofString s) s := by
  rw [Writes, ofString]
  induction s.toList with
  | nil => exact .nil
  | cons c cs ih => exact .char c ih

/-- Code points that spell a text are read as that text. -/
theorem text?_of_writes (h : us.Writes s) : us.text? = some s := by
  rw [text?, chars?_of_writesChars h, Option.map_eq_map, Option.map_some, String.ofList_toList]

end Units

namespace Tree

/-! ## Fields -/

/-- Members that give the fields with some names, in order, and none where a
field is absent. -/
inductive Gives : List String → List (Option Tree) → List (Units × Tree) → Prop
  | nil : Gives [] [] []
  | absent {name : String} {names : List String} {slots : List (Option Tree)}
      {ms : List (Units × Tree)} (h : Gives names slots ms) :
    Gives (name :: names) (none :: slots) ms
  | present {name : String} {names : List String} {us : Units} {t : Tree}
      {slots : List (Option Tree)} {ms : List (Units × Tree)} (hus : us.Writes name)
      (h : Gives names slots ms) : Gives (name :: names) (some t :: slots) ((us, t) :: ms)

/-- A member names no field: its key is another text. -/
def NamesNone (names : List String) (m : Units × Tree) : Prop :=
  ∃ key, m.1.Writes key ∧ key ∉ names

/-- An object that gives fields by name, in any order and beside any other
members. -/
def WritesRecord (names : List String) (slots : List (Option Tree)) (t : Tree) : Prop :=
  ∃ ms given further, t = .object ms ∧ ms.Perm (given ++ further) ∧ Gives names slots given ∧
    ∀ m ∈ further, NamesNone names m

variable {names : List String} {slots : List (Option Tree)} {t value : Tree}
variable {ms : List (Units × Tree)} {us : Units} {i : Nat} {name : String}

theorem Gives.length_eq (h : Gives names slots ms) : slots.length = names.length := by
  induction h with
  | nil => rfl
  | absent _ ih | present _ _ ih => rw [List.length_cons, List.length_cons, ih]

/-- A field that is present has a member. -/
theorem Gives.exists_mem (h : Gives names slots ms) (hname : names[i]? = some name)
    (hi : slots[i]? = some (some value)) : ∃ us, (us, value) ∈ ms ∧ us.Writes name := by
  induction h generalizing i with
  | nil => cases hname
  | absent _ ih =>
    cases i with
    | zero => cases hi
    | succ i => exact ih hname hi
  | present hus _ ih =>
    cases i with
    | zero =>
      obtain rfl := Option.some.inj hname
      obtain rfl := Option.some.inj (Option.some.inj hi)
      exact ⟨_, List.mem_cons_self, hus⟩
    | succ i =>
      obtain ⟨us, hmem, hus⟩ := ih hname hi
      exact ⟨us, List.mem_cons_of_mem _ hmem, hus⟩

/-- A member is that of a field. -/
theorem Gives.exists_field {m : Units × Tree} (h : Gives names slots ms) (hm : m ∈ ms) :
    ∃ (i : Nat) (name : String), names[i]? = some name ∧ slots[i]? = some (some m.2) ∧
      m.1.text? = some name := by
  induction h with
  | nil => cases hm
  | absent _ ih =>
    obtain ⟨i, name, hfield⟩ := ih hm
    exact ⟨i + 1, name, hfield⟩
  | present hus _ ih =>
    rcases List.mem_cons.1 hm with rfl | hm
    · exact ⟨0, _, rfl, rfl, Units.text?_of_writes hus⟩
    · obtain ⟨i, name, hfield⟩ := ih hm
      exact ⟨i + 1, name, hfield⟩

/-- The member of a field has what the field holds. -/
theorem Gives.slot_of_mem (h : Gives names slots ms) (hnames : names.Nodup)
    (hmem : (us, value) ∈ ms) (htext : us.text? = some name) (hname : names[i]? = some name) :
    slots[i]? = some (some value) := by
  obtain ⟨j, name', hname', hslot, htext'⟩ := h.exists_field hmem
  obtain rfl := Option.some.inj (htext.symm.trans htext')
  have hi : i < names.length := (List.getElem?_eq_some_iff.1 hname).1
  obtain rfl := (List.getElem?_inj hi hnames).1 (hname.trans hname'.symm)
  exact hslot

theorem NamesNone.text?_ne {m : Units × Tree} (h : NamesNone names m) (hname : name ∈ names) :
    m.1.text? ≠ some name := by
  obtain ⟨key, hkey, hfresh⟩ := h
  intro htext
  obtain rfl := Option.some.inj ((Units.text?_of_writes hkey).symm.trans htext)
  exact hfresh hname

/-- Two members do not name the same field. -/
def NamedApart (names : List String) (m m' : Units × Tree) : Prop :=
  ∀ name ∈ names, m.1.text? = some name → m'.1.text? ≠ some name

theorem namedApart_comm {m m' : Units × Tree} (h : NamedApart names m m') : NamedApart names m' m :=
  fun name hname hm' hm => h name hname hm hm'

theorem Gives.pairwise (h : Gives names slots ms) (hnames : names.Nodup) (all : List String) :
    ms.Pairwise (NamedApart all) := by
  induction h with
  | nil => exact List.Pairwise.nil
  | absent _ ih => exact ih (List.nodup_cons.1 hnames).2
  | @present name names us t slots ms hus hgives ih =>
    obtain ⟨hfresh, hnames⟩ := List.nodup_cons.1 hnames
    refine List.pairwise_cons.2 ⟨fun m hm other _ hother hm' => hfresh ?_, ih hnames⟩
    -- the later member would have the name of the first
    obtain ⟨i, name', hname', -, htext⟩ := hgives.exists_field hm
    obtain rfl := Option.some.inj ((Units.text?_of_writes hus).symm.trans hother)
    obtain rfl := Option.some.inj (htext.symm.trans hm')
    exact List.mem_of_getElem? hname'

/-! ## Fields are read -/

/-- A value can be assigned where the field has none. -/
theorem exists_assign?
    (h : ∀ (i : Nat) value, names[i]? = some name → slots[i]? ≠ some (some value)) :
    ∃ slots', assign? names name t slots = some slots' := by
  induction names generalizing slots with
  | nil => exact ⟨slots, rfl⟩
  | cons n names ih =>
    cases slots with
    | nil => exact ⟨[], rfl⟩
    | cons slot slots =>
      simp only [assign?]
      by_cases hn : n = name
      · rw [if_pos hn]
        cases slot with
        | none => exact ⟨_, rfl⟩
        | some value => exact absurd rfl (h 0 value (congrArg some hn))
      · rw [if_neg hn]
        obtain ⟨rest, hrest⟩ := ih fun i value => h (i + 1) value
        exact ⟨slot :: rest, by rw [hrest]; rfl⟩

/-- Members can be assigned where each has a text for a key and no two name the
same field, nor one that has a value. -/
theorem exists_assignAll? (htext : ∀ m ∈ ms, ∃ key, m.1.text? = some key)
    (hapart : ms.Pairwise (NamedApart names))
    (hfree : ∀ m ∈ ms, ∀ (i : Nat) name value, names[i]? = some name →
      m.1.text? = some name → slots[i]? ≠ some (some value)) :
    ∃ slots', assignAll? names ms slots = some slots' := by
  induction ms generalizing slots with
  | nil => exact ⟨slots, rfl⟩
  | cons m ms ih =>
    obtain ⟨us, t⟩ := m
    obtain ⟨⟨key, hkey⟩, htext⟩ := List.forall_mem_cons.1 htext
    obtain ⟨hhead, hapart⟩ := List.pairwise_cons.1 hapart
    obtain ⟨hfirst, hfree⟩ := List.forall_mem_cons.1 hfree
    obtain ⟨slots₁, hslots₁⟩ :=
      exists_assign? (t := t) fun i value hname => hfirst i key value hname hkey
    have hfree₁ : ∀ m ∈ ms, ∀ (i : Nat) name value, names[i]? = some name →
        m.1.text? = some name → slots₁[i]? ≠ some (some value) := by
      intro m hm i name value hname hm' hi
      rcases getElem?_of_assign? hslots₁ hi with hbefore | ⟨hkey', -⟩
      · exact hfree m hm i name value hname hm' hbefore
      · obtain rfl := Option.some.inj (hname.symm.trans hkey')
        exact hhead m hm name (List.mem_of_getElem? hname) hkey hm'
    obtain ⟨slots', hslots'⟩ := ih htext hapart hfree₁
    refine ⟨slots', ?_⟩
    rw [assignAll?, hkey]
    exact Option.bind_eq_some_iff.2 ⟨slots₁, hslots₁, hslots'⟩

theorem length_of_assignAll? {slots' : List (Option Tree)}
    (h : assignAll? names ms slots = some slots') : slots'.length = slots.length := by
  induction ms generalizing slots with
  | nil => rw [Option.some.inj h]
  | cons m ms ih =>
    obtain ⟨us, t⟩ := m
    obtain ⟨key, slots₁, -, hassign, hrest⟩ := assignAll?_cons h
    rw [ih hrest, length_of_assign? hassign]

variable {given further : List (Units × Tree)}

/-- Where each field that is present is given once, all members can be assigned. -/
theorem exists_fields?_of_gives (hnames : names.Nodup) (hperm : ms.Perm (given ++ further))
    (hgives : Gives names slots given) (hfurther : ∀ m ∈ further, NamesNone names m) :
    ∃ slots', (Tree.object ms).fields? names = some slots' := by
  have htext : ∀ m ∈ ms, ∃ key, m.1.text? = some key := by
    intro m hm
    rcases List.mem_append.1 (hperm.mem_iff.1 hm) with hm | hm
    · obtain ⟨-, name, -, -, hname⟩ := hgives.exists_field hm
      exact ⟨name, hname⟩
    · obtain ⟨key, hkey, -⟩ := hfurther m hm
      exact ⟨key, Units.text?_of_writes hkey⟩
  have hapart : (given ++ further).Pairwise (NamedApart names) := by
    refine List.pairwise_append.2 ⟨hgives.pairwise hnames names, ?_, ?_⟩
    · exact List.pairwise_of_forall_mem_list fun m hm _ _ name hname h _ =>
        (hfurther m hm).text?_ne hname h
    · exact fun _ _ m' hm' name hname _ => (hfurther m' hm').text?_ne hname
  refine exists_assignAll? htext ((hperm.pairwise_iff namedApart_comm).2 hapart)
    fun m _ i name value hname _ hi => ?_
  -- to begin with, every field is free
  rw [List.getElem?_map, hname] at hi
  cases hi

/-- **A record is read as it is written.** -/
theorem fields?_of_writesRecord (hnames : names.Nodup) (h : t.WritesRecord names slots) :
    t.fields? names = some slots := by
  obtain ⟨ms, given, further, rfl, hperm, hgives, hfurther⟩ := h
  obtain ⟨slots', hslots'⟩ := exists_fields?_of_gives hnames hperm hgives hfurther
  have hlength : slots'.length = slots.length := by
    rw [length_of_assignAll? hslots', List.length_map, hgives.length_eq]
  rw [hslots']
  refine congrArg some (List.ext_getElem hlength fun i hi' hi => Option.ext fun value => ?_)
  obtain ⟨name, hname⟩ : ∃ name, names[i]? = some name :=
    ⟨_, List.getElem?_eq_getElem (hgives.length_eq ▸ hi)⟩
  have hread : slots'[i] = some value ↔ slots'[i]? = some (some value) := by
    rw [List.getElem?_eq_getElem hi', Option.some.injEq]
  have hheld : slots[i] = some value ↔ slots[i]? = some (some value) := by
    rw [List.getElem?_eq_getElem hi, Option.some.injEq]
  rw [hread, hheld]
  constructor
  · intro hslot'
    rcases holds_of_fields? hslots' hname hslot' with ⟨_, us, hms, hus, htext⟩ | ⟨_, harray, -⟩
    · obtain rfl := Tree.object.inj hms
      rcases List.mem_append.1 (hperm.mem_iff.1 hus) with hus | hus
      · exact hgives.slot_of_mem hnames hus htext hname
      · exact absurd htext ((hfurther _ hus).text?_ne (List.mem_of_getElem? hname))
    · cases harray
  · intro hslot
    obtain ⟨us, hus, hwrites⟩ := hgives.exists_mem hname hslot
    exact fields?_of_holds hnames hslots' hname (Or.inl ⟨ms, us, rfl,
      hperm.mem_iff.2 (List.mem_append_left _ hus), Units.text?_of_writes hwrites⟩)

/-! ## Values -/

variable {slot : Option Tree}

/-- What may stand for a text that may be absent. -/
inductive WritesOptionalText : Option String → Option Tree → Prop
  | absent : WritesOptionalText none none
  | null : WritesOptionalText none (some .null)
  | text {us : Units} {s : String} (h : us.Writes s) :
    WritesOptionalText (some s) (some (.string us))

/-- What may stand for a text. -/
inductive WritesText : String → Tree → Prop
  | mk {us : Units} {s : String} (h : us.Writes s) : WritesText s (.string us)

/-- What may stand for a whole number of 64 bits: its digits. -/
inductive WritesWord : UInt64 → Tree → Prop
  | mk {n : UInt64} {ds : List Nat} (h : Digits.toNat ds = n.toNat) :
    WritesWord n (.number ⟨false, ds, [], none⟩)

theorem optionalText?_of_writes {s : Option String} (h : WritesOptionalText s slot) :
    optionalText? slot = some s := by
  cases h with
  | absent | null => rfl
  | text h => exact congrArg (Option.map some) (Units.text?_of_writes h)

theorem requiredText?_of_writes {s : String} (h : WritesText s t) :
    requiredText? (some t) = some s := by
  obtain ⟨h⟩ := h
  exact Units.text?_of_writes h

end Tree

/-- A row of digits goes on to no smaller number. -/
theorem Literal.le_foldl_digits (n : Nat) (ds : List Nat) :
    n ≤ ds.foldl (fun n d => 10 * n + d) n := by
  induction ds generalizing n with
  | nil => exact Nat.le_refl n
  | cons d ds ih =>
    have hstep : n ≤ 10 * n + d := by omega
    exact Nat.le_trans hstep (ih (10 * n + d))

/-- Digits of a number that fits into 64 bits are all collected. -/
theorem Literal.collect_of_lt {n : Nat} {ds : List Nat}
    (h : ds.foldl (fun n d => 10 * n + d) n < Nat.pow 2 64) :
    collect n ds = (ds.foldl (fun n d => 10 * n + d) n, []) := by
  induction ds generalizing n with
  | nil => rfl
  | cons d ds ih =>
    have hfits : 10 * n + d < Nat.pow 2 64 :=
      Nat.lt_of_le_of_lt (le_foldl_digits (10 * n + d) ds) h
    rw [collect, if_pos hfits, ih h, List.foldl_cons]

theorem Tree.word?_of_writes {t : Tree} {n : UInt64} (h : WritesWord n t) : t.word? = some n := by
  cases h with | @mk ds h =>
  have hfits : Digits.toNat ds < Nat.pow 2 64 := h ▸ n.toNat_lt
  have hread : Number.ofLiteral? ⟨false, ds, [], none⟩ = some (.natural n.toNat) := by
    rw [Number.ofLiteral?, Literal.collect_of_lt hfits, ← h]
    rfl
  rw [word?, hread]
  exact congrArg some UInt64.ofNat_toNat

end Json

end IdleStop
