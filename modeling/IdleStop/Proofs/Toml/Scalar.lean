import IdleStop.Proofs.Json.Scanning
import IdleStop.Proofs.Toml.Spelling
import Mathlib.Data.Bool.AllAny
import Mathlib.Data.List.TakeWhile
/-!
# Scalars are read as they are spelled

A text without quotes is tried as one kind of scalar after the other. What spells a whole
number is no date or time, since it has no colon and no hyphen but as its sign, and no
number of another kind. So it is read as the number it spells, or not at all if that has
more than 128 bits.
-/

namespace IdleStop

/-- A text that a template reads has the marks of the template. -/
theorem Template.mem_of_read? {t : Template} {cs rest : List Char} {ds : List Nat} {m : Char}
    (h : t.read? cs = some (ds, rest)) (hm : .mark m ∈ t) : m ∈ cs := by
  induction t generalizing cs ds with
  | nil => cases hm
  | cons slot t ih =>
    cases cs with
    | nil => cases slot <;> cases h
    | cons c cs =>
      cases slot with
      | digit =>
        obtain ⟨d, -, h⟩ := Option.bind_eq_some_iff.1 h
        obtain ⟨⟨ds', rest'⟩, hread, h⟩ := Option.bind_eq_some_iff.1 h
        cases h
        have hm : Slot.mark m ∈ t := by simpa using hm
        exact List.mem_cons_of_mem c (ih hread hm)
      | mark m' =>
        change (if c = m' then read? t cs else none) = some (ds, rest) at h
        split at h
        · next hc =>
          rcases List.mem_cons.1 hm with hm | hm
          · cases hm
            rw [hc]
            exact List.mem_cons_self
          · exact List.mem_cons_of_mem c (ih h hm)
        · cases h

namespace Toml

variable {base d : Nat} {ds : List Nat} {c l : Char} {cs text : List Char} {i : Int}

namespace Scalar

/-! ## Digits -/

/-- What may stand in a row of digits. -/
def digitChars : List Char :=
  "0123456789abcdefABCDEF_".toList

theorem mem_digitChars_of_isHexDigit (h : Json.IsHexDigit c d) : c ∈ digitChars := by
  have hlower : ∀ c ∈ "0123456789abcdef".toList, c ∈ digitChars :=
    List.all_iff_forall_prop.1 (by decide)
  have hupper : ∀ c ∈ "0123456789ABCDEF".toList, c ∈ digitChars :=
    List.all_iff_forall_prop.1 (by decide)
  rcases h with h | h
  · exact hlower c (List.mem_of_getElem? h)
  · exact hupper c (List.mem_of_getElem? h)

theorem mem_digitChars (h : SpellsDigits base ds cs) : ∀ c ∈ cs, c ∈ digitChars := by
  have hgap : '_' ∈ digitChars := by decide
  induction h with
  | one hd hc =>
    intro c' hc'
    rw [List.mem_singleton.1 hc']
    exact mem_digitChars_of_isHexDigit hc
  | next hd hc h ih => exact List.forall_mem_cons.2 ⟨mem_digitChars_of_isHexDigit hc, ih⟩
  | gap hd hc h ih =>
    exact List.forall_mem_cons.2
      ⟨mem_digitChars_of_isHexDigit hc, List.forall_mem_cons.2 ⟨hgap, ih⟩⟩

theorem digit?_of_isHexDigit (hd : d < base) (hc : Json.IsHexDigit c d) :
    digit? base c = some d := by
  rw [digit?, Json.hexValue?_of_isHexDigit hc, Option.filter_some, if_pos (by simpa using hd)]

theorem digits?_cons (hc : c ≠ '_') :
    digits? base (l :: c :: cs) = do return (← digit? base l) :: (← digits? base (c :: cs)) := by
  rw [digits?]
  · simp
  · simpa using hc

/-- A row of digits begins with one. -/
theorem exists_digit (h : SpellsDigits base ds cs) :
    ∃ c d cs', d < base ∧ Json.IsHexDigit c d ∧ cs = c :: cs' := by
  cases h with
  | one hd hc => exact ⟨_, _, _, hd, hc, rfl⟩
  | next hd hc h => exact ⟨_, _, _, hd, hc, rfl⟩
  | gap hd hc h => exact ⟨_, _, _, hd, hc, rfl⟩

theorem digits?_of_spells (h : SpellsDigits base ds cs) : digits? base cs = some ds := by
  induction h with
  | one hd hc => rw [digits?, digit?_of_isHexDigit hd hc, Option.map_some]
  | next hd hc h ih =>
    obtain ⟨c', d', cs', -, hc', rfl⟩ := exists_digit h
    have hne : c' ≠ '_' := by
      rintro rfl
      cases Json.hexValue?_of_isHexDigit hc'
    rw [digits?_cons hne, digit?_of_isHexDigit hd hc, ih]
    rfl
  | gap hd hc h ih =>
    rw [digits?, digit?_of_isHexDigit hd hc, ih]
    rfl

/-- No row of digits begins with anything else. -/
theorem digits?_eq_none (hc : digit? base c = none) : digits? base (c :: cs) = none := by
  unfold digits?
  split
  · next heq => cases heq
  · next heq =>
    obtain ⟨rfl, -⟩ := List.cons.inj heq
    rw [hc]
    rfl
  · next heq =>
    obtain ⟨rfl, -⟩ := List.cons.inj heq
    rw [hc]
    rfl
  · next heq =>
    obtain ⟨rfl, -⟩ := List.cons.inj heq
    rw [hc]
    rfl

theorem plainDigits?_of_spells (h : SpellsDigits 10 ds cs) (hzero : ds.head? = some 0 → ds = [0]) :
    plainDigits? cs = some ds := by
  unfold plainDigits?
  rw [digits?_of_spells h]
  split
  · next heq =>
    cases heq
    cases hzero rfl
  · rfl

/-! ## Whole numbers -/

/-- The whole numbers that are read. -/
def InLimits : Scalar → Prop
  | integer i => -Nat.pow 2 127 ≤ i ∧ i < Nat.pow 2 128
  | _ => True

instance : DecidablePred InLimits
  | integer i => inferInstanceAs (Decidable (-Nat.pow 2 127 ≤ i ∧ i < Nat.pow 2 128))
  | bool _ | real _ | moment _ | string _ => isTrue trivial

/-- What may stand in a whole number. -/
def integerChars : List Char :=
  "0123456789abcdefABCDEF_+-xo".toList

theorem mem_integerChars (h : SpellsInteger i text) : ∀ c ∈ text, c ∈ integerChars := by
  have hdigits : ∀ c ∈ digitChars, c ∈ integerChars :=
    List.all_iff_forall_prop.1 (by decide)
  cases h with
  | @decimal negative sign cs ds hsign hzero h =>
    have hsigns : ∀ p ∈ signs, p.2.all (integerChars.contains ·) = true := by decide
    intro c hc
    rcases List.mem_append.1 hc with hc | hc
    · exact List.contains_iff_mem.1 (List.all_eq_true.1 (hsigns _ hsign) c hc)
    · exact hdigits c (mem_digitChars h c hc)
  | @based l base cs ds hbase h =>
    have hletters : '0' ∈ integerChars ∧ ∀ p ∈ bases, p.1 ∈ integerChars := by decide
    exact List.forall_mem_cons.2 ⟨hletters.1, List.forall_mem_cons.2
      ⟨hletters.2 _ hbase, fun c hc => hdigits c (mem_digitChars h c hc)⟩⟩

theorem ne_nil_of_spells (h : SpellsInteger i text) : text ≠ [] := by
  cases h with
  | decimal hsign hzero h =>
    obtain ⟨c, d, cs, -, -, rfl⟩ := exists_digit h
    exact List.append_ne_nil_of_right_ne_nil _ (List.cons_ne_nil _ _)
  | based hbase h => exact List.cons_ne_nil _ _

/-- No hyphen stands behind the first character of a whole number. -/
theorem hyphen_notMem (h : SpellsInteger i (c :: cs)) : '-' ∉ cs := by
  have hdigits : '-' ∉ digitChars := by decide
  generalize htext : c :: cs = text at h
  cases h with
  | @decimal negative sign text ds hsign hzero h =>
    have hnotMem : '-' ∉ text := fun hc => hdigits (mem_digitChars h _ hc)
    simp only [signs, List.mem_cons, Prod.mk.injEq, List.not_mem_nil, or_false] at hsign
    rcases hsign with ⟨-, rfl⟩ | ⟨-, rfl⟩ | ⟨-, rfl⟩
    · obtain rfl : c :: cs = text := htext
      exact fun hc => hnotMem (List.mem_cons_of_mem _ hc)
    · obtain ⟨-, rfl⟩ := List.cons.inj htext
      exact hnotMem
    · obtain ⟨-, rfl⟩ := List.cons.inj htext
      exact hnotMem
  | @based l base text ds hbase h =>
    have hletters : ∀ p ∈ bases, p.1 ≠ '-' := by decide
    obtain ⟨-, rfl⟩ := List.cons.inj htext
    intro hc
    rcases List.mem_cons.1 hc with hc | hc
    · exact hletters _ hbase hc.symm
    · exact hdigits (mem_digitChars h _ hc)

/-- A whole number is no date and no time. -/
theorem isMoment_of_spells (h : SpellsInteger i text) : isMoment text = false := by
  have htime : dropTime? text = none := by
    have hcolon : ':' ∉ text := fun hc => absurd (mem_integerChars h _ hc) (by decide)
    have hread : Rfc3339.offsetTemplate.read? text = none := by
      cases hread : Rfc3339.offsetTemplate.read? text with
      | none => rfl
      | some read => exact absurd (Template.mem_of_read? hread (by decide)) hcolon
    rw [dropTime?, dropMinute?, hread]
    rfl
  have hdate : dropDate? text = none := by
    have hread : ActivityStamp.dateTemplate.read? text = none := by
      cases hread : ActivityStamp.dateTemplate.read? text with
      | none => rfl
      | some read =>
        cases text with
        | nil => cases hread
        | cons c cs =>
          obtain ⟨d, -, hread⟩ := Option.bind_eq_some_iff.1 hread
          obtain ⟨read', hread, -⟩ := Option.bind_eq_some_iff.1 hread
          exact absurd (Template.mem_of_read? hread (by decide)) (hyphen_notMem h)
    rw [dropDate?, hread]
  rw [isMoment, hdate, htime]
  rfl

/-- In decimal digits there is nothing but digits and underscores. -/
theorem notMem_of_decimal (h : SpellsDigits 10 ds cs) (hc : digit? 10 c = none) (hgap : c ≠ '_') :
    c ∉ cs := by
  intro hmem
  induction h with
  | one hd hdigit =>
    rw [List.mem_singleton.1 hmem, digit?_of_isHexDigit hd hdigit] at hc
    cases hc
  | next hd hdigit h ih =>
    rcases List.mem_cons.1 hmem with hmem | hmem
    · rw [hmem, digit?_of_isHexDigit hd hdigit] at hc
      cases hc
    · exact ih hmem
  | gap hd hdigit h ih =>
    rcases List.mem_cons.1 hmem with hmem | hmem
    · rw [hmem, digit?_of_isHexDigit hd hdigit] at hc
      cases hc
    · rcases List.mem_cons.1 hmem with hmem | hmem
      · exact hgap hmem
      · exact ih hmem

/-- A sign is told from the digits behind it. -/
theorem unsigned_append {negative : Bool} {sign : List Char} (hsign : (negative, sign) ∈ signs)
    (h : SpellsDigits base ds cs) : unsigned (sign ++ cs) = (negative, cs) := by
  simp only [signs, List.mem_cons, Prod.mk.injEq, List.not_mem_nil, or_false] at hsign
  rcases hsign with ⟨rfl, rfl⟩ | ⟨rfl, rfl⟩ | ⟨rfl, rfl⟩
  · obtain ⟨c, d, cs, -, hc, rfl⟩ := exists_digit h
    have hvalue := Json.hexValue?_of_isHexDigit hc
    rw [List.nil_append, unsigned]
    · rintro cs' ⟨⟩
      cases hvalue
    · rintro cs' ⟨⟩
      cases hvalue
  · rfl
  · rfl

/-- A number with no letter of a base is read as a decimal one. -/
theorem unbounded?_decimal (h : ∀ p ∈ bases, p.1 ∉ text) :
    unbounded? text = (plainDigits? (unsigned text).2).map fun ds =>
      if (unsigned text).1 then -(ofDigits 10 ds : Int) else ofDigits 10 ds := by
  unfold unbounded?
  split
  · exact absurd (by simp) (h ('x', 16) (by decide))
  · exact absurd (by simp) (h ('o', 8) (by decide))
  · exact absurd (by simp) (h ('b', 2) (by decide))
  · rfl

theorem unbounded?_of_spells (h : SpellsInteger i text) : unbounded? text = some i := by
  cases h with
  | @decimal negative sign cs ds hsign hzero h =>
    have hletters : ∀ p ∈ bases, p.1 ∉ sign ++ cs := by
      have hsigns : ∀ s ∈ signs, ∀ p ∈ bases, p.1 ∉ s.2 := by decide
      have hbases : ∀ p ∈ bases, digit? 10 p.1 = none ∧ p.1 ≠ '_' := by decide
      intro p hp hmem
      rcases List.mem_append.1 hmem with hmem | hmem
      · exact hsigns _ hsign p hp hmem
      · exact notMem_of_decimal h (hbases p hp).1 (hbases p hp).2 hmem
    rw [unbounded?_decimal hletters, unsigned_append hsign h, plainDigits?_of_spells h hzero]
    rfl
  | @based l base cs ds hbase h =>
    simp only [bases, List.mem_cons, Prod.mk.injEq, List.not_mem_nil, or_false] at hbase
    rcases hbase with ⟨rfl, rfl⟩ | ⟨rfl, rfl⟩ | ⟨rfl, rfl⟩ <;>
      simp only [unbounded?, digits?_of_spells h, Option.map_some] <;> rfl

theorem integer?_of_spells (h : SpellsInteger i text) :
    integer? text = if InLimits (.integer i) then some i else none := by
  rw [integer?, unbounded?_of_spells h, Option.filter_some]
  exact if_congr (by simp only [InLimits, Bool.and_eq_true, decide_eq_true_eq]) rfl rfl

/-- A whole number has no fraction and no exponent. -/
theorem decimal?_of_spells (h : SpellsInteger i text) : decimal? text = none := by
  cases h with
  | @decimal negative sign cs ds hsign hzero h =>
    have hmark : ∀ c ∈ cs, !isExponentMark c := by
      have hmem : 'e' ∉ cs ∧ 'E' ∉ cs :=
        ⟨notMem_of_decimal h (by decide) (by decide), notMem_of_decimal h (by decide) (by decide)⟩
      intro c hc
      have hne : c ≠ 'e' ∧ c ≠ 'E' :=
        ⟨fun he => hmem.1 (he ▸ hc), fun hE => hmem.2 (hE ▸ hc)⟩
      simp [isExponentMark, hne]
    have hpoint : ∀ c ∈ cs, c != '.' := by
      have hmem : '.' ∉ cs := notMem_of_decimal h (by decide) (by decide)
      intro c hc
      simpa using fun heq : c = '.' => hmem (heq ▸ hc)
    unfold decimal?
    simp only [unsigned_append hsign h, List.takeWhile_eq_self_iff.2 hmark,
      List.dropWhile_eq_nil_iff.2 hmark, List.dropWhile_eq_nil_iff.2 hpoint, List.isEmpty_nil,
      if_true]
    cases plainDigits? (cs.takeWhile (· != '.')) <;> rfl
  | @based l base cs ds hbase h =>
    have hletter : ∀ p ∈ bases, digit? 10 p.1 = none ∧ p.1 ≠ '_' ∧ isExponentMark p.1 = false ∧
        p.1 ≠ '.' := by decide
    obtain ⟨hdigit, hgap, hmark, hpoint⟩ := hletter _ hbase
    have hwhole : ∀ cs, plainDigits? ('0' :: l :: cs) = none := by
      intro cs
      rw [plainDigits?, digits?_cons hgap, digits?_eq_none hdigit]
      rfl
    have hzero : isExponentMark '0' = false := by decide
    have hunsigned : unsigned ('0' :: l :: cs) = (false, '0' :: l :: cs) := rfl
    unfold decimal?
    simp only [hunsigned, List.takeWhile_cons, hzero, hmark, hpoint, hwhole, bne_iff_ne, ne_eq,
      Bool.not_false, if_true, not_false_eq_true, Char.reduceEq]
    rfl

theorem real?_of_spells (h : SpellsInteger i text) : real? text = none := by
  have hword : 'n' ∉ (unsigned text).2 := by
    have hmem : 'n' ∉ text := fun hc => absurd (mem_integerChars h _ hc) (by decide)
    unfold unsigned
    split
    · exact fun hc => hmem (List.mem_cons_of_mem _ hc)
    · exact fun hc => hmem (List.mem_cons_of_mem _ hc)
    · exact hmem
  have hinf : (unsigned text).2 ≠ "inf".toList := fun heq => hword (heq ▸ by decide)
  have hnan : (unsigned text).2 ≠ "nan".toList := fun heq => hword (heq ▸ by decide)
  unfold real?
  simp only [if_neg hinf, if_neg hnan, decimal?_of_spells h, Option.map_none]

/-- **What spells a whole number is read as that number**, if it is within the limits, and
not at all if it is not. -/
theorem ofChars?_integer (h : SpellsInteger i text) :
    ofChars? text = if InLimits (.integer i) then some (.integer i) else none := by
  have htrue : text ≠ "true".toList := by
    rintro rfl
    exact absurd (mem_integerChars h 'r' (by decide)) (by decide)
  have hfalse : text ≠ "false".toList := by
    rintro rfl
    exact absurd (mem_integerChars h 'l' (by decide)) (by decide)
  rw [ofChars?, if_neg htrue, if_neg hfalse, isMoment_of_spells h, integer?_of_spells h,
    real?_of_spells h]
  by_cases hi : InLimits (.integer i)
  · simp [hi]
  · simp [hi]

end Scalar

end Toml

end IdleStop
