import IdleStop.Proofs.Text.Template
import IdleStop.Proofs.Text.Utf8
import Mathlib.Data.List.Lex
/-!
# Fixed-width texts in order

Numbers over the same count of digits are ordered as their digits are, digit by
digit (`Digits.fixed_lt_fixed_iff`), and rows of such numbers stretch by stretch
(`lt_append_iff`). A template keeps that order for the bytes of its text, for its
marks are the same in every text (`Template.bytes_lt_iff`).
-/

namespace IdleStop

/-- Behind stretches of one length, what follows decides only if they are the
same. -/
theorem lt_append_iff {α : Type} [LT α] {as as' bs bs' : List α} (h : as.length = as'.length) :
    as ++ bs < as' ++ bs' ↔ as < as' ∨ as = as' ∧ bs < bs' := by
  induction as generalizing as' with
  | nil =>
    obtain rfl := List.length_eq_zero_iff.1 h.symm
    simp
  | cons a as ih =>
    cases as' with
    | nil => cases h
    | cons a' as' =>
      rw [List.cons_append, List.cons_append, List.cons_lt_cons_iff, List.cons_lt_cons_iff,
        ih (Nat.succ.inj h), List.cons.injEq]
      tauto

namespace Digits

variable {w n n' d d' : Nat}

theorem fixed_inj (hn : n < Nat.pow 10 w) (hn' : n' < Nat.pow 10 w) :
    fixed w n = fixed w n' ↔ n = n' := by
  constructor
  · intro h
    have hvalue := congrArg toNat h
    rwa [toNat_fixed, toNat_fixed, Nat.mod_eq_of_lt hn, Nat.mod_eq_of_lt hn'] at hvalue
  · rintro rfl
    rfl

/-- **Over the same count of digits, numbers are ordered digit by digit.** -/
theorem fixed_lt_fixed_iff (hn : n < Nat.pow 10 w) (hn' : n' < Nat.pow 10 w) :
    fixed w n < fixed w n' ↔ n < n' := by
  induction w generalizing n n' with
  | zero =>
    have hzero : n = 0 := Nat.lt_one_iff.1 hn
    have hzero' : n' = 0 := Nat.lt_one_iff.1 hn'
    subst hzero hzero'
    simp
  | succ w ih =>
    have hpow : Nat.pow 10 (w + 1) = 10 * Nat.pow 10 w := Nat.mul_comm _ _
    rw [hpow] at hn hn'
    have hinit : n / 10 < Nat.pow 10 w := by omega
    have hinit' : n' / 10 < Nat.pow 10 w := by omega
    have hlast : [n % 10] < [n' % 10] ↔ n % 10 < n' % 10 := by simp [List.cons_lt_cons_iff]
    rw [fixed, fixed, lt_append_iff (by simp), ih hinit hinit', fixed_inj hinit hinit', hlast]
    omega

/-- Behind two numbers over the same count of digits, what follows decides only if
they are equal. -/
theorem fixed_append_lt_iff {ds ds' : List Nat} (hn : n < Nat.pow 10 w) (hn' : n' < Nat.pow 10 w) :
    fixed w n ++ ds < fixed w n' ++ ds' ↔ n < n' ∨ n = n' ∧ ds < ds' := by
  rw [lt_append_iff (by simp), fixed_lt_fixed_iff hn hn', fixed_inj hn hn']

theorem utf8EncodeChar_toChar (h : d < 10) :
    String.utf8EncodeChar (toChar d) = [UInt8.ofNat (48 + d)] := by
  rcases d with _ | _ | _ | _ | _ | _ | _ | _ | _ | _ | d <;> first | rfl | omega

/-- The bytes of digits are ordered as the digits are. -/
theorem byte_lt_iff (h : d < 10) (h' : d' < 10) :
    UInt8.ofNat (48 + d) < UInt8.ofNat (48 + d') ↔ d < d' := by
  rw [UInt8.lt_iff_toNat_lt, Utf8.toNat_ofNat (by omega), Utf8.toNat_ofNat (by omega)]
  omega

theorem byte_inj (h : d < 10) (h' : d' < 10) :
    UInt8.ofNat (48 + d) = UInt8.ofNat (48 + d') ↔ d = d' := by
  rw [← UInt8.toNat_inj, Utf8.toNat_ofNat (by omega), Utf8.toNat_ofNat (by omega)]
  omega

end Digits

namespace Template

variable {t : Template} {ds ds' : List Nat}

/-- The bytes of a template with some digits in it. -/
def bytes (t : Template) (ds : List Nat) : List UInt8 :=
  (t.write ds).flatMap String.utf8EncodeChar

theorem bytes_mark (m : Char) (t : Template) (ds : List Nat) :
    bytes (.mark m :: t) ds = String.utf8EncodeChar m ++ bytes t ds :=
  rfl

theorem bytes_digit (t : Template) {d : Nat} (hd : d < 10) (ds : List Nat) :
    bytes (.digit :: t) (d :: ds) = UInt8.ofNat (48 + d) :: bytes t ds := by
  rw [bytes, write, List.flatMap_cons, Digits.utf8EncodeChar_toChar hd]
  rfl

/-- Where each mark is one byte, there is one for each position. -/
theorem length_bytes (hmarks : ∀ m, .mark m ∈ t → (String.utf8EncodeChar m).length = 1)
    (hlen : ds.length = t.digitCount) (hlt : ∀ d ∈ ds, d < 10) :
    (t.bytes ds).length = t.length := by
  induction t generalizing ds with
  | nil => rfl
  | cons s t ih =>
    have hmarks' := fun m hm => hmarks m (List.mem_cons_of_mem s hm)
    cases s with
    | digit =>
      cases ds with
      | nil => simp [digitCount] at hlen
      | cons d ds =>
        obtain ⟨hd, hlt⟩ := List.forall_mem_cons.1 hlt
        rw [bytes_digit t hd, List.length_cons, List.length_cons,
          ih hmarks' (by simpa [digitCount] using hlen) hlt]
    | mark m =>
      rw [bytes_mark, List.length_append, hmarks m List.mem_cons_self, List.length_cons,
        ih hmarks' (by simpa [digitCount] using hlen) hlt, Nat.add_comm]

/-- **Texts of one template are ordered by their bytes as by their digits.** -/
theorem bytes_lt_iff (hlen : ds.length = t.digitCount) (hlt : ∀ d ∈ ds, d < 10)
    (hlen' : ds'.length = t.digitCount) (hlt' : ∀ d ∈ ds', d < 10) :
    t.bytes ds < t.bytes ds' ↔ ds < ds' := by
  induction t generalizing ds ds' with
  | nil =>
    obtain rfl := List.length_eq_zero_iff.1 hlen
    obtain rfl := List.length_eq_zero_iff.1 hlen'
    simp [bytes, write]
  | cons s t ih =>
    cases s with
    | digit =>
      cases ds with
      | nil => simp [digitCount] at hlen
      | cons d ds =>
        cases ds' with
        | nil => simp [digitCount] at hlen'
        | cons d' ds' =>
          obtain ⟨hd, hlt⟩ := List.forall_mem_cons.1 hlt
          obtain ⟨hd', hlt'⟩ := List.forall_mem_cons.1 hlt'
          have hrest := ih (by simpa [digitCount] using hlen) hlt
            (by simpa [digitCount] using hlen') hlt'
          rw [bytes_digit t hd, bytes_digit t hd', List.cons_lt_cons_iff, List.cons_lt_cons_iff,
            hrest, Digits.byte_lt_iff hd hd', Digits.byte_inj hd hd']
    | mark m =>
      have hrest := ih (by simpa [digitCount] using hlen) hlt
        (by simpa [digitCount] using hlen') hlt'
      rw [bytes_mark, bytes_mark, lt_append_iff rfl, hrest]
      simp [List.lt_irrefl]

/-- A template has different texts for different digits. -/
theorem bytes_inj (hlen : ds.length = t.digitCount) (hlt : ∀ d ∈ ds, d < 10)
    (hlen' : ds'.length = t.digitCount) (hlt' : ∀ d ∈ ds', d < 10) :
    t.bytes ds = t.bytes ds' ↔ ds = ds' := by
  refine ⟨fun h => ?_, fun h => h ▸ rfl⟩
  rcases lt_trichotomy ds ds' with hless | heq | hgreater
  · rw [← bytes_lt_iff hlen hlt hlen' hlt', h] at hless
    exact absurd hless (List.lt_irrefl _)
  · exact heq
  · rw [← bytes_lt_iff hlen' hlt' hlen hlt, h] at hgreater
    exact absurd hgreater (List.lt_irrefl _)

end Template

end IdleStop
