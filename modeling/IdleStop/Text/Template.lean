import IdleStop.Text.Digits
/-!
# Fixed-width templates

A template lists the positions of a fixed-width text: each is a digit or
one certain character. Reading a text by a template and writing digits
into it are inverse to each other (`read?_write`, `eq_write_of_read?`), so
a template has one text for each row of digits.
-/

namespace IdleStop

/-- One position of a fixed-width text. -/
inductive Slot
  /-- Any ASCII digit. -/
  | digit
  /-- This character and no other. -/
  | mark (c : Char)
  deriving DecidableEq, Repr

/-- The positions of a fixed-width text, in order. -/
abbrev Template := List Slot

namespace Template

/-- The number of digits a template asks for. -/
def digitCount (t : Template) : Nat :=
  t.countP (· = .digit)

/-- The digits at the front of a text that fits the template, and what
follows them. -/
def read? : Template → List Char → Option (List Nat × List Char)
  | [], cs => some ([], cs)
  | .digit :: t, c :: cs => do
      let d ← Digits.value? c
      let (ds, rest) ← read? t cs
      return (d :: ds, rest)
  | .mark m :: t, c :: cs => if c = m then read? t cs else none
  | _ :: _, [] => none

/-- The text of a template with these digits in its digit positions. -/
def write : Template → List Nat → List Char
  | [], _ => []
  | .digit :: t, d :: ds => Digits.toChar d :: write t ds
  | .digit :: t, [] => '0' :: write t []
  | .mark m :: t, ds => m :: write t ds

theorem read?_write {t : Template} {ds : List Nat} (rest : List Char)
    (hlen : ds.length = t.digitCount) (hlt : ∀ d ∈ ds, d < 10) :
    t.read? (t.write ds ++ rest) = some (ds, rest) := by
  induction t generalizing ds with
  | nil => simp_all [digitCount, read?, write]
  | cons s t ih =>
    cases s with
    | digit =>
      cases ds with
      | nil => simp [digitCount] at hlen
      | cons d ds =>
        have hd : Digits.value? (Digits.toChar d) = some d :=
          Digits.value?_toChar (hlt d (by simp))
        have hrest : read? t (write t ds ++ rest) = some (ds, rest) :=
          ih (by simpa [digitCount] using hlen) (fun x hx => hlt x (by simp [hx]))
        simp [read?, write, hd, hrest]
    | mark m =>
      have hrest : read? t (write t ds ++ rest) = some (ds, rest) :=
        ih (by simpa [digitCount] using hlen) hlt
      simp [read?, write, hrest]

theorem eq_write_of_read? {t : Template} {cs rest : List Char} {ds : List Nat}
    (h : t.read? cs = some (ds, rest)) :
    cs = t.write ds ++ rest ∧ ds.length = t.digitCount ∧ ∀ d ∈ ds, d < 10 := by
  induction t generalizing cs ds with
  | nil =>
    simp only [read?, Option.some.injEq, Prod.mk.injEq] at h
    obtain ⟨rfl, rfl⟩ := h
    simp [write, digitCount]
  | cons s t ih =>
    cases cs with
    | nil => cases s <;> simp [read?] at h
    | cons c cs =>
      cases s with
      | digit =>
        simp only [read?, Option.bind_eq_bind, Option.bind_eq_some_iff, Option.pure_def,
          Option.some.injEq, Prod.mk.injEq, Prod.exists] at h
        obtain ⟨d, hd, es, r, hr, rfl, rfl⟩ := h
        obtain ⟨hcs, hlen, hlt⟩ := ih hr
        refine ⟨?_, ?_, ?_⟩
        · simp [write, Digits.toChar_of_value? hd, ← hcs]
        · simpa [digitCount] using hlen
        · intro x hx
          rcases List.mem_cons.1 hx with rfl | hx
          · exact Digits.lt_ten_of_value? hd
          · exact hlt x hx
      | mark m =>
        simp only [read?] at h
        split at h
        · next hm =>
          obtain ⟨hcs, hlen, hlt⟩ := ih h
          refine ⟨?_, ?_, hlt⟩
          · simp [write, hm, ← hcs]
          · simpa [digitCount] using hlen
        · cases h

end Template

end IdleStop
