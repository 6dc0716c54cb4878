import IdleStop.Text.Digits
import IdleStop.Text.Quoted
import Mathlib.Data.Bool.AllAny
/-!
# Reading quoted text

Whichever characters stand for themselves, a character between quotes takes one of three
forms (`Quoted.Form`): a backslash and a letter, the character itself, or its code point.
What holds of quoted text is read off the forms one by one. None holds a control that
has a letter, nor a quote that no backslash escapes, so a quoted text ends at the first
such quote behind its opening one (`part?_quoteBy`). Each form tells its character and
where it ends, so a text can be read back from its quoted form (`unquote?_quoteBy`), and
different texts are quoted differently (`eq_of_quoteBy_eq`).
-/

namespace IdleStop

namespace Quoted

variable {shown shown' : Char → Bool} {c d : Char} {cs cs' front inner rest form : List Char}
variable {n : Nat}

/-! ## The forms of a character -/

/-- The letters that stand for a character behind a backslash. -/
def shortForms : List (Char × Char) :=
  [('"', '"'), ('\\', '\\'), ('n', '\n'), ('r', '\r'), ('t', '\t'), ('0', '\x00')]

/-- The controls among them: they end a line, move within it or end a text. -/
def layout : List Char :=
  ['\n', '\r', '\t', '\x00']

/-- What may stand for a character between quotes. -/
inductive Form : Char → List Char → Prop
  /-- A backslash and the letter of the character. -/
  | short {l c : Char} (h : (l, c) ∈ shortForms) : Form c ['\\', l]
  /-- The character itself, if it has no letter. -/
  | itself {c : Char} (h : c ∉ shortForms.map Prod.snd) : Form c [c]
  /-- Its code point between braces. -/
  | code (c : Char) : Form c ('\\' :: 'u' :: '\x7b' :: (hexadecimal c.toNat ++ ['\x7d']))

/-- **Each character takes one of the forms**, whichever stand for themselves. -/
theorem form_escape (shown : Char → Bool) (c : Char) : Form c (escape shown c) := by
  by_cases hletter : c ∈ shortForms.map Prod.snd
  · simp only [shortForms, List.map_cons, List.map_nil, List.mem_cons, List.not_mem_nil,
      or_false] at hletter
    rcases hletter with rfl | rfl | rfl | rfl | rfl | rfl <;> exact .short (by decide)
  · have hne : ∀ d ∈ shortForms.map Prod.snd, c ≠ d :=
      fun d hd => (ne_of_mem_of_not_mem hd hletter).symm
    rw [escape, if_neg (hne '"' (by decide)), if_neg (hne '\\' (by decide)),
      if_neg (hne '\n' (by decide)), if_neg (hne '\r' (by decide)), if_neg (hne '\t' (by decide)),
      if_neg (hne '\x00' (by decide))]
    split
    · exact .itself hletter
    · exact .code c

/-- The last digit is what is left when the others are divided off. -/
theorem hexadecimal_eq (n : Nat) :
    hexadecimal n =
      if n < 16 then [n.digitChar] else hexadecimal (n / 16) ++ [(n % 16).digitChar] :=
  Nat.toDigits_eq_if (by decide)

theorem hexValue?_digitChar (h : n < 16) : Digits.hexValue? n.digitChar = some n := by
  have hall : ∀ m < 16, Digits.hexValue? m.digitChar = some m := by decide
  exact hall n h

theorem digitChar_ne (h : n < 16) (hd : Digits.hexValue? d = none) : n.digitChar ≠ d := by
  rintro rfl
  rw [hexValue?_digitChar h] at hd
  cases hd

/-- A code point is written in digits and nothing else. -/
theorem ne_of_mem_hexadecimal (hc : c ∈ hexadecimal n) (hd : Digits.hexValue? d = none) :
    c ≠ d := by
  induction n using Nat.strongRecOn with
  | ind n ih =>
    rw [hexadecimal_eq] at hc
    split at hc
    · next hlt =>
      rw [List.mem_singleton.1 hc]
      exact digitChar_ne hlt hd
    · next hge =>
      rcases List.mem_append.1 hc with hfront | hlast
      · exact ih (n / 16) (by omega) hfront
      · rw [List.mem_singleton.1 hlast]
        exact digitChar_ne (by omega) hd

/-- No form holds a control that has a letter. -/
theorem notMem_layout_of_form (h : Form c form) : ∀ d ∈ form, d ∉ layout := by
  intro d hd
  cases h with
  | @short l c hmem =>
    have hletters : ∀ p ∈ shortForms, p.1 ∉ layout := List.all_iff_forall_prop.1 (by decide)
    simp only [List.mem_cons, List.not_mem_nil, or_false] at hd
    rcases hd with rfl | rfl
    · decide
    · exact hletters _ hmem
  | itself hletter =>
    have hlayout : ∀ d ∈ layout, d ∈ shortForms.map Prod.snd :=
      List.all_iff_forall_prop.1 (by decide)
    rw [List.mem_singleton.1 hd]
    exact fun hmem => hletter (hlayout _ hmem)
  | code c =>
    have hdigits : ∀ d ∈ layout, Digits.hexValue? d = none :=
      List.all_iff_forall_prop.1 (by decide)
    simp only [List.mem_cons, List.mem_append, List.not_mem_nil, or_false] at hd
    rcases hd with rfl | rfl | rfl | hdigit | rfl
    · decide
    · decide
    · decide
    · exact fun hmem => ne_of_mem_hexadecimal hdigit (hdigits d hmem) rfl
    · decide

/-- A quoted text stays on its line. -/
theorem notMem_layout_of_quoteBy (shown : Char → Bool) (cs : List Char) :
    ∀ d ∈ quoteBy shown cs, d ∉ layout := by
  intro d hd
  simp only [quoteBy, List.mem_cons, List.mem_append, List.mem_flatMap, List.not_mem_nil,
    or_false] at hd
  rcases hd with rfl | ⟨c, -, hc⟩ | rfl
  · decide
  · exact notMem_layout_of_form (form_escape shown c) d hc
  · decide

/-! ## Where a quoted text ends -/

/-- A text up to its first quote that no backslash escapes, that quote included, and
what is behind it. A backslash escapes the character behind it; `escaped` tells whether
there is one before the text. -/
def closeFrom (escaped : Bool) : List Char → Option (List Char × List Char)
  | [] => none
  | c :: cs =>
    if !escaped && c = '"' then some ([c], cs)
    else (closeFrom (!escaped && c = '\\') cs).map fun p => (c :: p.1, p.2)

/-- The quoted part of a text, and what is behind it. It goes from the first quote of
the text to the first one behind that which no backslash escapes. -/
def part? (cs : List Char) : Option (List Char × List Char) :=
  match cs.dropWhile (· ≠ '"') with
  | [] => none
  | c :: cs => (closeFrom false cs).map fun p => (c :: p.1, p.2)

/-- The end is not at a character that is neither a quote nor a backslash. -/
theorem closeFrom_cons (hquote : c ≠ '"') (hbackslash : c ≠ '\\')
    (h : closeFrom false cs = some (inner, rest)) :
    closeFrom false (c :: cs) = some (c :: inner, rest) := by
  simp [closeFrom, hquote, hbackslash, h]

/-- Nor is it at a backslash or the character behind it. -/
theorem closeFrom_escaped (h : closeFrom false cs = some (inner, rest)) :
    closeFrom false ('\\' :: c :: cs) = some ('\\' :: c :: inner, rest) := by
  simp [closeFrom, h]

theorem closeFrom_append (hfront : ∀ c ∈ front, c ≠ '"' ∧ c ≠ '\\')
    (h : closeFrom false cs = some (inner, rest)) :
    closeFrom false (front ++ cs) = some (front ++ inner, rest) := by
  induction front with
  | nil => exact h
  | cons c front ih =>
    obtain ⟨⟨hquote, hbackslash⟩, hfront⟩ := List.forall_mem_cons.1 hfront
    exact closeFrom_cons hquote hbackslash (ih hfront)

/-- **The end is not within a form.** -/
theorem closeFrom_form (hform : Form c form) (h : closeFrom false cs = some (inner, rest)) :
    closeFrom false (form ++ cs) = some (form ++ inner, rest) := by
  cases hform with
  | short _ => exact closeFrom_escaped h
  | itself hletter =>
    have hquote : '"' ≠ c := ne_of_mem_of_not_mem (by decide) hletter
    have hbackslash : '\\' ≠ c := ne_of_mem_of_not_mem (by decide) hletter
    exact closeFrom_cons hquote.symm hbackslash.symm h
  | code c =>
    have hclosing : closeFrom false ('\x7d' :: cs) = some ('\x7d' :: inner, rest) :=
      closeFrom_cons (by decide) (by decide) h
    have hdigits : ∀ d ∈ hexadecimal c.toNat, d ≠ '"' ∧ d ≠ '\\' :=
      fun d hd => ⟨ne_of_mem_hexadecimal hd (by decide), ne_of_mem_hexadecimal hd (by decide)⟩
    simp only [List.cons_append, List.append_assoc, List.nil_append]
    -- the backslash escapes the letter, and all that follows is plain
    exact closeFrom_escaped (closeFrom_cons (by decide) (by decide)
      (closeFrom_append hdigits hclosing))

theorem closeFrom_escape (shown : Char → Bool) (cs rest : List Char) :
    closeFrom false (cs.flatMap (escape shown) ++ '"' :: rest) =
      some (cs.flatMap (escape shown) ++ ['"'], rest) := by
  induction cs with
  | nil => rfl
  | cons c cs ih =>
    rw [List.flatMap_cons, List.append_assoc, List.append_assoc]
    exact closeFrom_form (form_escape shown c) ih

/-- **A quoted text is the quoted part of any text in which no quote comes before it.** -/
theorem part?_append (hfront : '"' ∉ front) (cs rest : List Char) :
    part? (front ++ (quoteBy shown cs ++ rest)) = some (quoteBy shown cs, rest) := by
  have hdrop : (front ++ (quoteBy shown cs ++ rest)).dropWhile (· ≠ '"') =
      quoteBy shown cs ++ rest := by
    rw [List.dropWhile_append_of_pos]
    · rfl
    · intro c hc
      exact decide_eq_true fun heq => hfront (heq ▸ hc)
  have hclose := closeFrom_escape shown cs rest
  rw [part?, hdrop, quoteBy]
  simp only [List.cons_append, List.append_assoc, List.nil_append, hclose, Option.map_some]

/-! ## What a quoted text says -/

/-- How far a form has been read. -/
inductive Stage
  /-- There is none begun. -/
  | plain
  /-- The backslash. -/
  | escaped
  /-- The letter of a code point. -/
  | coded
  /-- Some digits of a code point, with their value. -/
  | digits (value : Nat)

/-- What the forms of a text say, when one has been read up to some stage. -/
def unescapeFrom : Stage → List Char → Option (List Char)
  | .plain, [] => some []
  | .plain, c :: cs =>
    if c = '\\' then unescapeFrom .escaped cs else (unescapeFrom .plain cs).map (c :: ·)
  | .escaped, c :: cs =>
    if c = 'u' then unescapeFrom .coded cs
    else
      match shortForms.lookup c with
      | some d => (unescapeFrom .plain cs).map (d :: ·)
      | none => none
  | .coded, c :: cs => if c = '\x7b' then unescapeFrom (.digits 0) cs else none
  | .digits n, c :: cs =>
    if c = '\x7d' then (unescapeFrom .plain cs).map (Char.ofNat n :: ·)
    else
      match Digits.hexValue? c with
      | some d => unescapeFrom (.digits (16 * n + d)) cs
      | none => none
  | _, [] => none

/-- What a quoted text says between its first and its last character. -/
def unquote? (cs : List Char) : Option (List Char) :=
  match cs with
  | [] => none
  | _ :: cs => unescapeFrom .plain cs.dropLast

theorem unescapeFrom_digit {m : Nat} (h : n < 16) (cs : List Char) :
    unescapeFrom (.digits m) (n.digitChar :: cs) = unescapeFrom (.digits (16 * m + n)) cs := by
  rw [unescapeFrom, if_neg (digitChar_ne h (by decide)), hexValue?_digitChar h]

/-- The digits of a code point are read as that. -/
theorem unescapeFrom_hexadecimal (n : Nat) (cs : List Char) :
    unescapeFrom (.digits 0) (hexadecimal n ++ cs) = unescapeFrom (.digits n) cs := by
  induction n using Nat.strongRecOn generalizing cs with
  | ind n ih =>
    rw [hexadecimal_eq]
    split
    · next hlt =>
      rw [List.singleton_append, unescapeFrom_digit hlt, Nat.mul_zero, Nat.zero_add]
    · next hge =>
      have hvalue : 16 * (n / 16) + n % 16 = n := Nat.div_add_mod n 16
      rw [List.append_assoc, ih (n / 16) (by omega), List.singleton_append,
        unescapeFrom_digit (by omega), hvalue]

/-- **A form is read as its character.** -/
theorem unescapeFrom_form (h : Form c form) (cs : List Char) :
    unescapeFrom .plain (form ++ cs) = (unescapeFrom .plain cs).map (c :: ·) := by
  cases h with
  | @short l c hmem =>
    have htable : ∀ p ∈ shortForms, p.1 ≠ 'u' ∧ shortForms.lookup p.1 = some p.2 :=
      List.all_iff_forall_prop.1 (by decide)
    obtain ⟨hletter, hlookup⟩ := htable (l, c) hmem
    simp [unescapeFrom, hletter, hlookup]
  | itself hletter =>
    have hbackslash : '\\' ≠ c := ne_of_mem_of_not_mem (by decide) hletter
    exact if_neg hbackslash.symm
  | code c =>
    have hdigits := unescapeFrom_hexadecimal c.toNat ('\x7d' :: cs)
    simp [unescapeFrom, hdigits]

theorem unescapeFrom_escape (shown : Char → Bool) (cs : List Char) :
    unescapeFrom .plain (cs.flatMap (escape shown)) = some cs := by
  induction cs with
  | nil => rfl
  | cons c cs ih => rw [List.flatMap_cons, unescapeFrom_form (form_escape shown c), ih, Option.map_some]

/-- **What is quoted can be read back.** -/
theorem unquote?_quoteBy (shown : Char → Bool) (cs : List Char) :
    unquote? (quoteBy shown cs) = some cs := by
  rw [quoteBy, unquote?, List.dropLast_concat]
  exact unescapeFrom_escape shown cs

/-- Different texts are quoted differently, even if other characters stand for
themselves. -/
theorem eq_of_quoteBy_eq (h : quoteBy shown cs = quoteBy shown' cs') : cs = cs' := by
  have hread := unquote?_quoteBy shown cs
  rw [h, unquote?_quoteBy, Option.some.injEq] at hread
  exact hread.symm

end Quoted

end IdleStop
