import IdleStop.Proofs.Json.Spelling
import Mathlib.Data.List.Chain
/-!
# Splitting a text that is spelled right

A text is split into the tokens it writes (`Token.scan?_of_spaced`): each
lemma takes the scan from the beginning of a piece to its end, whatever
follows. Only a number does not show its own end. It has to be followed by white
space, by a comma or by a closing bracket, if by anything (`Token.Apart`).
-/

namespace IdleStop

namespace Json

variable {u : Nat} {us us' : Units} {c : Char} {cs word : List Char}

/-! ## Strings are scanned -/

theorem hexValue?_of_isHexDigit {n : Nat} (h : IsHexDigit c n) : Digits.hexValue? c = some n := by
  have hlower : ∀ p ∈ "0123456789abcdef".toList.zipIdx, Digits.hexValue? p.1 = some p.2 := by
    decide
  have hupper : ∀ p ∈ "0123456789ABCDEF".toList.zipIdx, Digits.hexValue? p.1 = some p.2 := by
    decide
  rcases h with h | h
  · exact hlower (c, n) (List.mk_mem_zipIdx_iff_getElem?.2 h)
  · exact hupper (c, n) (List.mk_mem_zipIdx_iff_getElem?.2 h)

namespace Token

/-- A character that finishes no token. -/
theorem scanFrom_cons {s s' : Scan} (h : s.step c = some ([], s')) :
    scanFrom s (c :: cs) = scanFrom s' cs := by
  rw [scanFrom, h]
  exact congrFun Option.map_id_fun' _

/-- A character that finishes one token. -/
theorem scanFrom_cons_token {t : Token} {s s' : Scan} (h : s.step c = some ([t], s')) :
    scanFrom s (c :: cs) = (t :: ·) <$> scanFrom s' cs := by
  rw [scanFrom, h]
  rfl

theorem scanFrom_hex {n left value : Nat} (h : IsHexDigit c n) :
    scanFrom (.hex us (left + 1) value) (c :: cs) =
      scanFrom (.hex us left (16 * value + n)) cs :=
  scanFrom_cons (by simp [Scan.step, hexValue?_of_isHexDigit h])

theorem scanFrom_hex_last {n value : Nat} (h : IsHexDigit c n) :
    scanFrom (.hex us 0 value) (c :: cs) = scanFrom (.string ((16 * value + n) :: us)) cs :=
  scanFrom_cons (by simp [Scan.step, hexValue?_of_isHexDigit h])

/-- What stands for a code point is read as that code point. -/
theorem scanFrom_spellsOne (h : Units.SpellsOne u word) :
    scanFrom (.string us) (word ++ cs) = scanFrom (.string (u :: us)) cs := by
  cases h with
  | @plain c h =>
    simp only [Units.isPlain, Bool.and_eq_true, decide_eq_true_eq, bne_iff_ne] at h
    obtain ⟨⟨hcontrol, hquote⟩, hbackslash⟩ := h
    refine scanFrom_cons ?_
    rw [Scan.step, if_neg hquote, if_neg hbackslash, if_neg (Nat.not_lt.2 hcontrol)]
  | @short c u h =>
    have hletter : ∀ p ∈ Units.shortEscapes, p.1 ≠ 'u' ∧ Scan.escaped? p.1 = some p.2 := by decide
    obtain ⟨hu, hescaped⟩ := hletter _ h
    change scanFrom _ ('\\' :: c :: cs) = _
    have hstep : (Scan.escape us).step c = some ([], .string (u :: us)) := by
      rw [Scan.step, if_neg hu, hescaped]
      rfl
    rw [scanFrom_cons (show (Scan.string us).step '\\' = some ([], .escape us) from rfl),
      scanFrom_cons hstep]
  | @hex c₁ c₂ c₃ c₄ d₁ d₂ d₃ d₄ h₁ h₂ h₃ h₄ =>
    have hvalue : 16 * (16 * (16 * (16 * 0 + d₁) + d₂) + d₃) + d₄ =
        ((d₁ * 16 + d₂) * 16 + d₃) * 16 + d₄ := by omega
    change scanFrom _ ('\\' :: 'u' :: c₁ :: c₂ :: c₃ :: c₄ :: cs) = _
    rw [scanFrom_cons (show (Scan.string us).step '\\' = some ([], .escape us) from rfl),
      scanFrom_cons (show (Scan.escape us).step 'u' = some ([], .hex us 3 0) from rfl),
      scanFrom_hex h₁, scanFrom_hex h₂, scanFrom_hex h₃, scanFrom_hex_last h₄, hvalue]

/-- What stands between quotes is read as the code points it spells. -/
theorem scanFrom_unitsSpells (h : us'.Spells word) :
    scanFrom (.string us) (word ++ '"' :: cs) =
      (.string (us.reverse ++ us') :: ·) <$> scanFrom .blank cs := by
  induction h generalizing us with
  | nil =>
    rw [List.append_nil]
    exact scanFrom_cons_token rfl
  | @cons u us' one rest hone _ ih =>
    rw [List.append_assoc, scanFrom_spellsOne hone, ih, List.reverse_cons, List.append_assoc,
      List.singleton_append]

/-! ## Numbers are scanned -/

variable {part part' : NumberPart} {read read' : Literal}

/-- A character that goes on a number. -/
theorem scanFrom_extend (h : Scan.extend part read c = some (part', read')) :
    scanFrom (.number part read) (c :: cs) = scanFrom (.number part' read') cs :=
  scanFrom_cons (by rw [Scan.step, h])

/-- Digits go on a number, where one of them does. -/
theorem scanFrom_digits {f : List Nat → Literal} {ds acc : List Nat}
    (hf : ∀ d < 10, ∀ acc, Scan.extend part (f acc) (Digits.toChar d) = some (part, f (d :: acc)))
    (hds : ∀ d ∈ ds, d < 10) :
    scanFrom (.number part (f acc)) (Literal.digits ds ++ cs) =
      scanFrom (.number part (f (ds.reverse ++ acc))) cs := by
  induction ds generalizing acc with
  | nil => rfl
  | cons d ds ih =>
    obtain ⟨hd, hds⟩ := List.forall_mem_cons.1 hds
    change scanFrom _ (_ :: (Literal.digits ds ++ cs)) = _
    rw [scanFrom_extend (hf d hd acc), ih hds, List.reverse_cons, List.append_assoc,
      List.singleton_append]

/-- The first digit, and the sign before it, if there is one. -/
theorem scanFrom_first {d : Nat} (negative : Bool)
    (hplain : Scan.start c = some ([], .number part ⟨false, [d], [], none⟩))
    (hsigned : Scan.extend .sign ⟨true, [], [], none⟩ c = some (part, ⟨true, [d], [], none⟩)) :
    scanFrom .blank ((if negative then ['-'] else []) ++ c :: cs) =
      scanFrom (.number part ⟨negative, [d], [], none⟩) cs := by
  cases negative with
  | false => exact scanFrom_cons hplain
  | true =>
    have hsign : Scan.step '-' .blank = some ([], .number .sign ⟨true, [], [], none⟩) := rfl
    change scanFrom .blank ('-' :: c :: cs) = _
    rw [scanFrom_cons hsign, scanFrom_extend hsigned]

/-- A digit that is not zero begins a number, also behind a sign. -/
theorem start_positive {d : Nat} (hd : d < 10) (hpos : 0 < d) :
    Scan.start (Digits.toChar d) = some ([], .number .whole ⟨false, [d], [], none⟩) ∧
      Scan.extend .sign ⟨true, [], [], none⟩ (Digits.toChar d) =
        some (.whole, ⟨true, [d], [], none⟩) := by
  rcases d with _ | _ | _ | _ | _ | _ | _ | _ | _ | _ | d <;>
    first | exact ⟨rfl, rfl⟩ | omega

/-- The digits before the point. -/
theorem scanFrom_spellsWhole {ds : List Nat} (h : Literal.SpellsWhole ds word) (negative : Bool) :
    ∃ part, (part = .zero ∨ part = .whole) ∧ ∀ cs,
      scanFrom .blank ((if negative then ['-'] else []) ++ (word ++ cs)) =
        scanFrom (.number part ⟨negative, ds.reverse, [], none⟩) cs := by
  cases h with
  | zero => exact ⟨.zero, Or.inl rfl, fun _ => scanFrom_first negative rfl rfl⟩
  | @positive d ds hpos hds =>
    obtain ⟨hd, hds⟩ := List.forall_mem_cons.1 hds
    obtain ⟨hplain, hsigned⟩ := start_positive hd hpos
    refine ⟨.whole, Or.inr rfl, fun cs => ?_⟩
    change scanFrom .blank (_ ++ Digits.toChar d :: (Literal.digits ds ++ cs)) = _
    rw [scanFrom_first negative hplain hsigned,
      scanFrom_digits (f := fun acc => ⟨negative, acc, [], none⟩) _ hds, List.reverse_cons]
    intro d hd acc
    simp [Scan.extend, Digits.value?_toChar hd]

/-- The point and the digits after it. -/
theorem scanFrom_spellsFraction {ds : List Nat} (h : Literal.SpellsFraction ds word)
    (hpart : part = .zero ∨ part = .whole) (negative : Bool) (whole : List Nat) :
    ∃ part', (part' = .zero ∨ part' = .whole ∨ part' = .fraction) ∧ ∀ cs,
      scanFrom (.number part ⟨negative, whole, [], none⟩) (word ++ cs) =
        scanFrom (.number part' ⟨negative, whole, ds.reverse, none⟩) cs := by
  cases h with
  | none => exact ⟨part, hpart.imp_right Or.inl, fun _ => rfl⟩
  | @some d ds hds =>
    refine ⟨.fraction, Or.inr (Or.inr rfl), fun cs => ?_⟩
    obtain ⟨hd, hds⟩ := List.forall_mem_cons.1 hds
    have hpoint : Scan.extend part ⟨negative, whole, [], none⟩ '.' =
        some (.point, ⟨negative, whole, [], none⟩) := by
      rcases hpart with rfl | rfl <;> rfl
    have hdigit : Scan.extend .point ⟨negative, whole, [], none⟩ (Digits.toChar d) =
        some (.fraction, ⟨negative, whole, [d], none⟩) := by
      simp [Scan.extend, Digits.value?_toChar hd]
    change scanFrom _ ('.' :: Digits.toChar d :: (Literal.digits ds ++ cs)) = _
    rw [scanFrom_extend hpoint, scanFrom_extend hdigit,
      scanFrom_digits (f := fun acc => ⟨negative, whole, acc, none⟩) _ hds, List.reverse_cons]
    intro d hd acc
    simp [Scan.extend, Digits.value?_toChar hd]

/-- The first digit of an exponent, and the sign before it, if there is one. -/
theorem scanFrom_exponentFirst {below : Bool} {sign : List Char} {d : Nat} (negative : Bool)
    (whole fraction : List Nat) (hsign : (below, sign) ∈ Literal.exponentSigns) (hd : d < 10) :
    scanFrom (.number .mark ⟨negative, whole, fraction, none⟩) (sign ++ Digits.toChar d :: cs) =
      scanFrom (.number .exponent ⟨negative, whole, fraction, some (below, [d])⟩) cs := by
  have hunsigned : Scan.extend .mark ⟨negative, whole, fraction, none⟩ (Digits.toChar d) =
      some (.exponent, ⟨negative, whole, fraction, some (false, [d])⟩) := by
    simp [Scan.extend, Digits.value?_toChar hd]
  have hsigned : ∀ b, Scan.extend .exponentSign ⟨negative, whole, fraction, some (b, [])⟩
      (Digits.toChar d) = some (.exponent, ⟨negative, whole, fraction, some (b, [d])⟩) := by
    simp [Scan.extend, Digits.value?_toChar hd]
  simp only [Literal.exponentSigns, List.mem_cons, Prod.mk.injEq, List.not_mem_nil,
    or_false] at hsign
  rcases hsign with ⟨rfl, rfl⟩ | ⟨rfl, rfl⟩ | ⟨rfl, rfl⟩
  · exact scanFrom_extend hunsigned
  · exact (scanFrom_extend rfl).trans (scanFrom_extend (hsigned false))
  · exact (scanFrom_extend rfl).trans (scanFrom_extend (hsigned true))

/-- The exponent. -/
theorem scanFrom_spellsExponent {exponent : Option (Bool × List Nat)}
    (h : Literal.SpellsExponent exponent word)
    (hpart : part = .zero ∨ part = .whole ∨ part = .fraction) (negative : Bool)
    (whole fraction : List Nat) :
    ∃ part', Scan.complete part' = true ∧ ∀ cs,
      scanFrom (.number part ⟨negative, whole, fraction, none⟩) (word ++ cs) =
        scanFrom (.number part' ⟨negative, whole, fraction,
          exponent.map fun (negative, ds) => (negative, ds.reverse)⟩) cs := by
  cases h with
  | none =>
    refine ⟨part, ?_, fun _ => rfl⟩
    rcases hpart with rfl | rfl | rfl <;> rfl
  | @some mark below sign d ds hmark hsign hds =>
    refine ⟨.exponent, rfl, fun cs => ?_⟩
    obtain ⟨hd, hds⟩ := List.forall_mem_cons.1 hds
    have hletter : Scan.extend part ⟨negative, whole, fraction, none⟩ mark =
        some (.mark, ⟨negative, whole, fraction, none⟩) := by
      rcases hpart with rfl | rfl | rfl <;> rcases hmark with rfl | rfl <;> rfl
    have hcs : mark :: (sign ++ Literal.digits (d :: ds)) ++ cs =
        mark :: (sign ++ Digits.toChar d :: (Literal.digits ds ++ cs)) := by
      simp [Literal.digits]
    rw [hcs, scanFrom_extend hletter, scanFrom_exponentFirst negative whole fraction hsign hd,
      scanFrom_digits (f := fun acc => ⟨negative, whole, fraction, some (below, acc)⟩) _ hds,
      ← List.reverse_cons]
    · rfl
    · intro d hd acc
      simp [Scan.extend, Digits.value?_toChar hd]

/-- A number cannot go on with a text. -/
def StopsNumber (cs : List Char) : Prop :=
  ∀ c, cs.head? = some c → Digits.value? c = none ∧ c ≠ '.' ∧ c ≠ 'e' ∧ c ≠ 'E'

/-- A number that may end where it has been read to ends where it cannot go on. -/
theorem scanFrom_complete (hpart : Scan.complete part = true) (hcs : StopsNumber cs) :
    scanFrom (.number part read) cs =
      (.number (Scan.finished read) :: ·) <$> scanFrom .blank cs := by
  cases cs with
  | nil =>
    rw [scanFrom, Scan.finish, if_pos hpart]
    rfl
  | cons c cs =>
    obtain ⟨hdigit, hpoint, he, hE⟩ := hcs c rfl
    have hstuck : Scan.extend part read c = none := by
      cases part with
      | zero | whole | fraction | exponent => simp [Scan.extend, hdigit, hpoint, he, hE]
      | sign | point | mark | exponentSign => cases hpart
    simp only [scanFrom, Scan.step, hstuck, if_pos hpart]
    cases Scan.start c with
    | none => rfl
    | some p => simp [Function.comp_def]

/-- What stands for a number is read as that number, where it cannot go on. -/
theorem scanFrom_literalSpells {l : Literal} (h : l.Spells word) (hcs : StopsNumber cs) :
    scanFrom .blank (word ++ cs) = (.number l :: ·) <$> scanFrom .blank cs := by
  obtain @⟨negative, whole, fraction, exponent, w, f, e, hwhole, hfraction, hexponent⟩ := h
  obtain ⟨part, hpart, hw⟩ := scanFrom_spellsWhole hwhole negative
  obtain ⟨part', hpart', hf⟩ := scanFrom_spellsFraction hfraction hpart negative whole.reverse
  obtain ⟨part'', hpart'', he⟩ :=
    scanFrom_spellsExponent hexponent hpart' negative whole.reverse fraction.reverse
  have hfinished : Scan.finished ⟨negative, whole.reverse, fraction.reverse,
      exponent.map fun (negative, ds) => (negative, ds.reverse)⟩ =
        ⟨negative, whole, fraction, exponent⟩ := by
    cases exponent <;> simp [Scan.finished]
  rw [List.append_assoc, List.append_assoc, List.append_assoc, hw, hf, he,
    scanFrom_complete hpart'' hcs, hfinished]

/-! ## Tokens are scanned -/

variable {t : Token} {ts : List Token} {ws : List Char}

/-- White space before a token is passed over. -/
theorem scanFrom_isBlank (hws : IsBlank ws) : scanFrom .blank (ws ++ cs) = scanFrom .blank cs := by
  induction ws with
  | nil => rfl
  | cons c ws ih =>
    obtain ⟨hc, hws⟩ := List.forall_mem_cons.1 hws
    have hstep : Scan.step c .blank = some ([], .blank) := by
      rcases hc with rfl | rfl | rfl | rfl <;> rfl
    rw [List.cons_append, scanFrom_cons hstep, ih hws]

/-- The letters of a word are read one by one. -/
theorem scanFrom_word (l : Char) (ls : List Char) :
    scanFrom (.word (l :: ls) t) (l :: ls ++ cs) = (t :: ·) <$> scanFrom .blank cs := by
  induction ls generalizing l with
  | nil => exact scanFrom_cons_token (by rw [Scan.step, if_pos rfl])
  | cons l' ls ih =>
    have hstep : Scan.step l (.word (l :: l' :: ls) t) = some ([], .word (l' :: ls) t) := by
      rw [Scan.step, if_pos rfl]
      exact nofun
    exact (scanFrom_cons hstep).trans (ih l')

/-- What stands for a token is read as that token. -/
theorem scanFrom_spells (h : t.Spells word) (hcs : ∀ l, t = .number l → StopsNumber cs) :
    scanFrom .blank (word ++ cs) = (t :: ·) <$> scanFrom .blank cs := by
  cases t with
  | openArray | closeArray | openObject | closeObject | colon | comma =>
    obtain rfl := h
    exact scanFrom_cons_token rfl
  | null =>
    obtain rfl := h
    exact (scanFrom_cons rfl).trans (scanFrom_word 'u' ['l', 'l'])
  | bool b =>
    obtain rfl := h
    cases b with
    | true => exact (scanFrom_cons rfl).trans (scanFrom_word 'r' ['u', 'e'])
    | false => exact (scanFrom_cons rfl).trans (scanFrom_word 'a' ['l', 's', 'e'])
  | string us =>
    obtain ⟨inner, hinner, rfl⟩ := h
    change scanFrom _ ('"' :: (inner ++ ['"'] ++ cs)) = _
    rw [scanFrom_cons (show Scan.step '"' .blank = some ([], .string []) from rfl),
      List.append_assoc]
    exact scanFrom_unitsSpells hinner
  | number l => exact scanFrom_literalSpells h (hcs l rfl)

/-- A token that can follow a number. -/
def EndsNumber (t : Token) : Prop :=
  t = comma ∨ t = closeArray ∨ t = closeObject

/-- Each number is followed by a token that can follow it, if by any. -/
def Apart (ts : List Token) : Prop :=
  ts.IsChain fun t t' => ∀ l, t = number l → EndsNumber t'

/-- A number stops before white space and before a token that can follow it. -/
theorem Spaced.stopsNumber (h : Spaced ts cs) (hts : ∀ t ∈ ts.head?, EndsNumber t) :
    StopsNumber cs := by
  have hblank : ∀ {c}, c = ' ' ∨ c = '\t' ∨ c = '\n' ∨ c = '\r' →
      Digits.value? c = none ∧ c ≠ '.' ∧ c ≠ 'e' ∧ c ≠ 'E' := by
    rintro c (rfl | rfl | rfl | rfl) <;> decide
  intro c hc
  cases h with
  | nil hws => exact hblank (hws c (List.mem_of_mem_head? hc))
  | @cons t ts ws word cs hws hword _ =>
    cases ws with
    | cons b ws =>
      obtain rfl : b = c := Option.some.inj hc
      exact hblank (hws b List.mem_cons_self)
    | nil =>
      rcases hts t rfl with rfl | rfl | rfl <;> obtain rfl := hword <;>
        obtain rfl := Option.some.inj hc <;> decide

/-- **A text is split into the tokens it writes.** -/
theorem scan?_of_spaced (h : Spaced ts cs) (hts : Apart ts) : scan? cs = some ts := by
  rw [scan?]
  induction h with
  | nil hws =>
    have hscan : scanFrom .blank (_ ++ []) = _ := scanFrom_isBlank hws
    rwa [List.append_nil] at hscan
  | @cons t ts ws word cs hws hword hrest ih =>
    obtain ⟨hhead, htail⟩ := List.isChain_cons.1 hts
    rw [scanFrom_isBlank hws,
      scanFrom_spells hword fun l hl => hrest.stopsNumber fun t' ht' => hhead t' ht' l hl, ih htail]
    rfl

end Token

end Json

end IdleStop
