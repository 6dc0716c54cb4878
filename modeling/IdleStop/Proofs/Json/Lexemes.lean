import IdleStop.Proofs.Json.Spelling
/-!
# The text that tokens are read from

Splitting a text takes nothing for a token that does not write it
(`Token.spaced_of_scan?`). At every point of the scan, the text before it is cut
into the finished tokens and what was read of the one that is not finished
(`Scan.HasRead`). The next character leaves the text so cut
(`Scan.HasRead.step`), and so does a whole run of characters.
-/

namespace IdleStop

namespace Json

variable {c : Char} {cs ws before : List Char}

/-! ## Rows of tokens -/

namespace Token

variable {ts ts' : List Token}

theorem isBlank_nil : IsBlank [] :=
  List.forall_mem_nil _

/-- White space may stand before any row of tokens. -/
theorem Spaced.blank_append (hws : IsBlank ws) (h : Spaced ts cs) : Spaced ts (ws ++ cs) := by
  have happend : ∀ {ws'}, IsBlank ws' → IsBlank (ws ++ ws') := by
    intro ws' hws'
    exact List.forall_mem_append.2 ⟨hws, hws'⟩
  cases h with
  | nil hws' => exact .nil (happend hws')
  | cons hws' hword hrest =>
    rw [← List.append_assoc]
    exact .cons (happend hws') hword hrest

/-- Texts that write rows of tokens write them one after the other. -/
theorem Spaced.append {cs' : List Char} (h : Spaced ts cs) (h' : Spaced ts' cs') :
    Spaced (ts ++ ts') (cs ++ cs') := by
  induction h with
  | nil hws => exact h'.blank_append hws
  | cons hws hword _ ih =>
    rw [List.append_assoc, List.append_assoc]
    exact .cons hws hword ih

/-- One token with white space before it. -/
theorem spaced_singleton {t : Token} {word : List Char} (hws : IsBlank ws) (h : t.Spells word) :
    Spaced [t] (ws ++ word) := by
  have hnil : Spaced [] [] := .nil isBlank_nil
  have hword := Spaced.cons hws h hnil
  rwa [List.append_nil] at hword

end Token

/-! ## Strings -/

theorem isHexDigit_of_hexValue? {n : Nat} (h : Digits.hexValue? c = some n) : IsHexDigit c n := by
  have htable : ∀ k < 103, ∀ n ∈ Digits.hexValue? (Char.ofNat k),
      "0123456789abcdef".toList[n]? = some (Char.ofNat k) ∨
        "0123456789ABCDEF".toList[n]? = some (Char.ofNat k) := by decide +kernel
  -- no digit comes after the letter `f`
  have hlt : c.toNat < 103 := by
    unfold Digits.hexValue? at h
    grind
  have hdigit := htable c.toNat hlt
  rw [Char.ofNat_toNat] at hdigit
  exact hdigit n h

namespace Units

variable {us : Units} {u : Nat}

theorem spells_concat {one : List Char} (h : us.Spells cs) (hone : SpellsOne u one) :
    Spells (us ++ [u]) (cs ++ one) := by
  induction h with
  | nil =>
    have hu : Spells [u] (one ++ []) := .cons hone .nil
    rwa [List.append_nil] at hu
  | cons hone' _ ih =>
    rw [List.append_assoc]
    exact .cons hone' ih

/-- What the letter of an escape stands for. -/
theorem spellsOne_of_escaped? (h : Scan.escaped? c = some u) : SpellsOne u ['\\', c] := by
  refine .short ?_
  unfold Scan.escaped? at h
  split at h <;> first | (obtain rfl := Option.some.inj h; decide) | cases h

end Units

/-! ## Numbers -/

namespace Literal

variable {ds : List Nat} {d : Nat} {word : List Char}

theorem digits_concat (ds : List Nat) (d : Nat) :
    digits (ds ++ [d]) = digits ds ++ [Digits.toChar d] :=
  List.map_append

theorem lt_ten_concat (hds : ∀ e ∈ ds, e < 10) (hd : d < 10) : ∀ e ∈ ds ++ [d], e < 10 :=
  List.forall_mem_append.2 ⟨hds, List.forall_mem_singleton.2 hd⟩

/-- Before the point, a digit may follow any but a single zero. -/
theorem spellsWhole_concat (h : SpellsWhole ds word) (hne : ds ≠ [0]) (hd : d < 10) :
    SpellsWhole (ds ++ [d]) (word ++ [Digits.toChar d]) ∧ ds ++ [d] ≠ [0] := by
  cases h with
  | zero => exact absurd rfl hne
  | @positive e ds hpos hds =>
    rw [← digits_concat]
    refine ⟨.positive hpos (lt_ten_concat hds hd), ?_⟩
    intro hzero
    have he : e = 0 := (List.cons.inj hzero).1
    omega

theorem spellsFraction_concat (h : SpellsFraction ds word) (hne : ds ≠ []) (hd : d < 10) :
    SpellsFraction (ds ++ [d]) (word ++ [Digits.toChar d]) := by
  cases h with
  | none => exact absurd rfl hne
  | @some e ds hds =>
    have hnext : SpellsFraction (e :: (ds ++ [d])) ('.' :: digits ((e :: ds) ++ [d])) :=
      .some (lt_ten_concat hds hd)
    rw [digits_concat] at hnext
    exact hnext

theorem spellsExponent_concat {below : Bool} (h : SpellsExponent (some (below, ds)) word)
    (hd : d < 10) : SpellsExponent (some (below, ds ++ [d])) (word ++ [Digits.toChar d]) := by
  cases h with
  | @some mark _ sign e ds hmark hsign hds =>
    have hnext : SpellsExponent (some (below, e :: (ds ++ [d])))
        (mark :: (sign ++ digits ((e :: ds) ++ [d]))) :=
      .some hmark hsign (lt_ten_concat hds hd)
    rw [digits_concat, ← List.append_assoc] at hnext
    exact hnext

end Literal

namespace Scan

open Literal (digits exponentSigns SpellsWhole SpellsFraction SpellsExponent)

/-- A number that has been read up to one of its parts, and what was read of it.
Digits are held last one first. -/
inductive HoldsNumber : NumberPart → Literal → List Char → Prop
  | sign : HoldsNumber .sign ⟨true, [], [], none⟩ ['-']
  | zero (negative : Bool) :
    HoldsNumber .zero ⟨negative, [0], [], none⟩ ((if negative then ['-'] else []) ++ digits [0])
  | whole (negative : Bool) {whole : List Nat} {w : List Char} (hwhole : SpellsWhole whole w)
      (hne : whole ≠ [0]) :
    HoldsNumber .whole ⟨negative, whole.reverse, [], none⟩
      ((if negative then ['-'] else []) ++ w)
  | point (negative : Bool) {whole : List Nat} {w : List Char} (hwhole : SpellsWhole whole w) :
    HoldsNumber .point ⟨negative, whole.reverse, [], none⟩
      ((if negative then ['-'] else []) ++ (w ++ ['.']))
  | fraction (negative : Bool) {whole fraction : List Nat} {w f : List Char}
      (hwhole : SpellsWhole whole w) (hfraction : SpellsFraction fraction f)
      (hne : fraction ≠ []) :
    HoldsNumber .fraction ⟨negative, whole.reverse, fraction.reverse, none⟩
      ((if negative then ['-'] else []) ++ (w ++ f))
  | mark (negative : Bool) {whole fraction : List Nat} {w f : List Char} {mark : Char}
      (hwhole : SpellsWhole whole w) (hfraction : SpellsFraction fraction f)
      (hmark : mark = 'e' ∨ mark = 'E') :
    HoldsNumber .mark ⟨negative, whole.reverse, fraction.reverse, none⟩
      ((if negative then ['-'] else []) ++ (w ++ (f ++ [mark])))
  | exponentSign (negative : Bool) {whole fraction : List Nat} {w f : List Char} {mark : Char}
      {below : Bool} {sign : List Char} (hwhole : SpellsWhole whole w)
      (hfraction : SpellsFraction fraction f) (hmark : mark = 'e' ∨ mark = 'E')
      (hsign : (below, sign) ∈ exponentSigns) :
    HoldsNumber .exponentSign ⟨negative, whole.reverse, fraction.reverse, some (below, [])⟩
      ((if negative then ['-'] else []) ++ (w ++ (f ++ mark :: sign)))
  | exponent (negative : Bool) {whole fraction ds : List Nat} {w f e : List Char} {below : Bool}
      (hwhole : SpellsWhole whole w) (hfraction : SpellsFraction fraction f)
      (hexponent : SpellsExponent (some (below, ds)) e) :
    HoldsNumber .exponent ⟨negative, whole.reverse, fraction.reverse, some (below, ds.reverse)⟩
      ((if negative then ['-'] else []) ++ (w ++ (f ++ e)))

namespace HoldsNumber

variable {part part' : NumberPart} {read read' : Literal} {word : List Char}

/-- A digit goes on a number where the grammar has one. -/
theorem extend_digit (h : HoldsNumber part read word) {d : Nat}
    (hdigit : Digits.value? c = some d) (hextend : extend part read c = some (part', read')) :
    HoldsNumber part' read' (word ++ [c]) := by
  have hd : d < 10 := Digits.lt_ten_of_value? hdigit
  have hone : ∀ e ∈ [d], e < 10 := List.forall_mem_singleton.2 hd
  obtain rfl : Digits.toChar d = c := Digits.toChar_of_value? hdigit
  unfold extend at hextend
  rw [hdigit] at hextend
  cases h with
  | sign =>
    cases d with
    | zero =>
      cases hextend
      exact .zero true
    | succ d =>
      have hwhole : SpellsWhole [d + 1] [Digits.toChar (d + 1)] :=
        .positive (Nat.succ_pos d) hone
      have hne : [d + 1] ≠ [0] := fun h => Nat.succ_ne_zero d (List.cons.inj h).1
      cases hextend
      exact .whole true hwhole hne
  | zero => cases hextend
  | whole negative hwhole hne =>
    obtain ⟨hwhole', hne'⟩ := Literal.spellsWhole_concat hwhole hne hd
    have hnext := HoldsNumber.whole negative hwhole' hne'
    cases hextend
    rwa [List.reverse_concat, ← List.append_assoc] at hnext
  | @point negative whole w hwhole =>
    have hfraction : SpellsFraction [d] ['.', Digits.toChar d] := .some hone
    have hnext := HoldsNumber.fraction negative hwhole hfraction (List.cons_ne_nil d [])
    cases hextend
    rw [List.append_assoc, List.append_assoc]
    exact hnext
  | @fraction negative whole fraction w f hwhole hfraction hne =>
    have hfraction' := Literal.spellsFraction_concat hfraction hne hd
    have hnext := HoldsNumber.fraction negative hwhole hfraction'
      (List.append_ne_nil_of_right_ne_nil fraction (List.cons_ne_nil d []))
    cases hextend
    rw [List.append_assoc, List.append_assoc]
    rwa [List.reverse_concat] at hnext
  | @mark negative whole fraction w f mark hwhole hfraction hmark =>
    have hunsigned : (false, []) ∈ exponentSigns := List.mem_cons_self
    have hexponent : SpellsExponent (some (false, [d])) [mark, Digits.toChar d] :=
      .some hmark hunsigned hone
    have hnext := HoldsNumber.exponent negative hwhole hfraction hexponent
    cases hextend
    rw [List.append_assoc, List.append_assoc, List.append_assoc]
    exact hnext
  | @exponentSign negative whole fraction w f mark below sign hwhole hfraction hmark hsign =>
    have hexponent : SpellsExponent (some (below, [d])) (mark :: (sign ++ [Digits.toChar d])) :=
      .some hmark hsign hone
    have hnext := HoldsNumber.exponent negative hwhole hfraction hexponent
    cases hextend
    rw [List.append_assoc, List.append_assoc, List.append_assoc]
    exact hnext
  | exponent negative hwhole hfraction hexponent =>
    have hexponent' := Literal.spellsExponent_concat hexponent hd
    have hnext := HoldsNumber.exponent negative hwhole hfraction hexponent'
    cases hextend
    rw [List.append_assoc, List.append_assoc, List.append_assoc]
    rwa [List.reverse_concat] at hnext

/-- Any other character goes on a number where the grammar has a point, the letter
of an exponent or a sign. -/
theorem extend_other (h : HoldsNumber part read word) (hdigit : Digits.value? c = none)
    (hextend : extend part read c = some (part', read')) :
    HoldsNumber part' read' (word ++ [c]) := by
  -- behind the digits before the point, whichever they are
  have hwhole : ∀ (negative : Bool) {whole : List Nat} {w : List Char}, SpellsWhole whole w →
      (if c = '.' then some (NumberPart.point, ⟨negative, whole.reverse, [], none⟩)
        else if c = 'e' ∨ c = 'E' then some (.mark, ⟨negative, whole.reverse, [], none⟩)
        else none) = some (part', read') →
      HoldsNumber part' read' ((if negative then ['-'] else []) ++ w ++ [c]) := by
    intro negative whole w hwhole h
    rw [List.append_assoc]
    split at h
    · next hpoint =>
      subst hpoint
      cases h
      exact .point negative hwhole
    · split at h
      · next hmark =>
        cases h
        exact .mark negative hwhole .none hmark
      · cases h
  unfold extend at hextend
  rw [hdigit] at hextend
  cases h with
  | sign | point | exponentSign | exponent => cases hextend
  | zero negative => exact hwhole negative .zero hextend
  | whole negative hw _ => exact hwhole negative hw hextend
  | fraction negative hw hfraction _ =>
    dsimp only at hextend
    split at hextend
    · next hmark =>
      cases hextend
      rw [List.append_assoc, List.append_assoc]
      exact .mark negative hw hfraction hmark
    · cases hextend
  | mark negative hw hfraction hmark =>
    dsimp only at hextend
    split at hextend
    · next hsign =>
      have hmem : (c == '-', [c]) ∈ exponentSigns := by
        rcases hsign with rfl | rfl <;> decide
      cases hextend
      rw [List.append_assoc, List.append_assoc, List.append_assoc]
      exact .exponentSign negative hw hfraction hmark hmem
    · cases hextend

theorem extend (h : HoldsNumber part read word)
    (hextend : extend part read c = some (part', read')) :
    HoldsNumber part' read' (word ++ [c]) := by
  cases hdigit : Digits.value? c with
  | some d => exact h.extend_digit hdigit hextend
  | none => exact h.extend_other hdigit hextend

/-- Where a number may end, it is spelled by what was read. -/
theorem spells (h : HoldsNumber part read word) (hpart : complete part = true) :
    (finished read).Spells word := by
  have hspells : ∀ (negative : Bool) {whole fraction : List Nat}
      {exponent : Option (Bool × List Nat)} {w f e : List Char}, SpellsWhole whole w →
      SpellsFraction fraction f → SpellsExponent exponent e →
      (finished ⟨negative, whole.reverse, fraction.reverse,
        exponent.map fun e => (e.1, e.2.reverse)⟩).Spells
          ((if negative then ['-'] else []) ++ (w ++ (f ++ e))) := by
    intro negative whole fraction exponent w f e hwhole hfraction hexponent
    have hread : finished ⟨negative, whole.reverse, fraction.reverse,
        exponent.map fun e => (e.1, e.2.reverse)⟩ =
          ⟨negative, whole, fraction, exponent⟩ := by
      cases exponent <;> simp [finished]
    rw [hread]
    exact .mk hwhole hfraction hexponent
  cases h with
  | zero negative => exact hspells negative .zero .none .none
  | whole negative hwhole _ =>
    have hnumber := hspells negative hwhole .none .none
    rwa [List.append_nil, List.append_nil] at hnumber
  | fraction negative hwhole hfraction _ =>
    have hnumber := hspells negative hwhole hfraction .none
    rwa [List.append_nil] at hnumber
  | exponent negative hwhole hfraction hexponent =>
    exact hspells negative hwhole hfraction hexponent
  | sign | point | mark | exponentSign => cases hpart

end HoldsNumber

/-- What was read of a token that is not finished. Code points and digits are held
last one first. -/
inductive Holds : Scan → List Char → Prop
  | blank : Holds .blank []
  | word {token : Token} {done rest : List Char} (h : token.Spells (done ++ rest)) :
    Holds (.word rest token) done
  | string {us : Units} {inner : List Char} (h : Units.Spells us inner) :
    Holds (.string us.reverse) ('"' :: inner)
  | escape {us : Units} {inner : List Char} (h : Units.Spells us inner) :
    Holds (.escape us.reverse) ('"' :: (inner ++ ['\\']))
  | hex {us : Units} {inner cs : List Char} {ds : List Nat} {left : Nat}
      (h : Units.Spells us inner) (hcs : List.Forall₂ IsHexDigit cs ds)
      (hleft : ds.length + left = 3) :
    Holds (.hex us.reverse left (ds.foldl (fun n d => 16 * n + d) 0))
      ('"' :: (inner ++ '\\' :: 'u' :: cs))
  | number {part : NumberPart} {read : Literal} {word : List Char} (h : HoldsNumber part read word) :
    Holds (.number part read) word

/-- A text has been read as finished tokens and an unfinished one. -/
inductive HasRead (ts : List Token) (scan : Scan) : List Char → Prop
  | mk {done rest : List Char} (hdone : Token.Spaced ts done) (hrest : Holds scan rest) :
    HasRead ts scan (done ++ rest)

variable {ts ts' : List Token} {t : Token} {scan scan' : Scan} {us : Units}

/-- Nothing is finished yet. -/
theorem hasRead_of_holds (h : Holds scan cs) : HasRead [] scan cs :=
  .mk (.nil Token.isBlank_nil) h

/-- One token is finished and no other begun. -/
theorem hasRead_of_spells (h : t.Spells cs) : HasRead [t] .blank cs := by
  have hspaced : Token.Spaced [t] cs := Token.spaced_singleton Token.isBlank_nil h
  have hread : HasRead [t] .blank (cs ++ []) := .mk hspaced .blank
  rwa [List.append_nil] at hread

theorem HasRead.append (h : Token.Spaced ts before) (hread : HasRead ts' scan cs) :
    HasRead (ts ++ ts') scan (before ++ cs) := by
  obtain ⟨hdone, hrest⟩ := hread
  rw [← List.append_assoc]
  exact .mk (h.append hdone) hrest

/-- The first digit of a number that has no sign. -/
theorem holdsNumber_digit {d : Nat} (hd : d < 10) :
    HoldsNumber (if d = 0 then .zero else .whole) ⟨false, [d], [], none⟩ [Digits.toChar d] := by
  by_cases hzero : d = 0
  · subst hzero
    exact .zero false
  · have hpos : 0 < d := Nat.pos_of_ne_zero hzero
    have hone : ∀ e ∈ [d], e < 10 := List.forall_mem_singleton.2 hd
    have hne : [d] ≠ [0] := fun h => hzero (List.cons.inj h).1
    rw [if_neg hzero]
    exact .whole false (.positive hpos hone) hne

/-- The first character of a token, or a character between tokens. -/
theorem hasRead_of_start (h : start c = some (ts, scan)) : HasRead ts scan [c] := by
  have hword : ∀ {l ls} {t : Token}, t.Spells (l :: ls) → HasRead [] (.word ls t) [l] :=
    fun hspells => hasRead_of_holds (.word hspells)
  have hnumber : ∀ {d}, Digits.value? c = some d →
      HasRead [] (.number (if d = 0 then .zero else .whole) ⟨false, [d], [], none⟩) [c] := by
    intro d hdigit
    have hholds := holdsNumber_digit (Digits.lt_ten_of_value? hdigit)
    rw [Digits.toChar_of_value? hdigit] at hholds
    exact hasRead_of_holds (.number hholds)
  unfold start at h
  split at h
  · next hspace =>
    have hblank : Token.IsBlank [c] := by
      refine List.forall_mem_singleton.2 ?_
      simp only [isSpace, Bool.or_eq_true, decide_eq_true_eq] at hspace
      rcases hspace with ((hc | hc) | hc) | hc <;> simp [hc]
    have hread : HasRead [] .blank ([c] ++ []) := .mk (.nil hblank) .blank
    cases h
    exact hread
  · split at h
    iterate 6 · cases h; exact hasRead_of_spells rfl
    · cases h; exact hasRead_of_holds (.string .nil)
    iterate 3 · cases h; exact hword rfl
    · cases h; exact hasRead_of_holds (.number .sign)
    · split at h
      · cases h
      · next hdigit =>
        cases h
        exact hnumber hdigit
      · next d hne hdigit =>
        have hread := hnumber hdigit
        rw [if_neg hne] at hread
        cases h
        exact hread

/-- A letter of a word. -/
theorem hasRead_of_step_word {rest done : List Char} (h : t.Spells (done ++ rest))
    (hstep : (Scan.word rest t).step c = some (ts, scan')) : HasRead ts scan' (done ++ [c]) := by
  match rest with
  | [] => cases hstep
  | [l] =>
    rw [step] at hstep
    split at hstep
    · next hc =>
      subst hc
      cases hstep
      exact hasRead_of_spells h
    · cases hstep
  | l :: l' :: ls =>
    rw [step] at hstep
    · split at hstep
      · next hc =>
        subst hc
        rw [List.append_cons] at h
        cases hstep
        exact hasRead_of_holds (.word h)
      · cases hstep
    · exact nofun

/-- A character of a string. -/
theorem hasRead_of_step_string {inner : List Char} (h : us.Spells inner)
    (hstep : (string us.reverse).step c = some (ts, scan')) :
    HasRead ts scan' ('"' :: (inner ++ [c])) := by
  rw [step] at hstep
  split at hstep
  · next hc =>
    subst hc
    rw [List.reverse_reverse] at hstep
    cases hstep
    exact hasRead_of_spells ⟨inner, h, rfl⟩
  · next hquote =>
    split at hstep
    · next hc =>
      subst hc
      cases hstep
      exact hasRead_of_holds (.escape h)
    · next hbackslash =>
      split at hstep
      · cases hstep
      · next hcontrol =>
        have hplain : Units.isPlain c = true := by
          simp [Units.isPlain, hquote, hbackslash, Nat.le_of_not_lt hcontrol]
        have hnext := Holds.string (Units.spells_concat h (.plain hplain))
        rw [List.reverse_concat] at hnext
        cases hstep
        exact hasRead_of_holds hnext

/-- The character behind a backslash. -/
theorem hasRead_of_step_escape {inner : List Char} (h : us.Spells inner)
    (hstep : (escape us.reverse).step c = some (ts, scan')) :
    HasRead ts scan' ('"' :: (inner ++ ['\\', c])) := by
  rw [step] at hstep
  split at hstep
  · next hc =>
    subst hc
    cases hstep
    exact hasRead_of_holds (.hex h .nil rfl)
  · obtain ⟨u, hescaped, hu⟩ := Option.map_eq_some_iff.1 hstep
    have hnext := Holds.string (Units.spells_concat h (Units.spellsOne_of_escaped? hescaped))
    rw [List.reverse_concat] at hnext
    cases hu
    exact hasRead_of_holds hnext

/-- A digit of a hexadecimal escape; the fourth is the last. -/
theorem hasRead_of_step_hex {inner : List Char} {ds : List Nat} {left : Nat}
    (h : us.Spells inner) (hcs : List.Forall₂ IsHexDigit cs ds) (hleft : ds.length + left = 3)
    (hstep : (hex us.reverse left (ds.foldl (fun n d => 16 * n + d) 0)).step c =
      some (ts, scan')) :
    HasRead ts scan' ('"' :: (inner ++ '\\' :: 'u' :: (cs ++ [c]))) := by
  rw [step] at hstep
  obtain ⟨d, hvalue, hd⟩ := Option.map_eq_some_iff.1 hstep
  have hdigit : IsHexDigit c d := isHexDigit_of_hexValue? hvalue
  cases left with
  | zero =>
    obtain ⟨d₁, d₂, d₃, rfl⟩ := List.length_eq_three.1 hleft
    obtain ⟨c₁, _, h₁, hcs₂, rfl⟩ := List.forall₂_cons_right_iff.1 hcs
    obtain ⟨c₂, _, h₂, hcs₃, rfl⟩ := List.forall₂_cons_right_iff.1 hcs₂
    obtain ⟨c₃, _, h₃, hcs₄, rfl⟩ := List.forall₂_cons_right_iff.1 hcs₃
    obtain rfl := List.forall₂_nil_right_iff.1 hcs₄
    have hvalue' : 16 * [d₁, d₂, d₃].foldl (fun n d => 16 * n + d) 0 + d =
        ((d₁ * 16 + d₂) * 16 + d₃) * 16 + d := by
      simp only [List.foldl_cons, List.foldl_nil]
      omega
    have hnext := Holds.string (Units.spells_concat h (.hex h₁ h₂ h₃ hdigit))
    rw [List.reverse_concat, ← hvalue'] at hnext
    cases hd
    exact hasRead_of_holds hnext
  | succ left =>
    have hcs' : List.Forall₂ IsHexDigit (cs ++ [c]) (ds ++ [d]) :=
      List.rel_append hcs (.cons hdigit .nil)
    have hleft' : (ds ++ [d]).length + left = 3 := by
      rw [List.length_append, List.length_singleton]
      omega
    have hnext := Holds.hex h hcs' hleft'
    rw [List.foldl_concat] at hnext
    cases hd
    exact hasRead_of_holds hnext

/-- A character behind a number either goes on with it or ends it. -/
theorem hasRead_of_step_number {part : NumberPart} {read : Literal}
    (h : HoldsNumber part read cs) (hstep : (number part read).step c = some (ts, scan')) :
    HasRead ts scan' (cs ++ [c]) := by
  rw [step] at hstep
  split at hstep
  · next part' read' hextend =>
    cases hstep
    exact hasRead_of_holds (.number (h.extend hextend))
  · split at hstep
    · next hcomplete =>
      obtain ⟨⟨ts', scan''⟩, hstart, hts⟩ := Option.map_eq_some_iff.1 hstep
      have hdone : Token.Spaced [.number (finished read)] cs :=
        Token.spaced_singleton Token.isBlank_nil (h.spells hcomplete)
      have hread := HasRead.append hdone (hasRead_of_start hstart)
      cases hts
      exact hread
    · cases hstep

/-- **The next character goes on with what was read of a token.** -/
theorem Holds.step (h : Holds scan cs) (hstep : scan.step c = some (ts, scan')) :
    HasRead ts scan' (cs ++ [c]) := by
  cases h with
  | blank => exact hasRead_of_start hstep
  | word hspells => exact hasRead_of_step_word hspells hstep
  | string hinner => exact hasRead_of_step_string hinner hstep
  | escape hinner =>
    rw [List.cons_append, List.append_assoc]
    exact hasRead_of_step_escape hinner hstep
  | hex hinner hcs hleft =>
    rw [List.cons_append, List.append_assoc]
    exact hasRead_of_step_hex hinner hcs hleft hstep
  | number hnumber => exact hasRead_of_step_number hnumber hstep

/-- At the end of the text, a token may be unfinished only if it is a number. -/
theorem Holds.finish (h : Holds scan cs) (hfinish : scan.finish = some ts) :
    Token.Spaced ts cs := by
  cases h with
  | blank =>
    cases hfinish
    exact .nil Token.isBlank_nil
  | @number part read word hnumber =>
    rw [Scan.finish] at hfinish
    split at hfinish
    · next hcomplete =>
      have hdone : Token.Spaced [.number (finished read)] cs :=
        Token.spaced_singleton Token.isBlank_nil (hnumber.spells hcomplete)
      cases hfinish
      exact hdone
    · cases hfinish
  | word | string | escape | hex => cases hfinish

/-- **The next character leaves the text before it cut into tokens.** -/
theorem HasRead.step (h : HasRead ts scan cs) (hstep : scan.step c = some (ts', scan')) :
    HasRead (ts ++ ts') scan' (cs ++ [c]) := by
  obtain ⟨hdone, hrest⟩ := h
  rw [List.append_assoc]
  exact HasRead.append hdone (hrest.step hstep)

/-- A scan that goes on to the end of a text finishes the tokens it writes. -/
theorem HasRead.scanFrom (h : HasRead ts scan before)
    (hscan : Token.scanFrom scan cs = some ts') : Token.Spaced (ts ++ ts') (before ++ cs) := by
  induction cs generalizing ts ts' scan before with
  | nil =>
    obtain ⟨hdone, hrest⟩ := h
    rw [List.append_nil]
    exact hdone.append (hrest.finish hscan)
  | cons c cs ih =>
    rw [Token.scanFrom] at hscan
    split at hscan
    · cases hscan
    · next finished scan' hstep =>
      obtain ⟨ts'', hrest, rfl⟩ := Option.map_eq_some_iff.1 hscan
      have hspaced := ih (h.step hstep) hrest
      rwa [List.append_assoc, ← List.append_cons] at hspaced

end Scan

/-- **A text writes the tokens it is split into.** -/
theorem Token.spaced_of_scan? {ts : List Token} (h : scan? cs = some ts) : Spaced ts cs :=
  (Scan.hasRead_of_holds .blank).scanFrom h

end Json

end IdleStop
