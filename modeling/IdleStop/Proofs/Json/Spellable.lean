import IdleStop.Proofs.Json.Record
import IdleStop.Proofs.Json.Spelling
/-!
# What can be spelled

Every text and every whole number has a spelling, and so has every tree made of
them.
-/

namespace IdleStop

namespace Json

theorem exists_isHexDigit {n : Nat} (h : n < 16) : ∃ c, IsHexDigit c n :=
  ⟨_, Or.inl (List.getElem?_eq_getElem h)⟩

namespace Units

/-- Every character has a spelling: a control is escaped by its digits, a quote and a
backslash by a letter, and any other stands for itself. -/
theorem exists_spellsOne (c : Char) : ∃ one, SpellsOne c.toNat one := by
  by_cases hcontrol : c.toNat < 0x20
  · obtain ⟨c₀, h₀⟩ := exists_isHexDigit (n := 0) (by omega)
    obtain ⟨c₁, h₁⟩ := exists_isHexDigit (n := c.toNat / 16) (by omega)
    obtain ⟨c₂, h₂⟩ := exists_isHexDigit (n := c.toNat % 16) (by omega)
    have hvalue : ((0 * 16 + 0) * 16 + c.toNat / 16) * 16 + c.toNat % 16 = c.toNat := by omega
    exact hvalue ▸ ⟨_, .hex h₀ h₀ h₁ h₂⟩
  · by_cases hquote : c = '"'
    · exact ⟨_, .short (c := '"') (by rw [hquote]; decide)⟩
    · by_cases hbackslash : c = '\\'
      · exact ⟨_, .short (c := '\\') (by rw [hbackslash]; decide)⟩
      · refine ⟨_, .plain ?_⟩
        simp [Units.isPlain, Nat.not_lt.1 hcontrol, hquote, hbackslash]

theorem exists_spells_ofString (s : String) : ∃ cs, (ofString s).Spells cs := by
  rw [ofString]
  induction s.toList with
  | nil => exact ⟨_, .nil⟩
  | cons c cs ih =>
    obtain ⟨one, hone⟩ := exists_spellsOne c
    obtain ⟨rest, hrest⟩ := ih
    exact ⟨_, .cons hone hrest⟩

end Units

namespace Literal

/-- Every positive number has digits that do not begin with a zero. -/
theorem exists_digits {n : Nat} (hn : 0 < n) :
    ∃ d ds, 0 < d ∧ (∀ e ∈ d :: ds, e < 10) ∧ Digits.toNat (d :: ds) = n := by
  induction n using Nat.strongRecOn with
  | ind n ih =>
    rcases Nat.lt_or_ge n 10 with hlt | hge
    · exact ⟨n, [], hn, by simpa using hlt, by simp [Digits.toNat]⟩
    · obtain ⟨d, ds, hd, hds, hvalue⟩ := ih (n / 10) (by omega) (by omega)
      refine ⟨d, ds ++ [n % 10], hd, ?_, ?_⟩
      · rw [← List.cons_append]
        intro e he
        rcases List.mem_append.1 he with he | he
        · exact hds e he
        · obtain rfl := List.mem_singleton.1 he
          exact Nat.mod_lt n (by decide)
      · rw [← List.cons_append, Digits.toNat_append, hvalue]
        omega

/-- Every number has a spelling without a sign, a point and an exponent. -/
theorem exists_spells (n : Nat) :
    ∃ ds, Digits.toNat ds = n ∧ ∃ cs, Spells ⟨false, ds, [], none⟩ cs := by
  rcases Nat.eq_zero_or_pos n with rfl | hn
  · exact ⟨[0], rfl, _, .mk .zero .none .none⟩
  · obtain ⟨d, ds, hd, hds, hvalue⟩ := exists_digits hn
    exact ⟨d :: ds, hvalue, _, .mk (.positive hd hds) .none .none⟩

end Literal

namespace Token

/-- Each of some tokens has a spelling. -/
def Spellable (ts : List Token) : Prop :=
  ∀ t ∈ ts, ∃ word, t.Spells word

variable {t : Token} {ts ts' : List Token}

theorem spellable_cons (h : ∃ word, t.Spells word) (hts : Spellable ts) : Spellable (t :: ts) :=
  List.forall_mem_cons.2 ⟨h, hts⟩

theorem spellable_append (hts : Spellable ts) (hts' : Spellable ts') : Spellable (ts ++ ts') :=
  List.forall_mem_append.2 ⟨hts, hts'⟩

/-- A text writes tokens that have spellings. -/
theorem exists_spaced (h : Spellable ts) : ∃ cs, Spaced ts cs := by
  induction ts with
  | nil => exact ⟨[], .nil nofun⟩
  | cons t ts ih =>
    obtain ⟨⟨word, hword⟩, hrest⟩ := List.forall_mem_cons.1 h
    obtain ⟨cs, hcs⟩ := ih hrest
    have hws : IsBlank [] := nofun
    exact ⟨_, .cons hws hword hcs⟩

end Token

namespace Tree

open Token (Spellable spellable_cons spellable_append)

/-- Each token of a tree has a spelling. -/
def Spellable (t : Tree) : Prop :=
  Token.Spellable t.tokens

theorem exists_spells {t : Tree} (h : t.Spellable) : ∃ s, t.Spells s := by
  obtain ⟨cs, hcs⟩ := Token.exists_spaced h
  exact ⟨String.ofList cs, by rwa [Tree.Spells, String.toList_ofList]⟩

theorem spellable_string {us : Units} (h : ∃ cs, us.Spells cs) : (string us).Spellable := by
  obtain ⟨cs, hcs⟩ := h
  exact spellable_cons ⟨_, cs, hcs, rfl⟩ nofun

theorem spellable_number {l : Literal} (h : ∃ cs, l.Spells cs) : (number l).Spellable :=
  spellable_cons h nofun

/-- An array can be spelled if its items can. -/
theorem spellable_array {ts : List Tree} (h : ∀ t ∈ ts, t.Spellable) : (array ts).Spellable := by
  have hfurther : ∀ ts : List Tree, (∀ t ∈ ts, t.Spellable) →
      Token.Spellable (furtherItemTokens ts) := by
    intro ts h
    induction ts with
    | nil => exact spellable_cons ⟨_, rfl⟩ nofun
    | cons t ts ih =>
      obtain ⟨ht, hts⟩ := List.forall_mem_cons.1 h
      exact spellable_cons ⟨_, rfl⟩ (spellable_append ht (ih hts))
  refine spellable_cons ⟨_, rfl⟩ ?_
  cases ts with
  | nil => exact spellable_cons ⟨_, rfl⟩ nofun
  | cons t ts =>
    obtain ⟨ht, hts⟩ := List.forall_mem_cons.1 h
    exact spellable_append ht (hfurther ts hts)

/-- An object can be spelled if its keys and values can. -/
theorem spellable_object {ms : List (Units × Tree)}
    (h : ∀ m ∈ ms, (string m.1).Spellable ∧ m.2.Spellable) : (object ms).Spellable := by
  have hkey : ∀ {us : Units}, (string us).Spellable → ∃ word, (Token.string us).Spells word :=
    fun h => h _ List.mem_cons_self
  have hfurther : ∀ ms : List (Units × Tree),
      (∀ m ∈ ms, (string m.1).Spellable ∧ m.2.Spellable) →
      Token.Spellable (furtherMemberTokens ms) := by
    intro ms h
    induction ms with
    | nil => exact spellable_cons ⟨_, rfl⟩ nofun
    | cons m ms ih =>
      obtain ⟨⟨hus, ht⟩, hms⟩ := List.forall_mem_cons.1 h
      exact spellable_cons ⟨_, rfl⟩ <| spellable_cons (hkey hus) <| spellable_cons ⟨_, rfl⟩ <|
        spellable_append ht (ih hms)
  refine spellable_cons ⟨_, rfl⟩ ?_
  cases ms with
  | nil => exact spellable_cons ⟨_, rfl⟩ nofun
  | cons m ms =>
    obtain ⟨⟨hus, ht⟩, hms⟩ := List.forall_mem_cons.1 h
    exact spellable_cons (hkey hus) <| spellable_cons ⟨_, rfl⟩ <|
      spellable_append ht (hfurther ms hms)

/-! ## Values and records -/

theorem exists_writesText (s : String) : ∃ t, WritesText s t ∧ t.Spellable :=
  ⟨_, ⟨Units.writes_ofString s⟩, spellable_string (Units.exists_spells_ofString s)⟩

theorem exists_writesOptionalText (s : Option String) :
    ∃ t, WritesOptionalText s (some t) ∧ t.Spellable := by
  cases s with
  | none => exact ⟨.null, .null, spellable_cons ⟨_, rfl⟩ nofun⟩
  | some s =>
    exact ⟨_, .text (Units.writes_ofString s), spellable_string (Units.exists_spells_ofString s)⟩

theorem exists_writesWord (n : UInt64) : ∃ t, WritesWord n t ∧ t.Spellable := by
  obtain ⟨ds, hvalue, hspells⟩ := Literal.exists_spells n.toNat
  exact ⟨_, ⟨hvalue⟩, spellable_number hspells⟩

/-- A record can be written with all its fields present. -/
theorem exists_writesRecord (names : List String) (ts : List Tree)
    (hlength : names.length = ts.length) (hts : ∀ t ∈ ts, t.Spellable) :
    ∃ t : Tree, t.WritesRecord names (ts.map some) ∧ t.Spellable := by
  have hgives : ∃ ms, Gives names (ts.map some) ms ∧
      ∀ m ∈ ms, (string m.1).Spellable ∧ m.2.Spellable := by
    induction names generalizing ts with
    | nil =>
      obtain rfl := List.length_eq_zero_iff.1 hlength.symm
      exact ⟨[], .nil, nofun⟩
    | cons name names ih =>
      cases ts with
      | nil => cases hlength
      | cons t ts =>
        obtain ⟨ht, hts⟩ := List.forall_mem_cons.1 hts
        obtain ⟨ms, hgives, hms⟩ := ih ts (Nat.succ.inj hlength) hts
        exact ⟨(Units.ofString name, t) :: ms, .present (Units.writes_ofString name) hgives,
          List.forall_mem_cons.2
            ⟨⟨spellable_string (Units.exists_spells_ofString name), ht⟩, hms⟩⟩
  obtain ⟨ms, hgives, hms⟩ := hgives
  exact ⟨.object ms, ⟨ms, ms, [], rfl, .of_eq (List.append_nil ms).symm, hgives, nofun⟩,
    spellable_object hms⟩

end Tree

end Json

end IdleStop
