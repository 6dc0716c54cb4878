import IdleStop.Proofs.Json.Spellable
import IdleStop.Toml.Scalar
/-!
# How TOML is spelled

The texts that write an assignment on one line, as the grammar has them and not as they
are read: a key with or without quotes, a truth value, a whole number in any base or a
basic string in any mixture of escapes, spaces and tabs between them, and a comment
behind them.
-/

namespace IdleStop

namespace Toml

/-- Spaces and tabs, or nothing. -/
def IsBlank (cs : List Char) : Prop :=
  ∀ c ∈ cs, c = ' ' ∨ c = '\t'

theorem isBlank_nil : IsBlank [] :=
  List.forall_mem_nil _

/-- A character that may stand in comments and strings: no control but the tab. -/
def IsPlain (c : Char) : Prop :=
  c = '\t' ∨ 0x20 ≤ c.toNat ∧ c.toNat ≠ 0x7f

/-- A comment, or nothing. -/
inductive SpellsComment : List Char → Prop
  | none : SpellsComment []
  | some {cs : List Char} (h : ∀ c ∈ cs, IsPlain c) : SpellsComment ('#' :: cs)

/-! ## Strings -/

/-- The letters that stand for a character behind a backslash. -/
def shortEscapes : List (Char × Char) :=
  [('"', '"'), ('\\', '\\'), ('b', '\x08'), ('t', '\t'), ('n', '\n'), ('f', '\x0c'),
    ('r', '\r'), ('e', '\x1b')]

/-- The letters behind a backslash that so many hexadecimal digits of a code point
follow. -/
def hexEscapes : List (Char × Nat) :=
  [('x', 2), ('u', 4), ('U', 8)]

/-- What may stand for a character in a basic string. -/
inductive SpellsChar : Char → List Char → Prop
  /-- The character itself, if it is plain. -/
  | plain {c : Char} (h : IsPlain c) (hquote : c ≠ '"') (hbackslash : c ≠ '\\') :
    SpellsChar c [c]
  /-- A backslash and a letter. -/
  | short {l c : Char} (h : (l, c) ∈ shortEscapes) : SpellsChar c ['\\', l]
  /-- A backslash, a letter and the digits of the code point. -/
  | hex {l c : Char} {n : Nat} {digits : List Char} {ds : List Nat} (h : (l, n) ∈ hexEscapes)
      (hlength : ds.length = n) (hdigits : List.Forall₂ Json.IsHexDigit digits ds)
      (hcode : ds.foldl (fun n d => 16 * n + d) 0 = c.toNat) :
    SpellsChar c ('\\' :: l :: digits)

/-- What may stand between the quotes of a basic string. -/
inductive SpellsText : List Char → List Char → Prop
  | nil : SpellsText [] []
  | cons {c : Char} {text one cs : List Char} (hone : SpellsChar c one)
      (hrest : SpellsText text cs) : SpellsText (c :: text) (one ++ cs)

/-- A basic string. -/
inductive SpellsString (s : String) : List Char → Prop
  | mk {inner : List Char} (h : SpellsText s.toList inner) :
    SpellsString s ('"' :: (inner ++ ['"']))

/-! ## Whole numbers -/

/-- A row of digits in a base, at least one, with single underscores between them. -/
inductive SpellsDigits (base : Nat) : List Nat → List Char → Prop
  | one {d : Nat} {c : Char} (hd : d < base) (hc : Json.IsHexDigit c d) :
    SpellsDigits base [d] [c]
  | next {d : Nat} {c : Char} {ds : List Nat} {cs : List Char} (hd : d < base)
      (hc : Json.IsHexDigit c d) (h : SpellsDigits base ds cs) :
    SpellsDigits base (d :: ds) (c :: cs)
  | gap {d : Nat} {c : Char} {ds : List Nat} {cs : List Char} (hd : d < base)
      (hc : Json.IsHexDigit c d) (h : SpellsDigits base ds cs) :
    SpellsDigits base (d :: ds) (c :: '_' :: cs)

/-- The signs of a decimal number, and whether they are negative. -/
def signs : List (Bool × List Char) :=
  [(false, []), (false, ['+']), (true, ['-'])]

/-- The letters behind a zero that tell another base. -/
def bases : List (Char × Nat) :=
  [('x', 16), ('o', 8), ('b', 2)]

/-- What may stand for a whole number: decimal digits, which do not begin with a zero
that another digit follows, or the digits of another base. -/
inductive SpellsInteger : Int → List Char → Prop
  | decimal {negative : Bool} {sign cs : List Char} {ds : List Nat}
      (hsign : (negative, sign) ∈ signs) (hzero : ds.head? = some 0 → ds = [0])
      (h : SpellsDigits 10 ds cs) :
    SpellsInteger
      (if negative then -(ds.foldl (fun n d => 10 * n + d) 0 : Nat)
        else (ds.foldl (fun n d => 10 * n + d) 0 : Nat))
      (sign ++ cs)
  | based {l : Char} {base : Nat} {cs : List Char} {ds : List Nat} (hbase : (l, base) ∈ bases)
      (h : SpellsDigits base ds cs) :
    SpellsInteger (ds.foldl (fun n d => base * n + d) 0 : Nat) ('0' :: l :: cs)

/-! ## Assignments -/

/-- What may stand for a truth value, a whole number or a text. -/
inductive SpellsScalar : Scalar → List Char → Prop
  | bool (b : Bool) : SpellsScalar (.bool b) (if b then "true" else "false").toList
  | integer {i : Int} {cs : List Char} (h : SpellsInteger i cs) : SpellsScalar (.integer i) cs
  | string {s : String} {cs : List Char} (h : SpellsString s cs) : SpellsScalar (.string s) cs

/-- A character that may stand in a key without quotes. -/
def IsKeyChar (c : Char) : Prop :=
  c.isAlphanum = true ∨ c = '-' ∨ c = '_'

/-- What may stand for a key of one part. -/
inductive SpellsKey (key : String) : List Char → Prop
  /-- The key itself. -/
  | bare (hne : key.toList ≠ []) (h : ∀ c ∈ key.toList, IsKeyChar c) : SpellsKey key key.toList
  /-- The key as a basic string. -/
  | basic {cs : List Char} (h : SpellsString key cs) : SpellsKey key cs
  /-- The key between single quotes. -/
  | literal (h : ∀ c ∈ key.toList, IsPlain c ∧ c ≠ '\x27') :
    SpellsKey key ('\x27' :: (key.toList ++ ['\x27']))

/-- A line that assigns a value to a key. -/
inductive SpellsAssignment (key : String) (v : Scalar) : List Char → Prop
  | mk {w₁ w₂ w₃ w₄ k value comment : List Char} (h₁ : IsBlank w₁) (hkey : SpellsKey key k)
      (h₂ : IsBlank w₂) (h₃ : IsBlank w₃) (hvalue : SpellsScalar v value) (h₄ : IsBlank w₄)
      (hcomment : SpellsComment comment) :
    SpellsAssignment key v (w₁ ++ (k ++ (w₂ ++ ('=' :: (w₃ ++ (value ++ (w₄ ++ comment)))))))

/-! ## Everything can be spelled -/

/-- A number below a power of sixteen has as many digits. -/
theorem exists_hexDigits {k n : Nat} (h : n < Nat.pow 16 k) :
    ∃ digits ds, List.Forall₂ Json.IsHexDigit digits ds ∧ ds.length = k ∧
      ds.foldl (fun n d => 16 * n + d) 0 = n := by
  induction k generalizing n with
  | zero =>
    obtain rfl : n = 0 := Nat.lt_one_iff.1 h
    exact ⟨[], [], .nil, rfl, rfl⟩
  | succ k ih =>
    have hpow : Nat.pow 16 (k + 1) = Nat.pow 16 k * 16 := rfl
    obtain ⟨digits, ds, hdigits, hlength, hcode⟩ := ih (show n / 16 < Nat.pow 16 k by omega)
    obtain ⟨c, hc⟩ := Json.exists_isHexDigit (show n % 16 < 16 by omega)
    refine ⟨digits ++ [c], ds ++ [n % 16], List.rel_append hdigits (.cons hc .nil), ?_, ?_⟩
    · rw [List.length_append, hlength, List.length_singleton]
    · rw [List.foldl_append, hcode, List.foldl_cons, List.foldl_nil]
      omega

/-- Every character can be spelled by the digits of its code point. -/
theorem exists_spellsChar (c : Char) : ∃ one, SpellsChar c one := by
  have hlast : c.toNat < Nat.pow 16 8 := by
    have hvalid : c.toNat < 0xd800 ∨ 0xdfff < c.toNat ∧ c.toNat < 0x110000 := c.valid
    have hpow : Nat.pow 16 8 = 0x100000000 := rfl
    omega
  have hletter : ('U', 8) ∈ hexEscapes := by decide
  obtain ⟨digits, ds, hdigits, hlength, hcode⟩ := exists_hexDigits hlast
  exact ⟨_, .hex hletter hlength hdigits hcode⟩

theorem exists_spellsString (s : String) : ∃ cs, SpellsString s cs := by
  have htext : ∀ text, ∃ cs, SpellsText text cs := by
    intro text
    induction text with
    | nil => exact ⟨[], .nil⟩
    | cons c text ih =>
      obtain ⟨one, hone⟩ := exists_spellsChar c
      obtain ⟨cs, hcs⟩ := ih
      exact ⟨one ++ cs, .cons hone hcs⟩
  obtain ⟨inner, hinner⟩ := htext s.toList
  exact ⟨_, .mk hinner⟩

/-- Hexadecimal digits are a row of digits, if there are any. -/
theorem spellsDigits_of_hexDigits {digits : List Char} {ds : List Nat}
    (h : List.Forall₂ Json.IsHexDigit digits ds) (hne : ds ≠ []) : SpellsDigits 16 ds digits := by
  have hlt : ∀ {c d}, Json.IsHexDigit c d → d < 16 := by
    intro c d hc
    rcases hc with hc | hc
    · exact (List.getElem?_eq_some_iff.1 hc).1
    · exact (List.getElem?_eq_some_iff.1 hc).1
  induction h with
  | nil => exact absurd rfl hne
  | @cons c d digits ds hc h ih =>
    cases ds with
    | nil =>
      cases h
      exact .one (hlt hc) hc
    | cons d' ds => exact .next (hlt hc) hc (ih (List.cons_ne_nil _ _))

/-- Every natural number can be spelled. -/
theorem exists_spellsInteger (n : Nat) : ∃ cs, SpellsInteger n cs := by
  have hlt : n < Nat.pow 16 (n + 1) := by
    have hself : n + 1 < 16 ^ (n + 1) := Nat.lt_pow_self (by omega)
    exact Nat.lt_of_succ_lt hself
  have hletter : ('x', 16) ∈ bases := by decide
  obtain ⟨digits, ds, hdigits, hlength, hcode⟩ := exists_hexDigits hlt
  have hne : ds ≠ [] := by
    rintro rfl
    cases hlength
  refine ⟨'0' :: 'x' :: digits, ?_⟩
  have hspells := SpellsInteger.based hletter (spellsDigits_of_hexDigits hdigits hne)
  rwa [hcode] at hspells

end Toml

end IdleStop
