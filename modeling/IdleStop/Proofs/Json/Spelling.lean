import IdleStop.Json.Tree
import Mathlib.Data.List.Forall2
/-!
# How JSON is spelled

The texts that write a token, as the grammar has them and not as they are read:
a string may spell each code point in several ways, a number has one spelling
but for the letter and the sign of its exponent, and there may be white space
before each token and at the end. The texts that write a tree are those that
write its tokens.
-/

namespace IdleStop

namespace Json

/-! ## Strings -/

/-- A character is the hexadecimal digit, of either case, of a value. -/
def IsHexDigit (c : Char) (n : Nat) : Prop :=
  "0123456789abcdef".toList[n]? = some c ∨ "0123456789ABCDEF".toList[n]? = some c

namespace Units

/-- The letters that stand for a code point behind a backslash. -/
def shortEscapes : List (Char × Nat) :=
  [('"', 0x22), ('\\', 0x5c), ('/', 0x2f), ('b', 0x08), ('f', 0x0c), ('n', 0x0a), ('r', 0x0d),
    ('t', 0x09)]

/-- A character that may stand for itself: no control, no quote and no backslash. -/
def isPlain (c : Char) : Bool :=
  0x20 ≤ c.toNat && c != '"' && c != '\\'

/-- What may stand for a code point in a string. -/
inductive SpellsOne : Nat → List Char → Prop
  /-- The character itself, if it is plain. -/
  | plain {c : Char} (h : isPlain c = true) : SpellsOne c.toNat [c]
  /-- A backslash and a letter. -/
  | short {c : Char} {u : Nat} (h : (c, u) ∈ shortEscapes) : SpellsOne u ['\\', c]
  /-- A backslash, the letter `u` and four digits. -/
  | hex {c₁ c₂ c₃ c₄ : Char} {d₁ d₂ d₃ d₄ : Nat} (h₁ : IsHexDigit c₁ d₁) (h₂ : IsHexDigit c₂ d₂)
      (h₃ : IsHexDigit c₃ d₃) (h₄ : IsHexDigit c₄ d₄) :
    SpellsOne (((d₁ * 16 + d₂) * 16 + d₃) * 16 + d₄) ['\\', 'u', c₁, c₂, c₃, c₄]

/-- What may stand between the quotes of a string. -/
inductive Spells : Units → List Char → Prop
  | nil : Spells [] []
  | cons {u : Nat} {us : Units} {one cs : List Char} (hone : SpellsOne u one)
      (hrest : Spells us cs) : Spells (u :: us) (one ++ cs)

end Units

namespace Units

/-- A plain text stands for its own code points. -/
theorem spells_ofString {s : String} (h : s.toList.all isPlain = true) :
    Spells (ofString s) s.toList := by
  rw [ofString]
  generalize s.toList = cs at h ⊢
  induction cs with
  | nil => exact .nil
  | cons c cs ih =>
    obtain ⟨hc, hcs⟩ := Bool.and_eq_true_iff.1 h
    exact .cons (.plain hc) (ih hcs)

end Units

/-! ## Numbers -/

namespace Literal

/-- A row of digits as written. -/
def digits (ds : List Nat) : List Char :=
  ds.map Digits.toChar

/-- The digits before the point: a zero, or digits that do not begin with one. -/
inductive SpellsWhole : List Nat → List Char → Prop
  | zero : SpellsWhole [0] (digits [0])
  | positive {d : Nat} {ds : List Nat} (hpos : 0 < d) (hds : ∀ e ∈ d :: ds, e < 10) :
    SpellsWhole (d :: ds) (digits (d :: ds))

/-- The point and the digits after it, if there are any. -/
inductive SpellsFraction : List Nat → List Char → Prop
  | none : SpellsFraction [] []
  | some {d : Nat} {ds : List Nat} (hds : ∀ e ∈ d :: ds, e < 10) :
    SpellsFraction (d :: ds) ('.' :: digits (d :: ds))

/-- The signs of an exponent, and whether they are negative. -/
def exponentSigns : List (Bool × List Char) :=
  [(false, []), (false, ['+']), (true, ['-'])]

/-- The exponent, if there is one. -/
inductive SpellsExponent : Option (Bool × List Nat) → List Char → Prop
  | none : SpellsExponent none []
  | some {mark : Char} {negative : Bool} {sign : List Char} {d : Nat} {ds : List Nat}
      (hmark : mark = 'e' ∨ mark = 'E') (hsign : (negative, sign) ∈ exponentSigns)
      (hds : ∀ e ∈ d :: ds, e < 10) :
    SpellsExponent (some (negative, d :: ds)) (mark :: (sign ++ digits (d :: ds)))

/-- What may stand for a number. -/
inductive Spells : Literal → List Char → Prop
  | mk {negative : Bool} {whole fraction : List Nat} {exponent : Option (Bool × List Nat)}
      {w f e : List Char} (hwhole : SpellsWhole whole w) (hfraction : SpellsFraction fraction f)
      (hexponent : SpellsExponent exponent e) :
    Spells ⟨negative, whole, fraction, exponent⟩
      ((if negative then ['-'] else []) ++ (w ++ (f ++ e)))

end Literal

/-! ## Tokens -/

namespace Token

/-- What may stand for a token. -/
def Spells : Token → List Char → Prop
  | openArray, word => word = ['[']
  | closeArray, word => word = [']']
  | openObject, word => word = ['\x7b']
  | closeObject, word => word = ['\x7d']
  | colon, word => word = [':']
  | comma, word => word = [',']
  | null, word => word = "null".toList
  | bool b, word => word = (if b then "true" else "false").toList
  | string us, word => ∃ inner, us.Spells inner ∧ word = '"' :: (inner ++ ['"'])
  | number l, word => l.Spells word

/-- A plain text between quotes stands for itself. -/
theorem spells_ofString {s : String} (h : s.toList.all Units.isPlain = true) :
    (string (Units.ofString s)).Spells ('"' :: (s.toList ++ ['"'])) :=
  ⟨s.toList, Units.spells_ofString h, rfl⟩

/-- White space, or nothing. -/
def IsBlank (cs : List Char) : Prop :=
  ∀ c ∈ cs, c = ' ' ∨ c = '\t' ∨ c = '\n' ∨ c = '\r'

/-- A text that writes tokens in order, with white space around them. -/
inductive Spaced : List Token → List Char → Prop
  | nil {ws : List Char} (hws : IsBlank ws) : Spaced [] ws
  | cons {t : Token} {ts : List Token} {ws word cs : List Char} (hws : IsBlank ws)
      (hword : t.Spells word) (hrest : Spaced ts cs) : Spaced (t :: ts) (ws ++ (word ++ cs))

/-- A text that is cut into the tokens it writes, each with the white space before
it. -/
theorem spaced_of_pieces {ts : List Token} {p : List (String × String)} {w cs : List Char}
    (h : List.Forall₂ (fun t (p : String × String) => IsBlank p.1.toList ∧ t.Spells p.2.toList) ts p)
    (hw : IsBlank w) (hcs : cs = p.flatMap (fun p => p.1.toList ++ p.2.toList) ++ w) :
    Spaced ts cs := by
  subst hcs
  induction h with
  | nil => exact .nil hw
  | cons h _ ih =>
    rw [List.flatMap_cons, List.append_assoc, List.append_assoc]
    exact .cons h.1 h.2 ih

end Token

/-- A text that writes a tree. -/
def Tree.Spells (t : Tree) (s : String) : Prop :=
  Token.Spaced t.tokens s.toList

end Json

end IdleStop
