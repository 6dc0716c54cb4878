import IdleStop.Proofs.Toml.Composition
import IdleStop.Proofs.Toml.Scalar
/-!
# Lines are read as they are spelled

Each piece of a spelled assignment is one token (`Token.scanFrom_piece`), and the space
between pieces is another or none. Read from there, the line is the assignment it spells,
whatever comes after it, unless its number is beyond the limits: then the whole document
is not read (`Statement.ofChars?_spelled`).
-/

namespace IdleStop

namespace Toml

variable {c : Char} {cs rest text word w : List Char}

/-! ## Characters -/

theorem Scan.isPlain_iff : Scan.isPlain c = true ↔ IsPlain c := by
  simp [Scan.isPlain, IsPlain]

theorem isPlain_of_isAtomChar (h : Scan.isAtomChar c = true) : Scan.isPlain c = true := by
  simp only [Scan.isAtomChar, Bool.and_eq_true] at h
  exact h.1.1

theorem isSpace_of_isAtomChar (h : Scan.isAtomChar c = true) : Scan.isSpace c = false := by
  simp only [Scan.isAtomChar, Bool.and_eq_true, Bool.not_eq_true'] at h
  exact h.1.2

theorem isKeyChar_iff : isKeyChar c = true ↔ IsKeyChar c := by
  simp [isKeyChar, IsKeyChar, or_assoc]

/-- The character with the code point of a character is that character. -/
theorem Scan.ofCodePoint?_toNat (c : Char) : Scan.ofCodePoint? c.toNat = some c := by
  have hvalid : c.toNat < 0xd800 ∨ 0xdfff < c.toNat ∧ c.toNat < 0x110000 := c.valid
  rw [Scan.ofCodePoint?, if_pos hvalid, Char.ofNat_toNat]

/-- A character of a key without quotes may stand in an atom. -/
theorem isAtomChar_of_isKeyChar (h : IsKeyChar c) : Scan.isAtomChar c = true := by
  have hother : ∀ c ∈ ".=,[]\x7b\x7d#\"\x27 \t".toList, ¬ IsKeyChar c := by
    unfold IsKeyChar
    exact List.all_iff_forall_prop.1 (by decide)
  have hcontrol : ¬ IsKeyChar (Char.ofNat 0x7f) ∧ ∀ n < 0x20, ¬ IsKeyChar (Char.ofNat n) := by
    unfold IsKeyChar
    decide
  have hplain : Scan.isPlain c = true := by
    have hcode : Char.ofNat c.toNat = c := Char.ofNat_toNat c
    refine Scan.isPlain_iff.2 (Or.inr ⟨?_, fun hdelete => ?_⟩)
    · by_contra hlow
      exact hcontrol.2 c.toNat (by omega) (hcode.symm ▸ h)
    · rw [hdelete] at hcode
      exact hcontrol.1 (hcode.symm ▸ h)
  have hspace : Scan.isSpace c = false := by
    have hne : c ≠ ' ' ∧ c ≠ '\t' := by
      constructor <;> rintro rfl <;> exact absurd h (hother _ (by decide))
    simp [Scan.isSpace, hne]
  have hpunctuation : ".=,[]\x7b\x7d#\"\x27".toList.contains c = false := by
    cases hcontains : ".=,[]\x7b\x7d#\"\x27".toList.contains c with
    | false => rfl
    | true =>
      have hmem : c ∈ ".=,[]\x7b\x7d#\"\x27".toList := List.contains_iff_mem.1 hcontains
      exact absurd h (hother c (List.mem_append_left [' ', '\t'] hmem))
  rw [Scan.isAtomChar, hplain, hspace, hpunctuation]
  rfl

/-- A character of an atom begins one. -/
theorem Scan.start_atomChar (h : Scan.isAtomChar c = true) :
    Scan.start c = some ([], .atom [c]) := by
  have hplain : Scan.isPlain c = true := isPlain_of_isAtomChar h
  have hspace : Scan.isSpace c = false := isSpace_of_isAtomChar h
  simp only [Scan.isAtomChar, Bool.and_eq_true, Bool.not_eq_true'] at h
  obtain ⟨-, hpunctuation⟩ := h
  unfold Scan.start
  split
  all_goals first
    | exact absurd hpunctuation (by decide)
    | exact absurd hplain (by decide)
    | rw [hspace, hplain]; rfl

/-- A plain character in the middle of a string. -/
theorem Scan.step_plain {q : Quote} (hplain : IsPlain c) (hquote : c ≠ q.char)
    (hbackslash : q = .basic → c ≠ '\\') :
    (Scan.line q text).step c = some ([], .line q (c :: text)) := by
  rw [Scan.step, if_neg hquote, if_neg fun h => hbackslash h.1 h.2,
    if_pos (Scan.isPlain_iff.2 hplain)]

/-- The characters that may stand behind a key or a value. -/
def stops : List Char :=
  [' ', '\t', '=', '#', '\n', '\r']

/-- A text in front of which a key or a value is complete. -/
def Stops (cs : List Char) : Prop :=
  ∀ c, cs.head? = some c → c ∈ stops

/-- A text that does not begin with space. -/
def StartsFilled (cs : List Char) : Prop :=
  ∀ c, cs.head? = some c → Scan.isSpace c = false

/-- The characters that may stand behind the space after a key or a value. -/
def breaks : List Char :=
  ['=', '#', '\n', '\r']

/-- A text that no space and no key or value goes on with. -/
def Breaks (cs : List Char) : Prop :=
  ∀ c, cs.head? = some c → c ∈ breaks

theorem Breaks.startsFilled (h : Breaks cs) : StartsFilled cs := by
  have hspace : ∀ c ∈ breaks, Scan.isSpace c = false := List.all_iff_forall_prop.1 (by decide)
  exact fun c hc => hspace c (h c hc)

/-- A key or a value is complete in front of space as well. -/
theorem Breaks.stops (h : Breaks cs) (hw : IsBlank w) : Stops (w ++ cs) := by
  have hbreaks : ∀ c ∈ breaks, c ∈ Toml.stops := List.all_iff_forall_prop.1 (by decide)
  have hspace : ' ' ∈ Toml.stops ∧ '\t' ∈ Toml.stops := by decide
  cases w with
  | nil => exact fun c hc => hbreaks c (h c hc)
  | cons c w =>
    rintro c' ⟨⟩
    rcases hw c List.mem_cons_self with rfl | rfl
    · exact hspace.1
    · exact hspace.2

theorem breaks_equals (cs : List Char) : Breaks ('=' :: cs) := by
  rintro c ⟨⟩
  exact List.mem_cons_self

theorem breaks_remainder (h : Remainder rest) : Breaks rest := by
  intro c hc
  cases h with
  | nothing => cases hc
  | lines heol cs =>
    rw [lineEnds, List.mem_cons, List.mem_singleton] at heol
    rcases heol with rfl | rfl <;> cases hc <;> decide

theorem breaks_comment (h : SpellsComment word) (hrest : Remainder rest) :
    Breaks (word ++ rest) := by
  cases h with
  | none => exact breaks_remainder hrest
  | some h =>
    rintro c ⟨⟩
    decide

namespace Token

variable {s s' : Scan} {t : Token} {q : Quote}

/-! ## Runs of characters -/

/-- A character that finishes no token. -/
theorem scanFrom_cons_none (h : s.step c = some ([], s')) :
    scanFrom s (c :: cs) = scanFrom s' cs := by
  rw [scanFrom_cons h]
  exact congrFun Option.map_id_fun' _

/-- Characters that go on a token, one by one. -/
theorem scanFrom_run {f : List Char → Scan}
    (h : ∀ c ∈ word, ∀ text, (f text).step c = some ([], f (c :: text))) :
    scanFrom (f text) (word ++ cs) = scanFrom (f (word.reverse ++ text)) cs := by
  induction word generalizing text with
  | nil => rfl
  | cons c word ih =>
    obtain ⟨hc, hword⟩ := List.forall_mem_cons.1 h
    rw [List.cons_append, scanFrom_cons_none (hc text), ih hword, List.reverse_cons,
      List.append_assoc, List.singleton_append]

/-- A token that could end with the text ends where it does not go on. -/
theorem scanFrom_ends (hfinish : s.finish = some [t])
    (hstep : ∀ c, cs.head? = some c → s.step c = Scan.startAfter t c) :
    scanFrom s cs = (t :: ·) <$> scanFrom .blank cs := by
  cases cs with
  | nil =>
    rw [scanFrom, hfinish]
    rfl
  | cons c cs =>
    have hblank : Scan.step c .blank = Scan.start c := rfl
    rw [scanFrom, scanFrom, hstep c rfl, hblank, Scan.startAfter]
    cases Scan.start c with
    | none => rfl
    | some result => simp [Function.comp_def]

/-- The token of a stretch of space, which may be empty. -/
def spaces : List Char → List Token
  | [] => []
  | w => [.space w]

/-- Space is one token. -/
theorem scanFrom_spaces (hw : IsBlank w) (hcs : StartsFilled cs) :
    scanFrom .blank (w ++ cs) = (spaces w ++ ·) <$> scanFrom .blank cs := by
  have hspace : ∀ c ∈ w, Scan.isSpace c = true := by
    intro c hc
    rcases hw c hc with rfl | rfl <;> rfl
  cases w with
  | nil => exact (congrFun Option.map_id_fun' _).symm
  | cons c w =>
    obtain ⟨hc, hw'⟩ := List.forall_mem_cons.1 hspace
    have hstart : Scan.step c .blank = some ([], .space [c]) := by
      rcases hw c List.mem_cons_self with rfl | rfl <;> rfl
    have hends : scanFrom (.space (w.reverse ++ [c])) cs =
        (.space (c :: w) :: ·) <$> scanFrom .blank cs := by
      refine scanFrom_ends (by simp [Scan.finish]) fun c' hc' => ?_
      rw [Scan.step, if_neg (by simp [hcs c' hc'])]
      simp
    rw [List.cons_append, scanFrom_cons_none hstart,
      scanFrom_run (fun c hc text => by rw [Scan.step, if_pos (hw' c hc)]), hends]
    rfl

/-! ## Pieces -/

/-- A text without space and punctuation is one token. -/
theorem scanFrom_atomText (hne : word ≠ []) (hword : ∀ c ∈ word, Scan.isAtomChar c = true)
    (hcs : Stops cs) : scanFrom .blank (word ++ cs) = (.atom word :: ·) <$> scanFrom .blank cs := by
  have hstops : ∀ c ∈ stops, Scan.isAtomChar c = false := List.all_iff_forall_prop.1 (by decide)
  cases word with
  | nil => exact absurd rfl hne
  | cons c word =>
    obtain ⟨hc, hword'⟩ := List.forall_mem_cons.1 hword
    have hstart : Scan.step c .blank = some ([], .atom [c]) := Scan.start_atomChar hc
    have hends : scanFrom (.atom (word.reverse ++ [c])) cs =
        (.atom (c :: word) :: ·) <$> scanFrom .blank cs := by
      refine scanFrom_ends (by simp [Scan.finish]) fun c' hc' => ?_
      rw [Scan.step, if_neg (by simp [hstops c' (hcs c' hc')])]
      simp
    rw [List.cons_append, scanFrom_cons_none hstart,
      scanFrom_run (fun c hc text => by rw [Scan.step, if_pos (hword' c hc)]), hends]

/-- The digits of an escape are read as the character with their code point. -/
theorem scanFrom_digits {digits : List Char} {ds : List Nat} {value : Nat}
    (h : List.Forall₂ Json.IsHexDigit digits ds) (hne : ds ≠ [])
    (hcode : ds.foldl (fun n d => 16 * n + d) value = c.toNat) :
    scanFrom (.hex false text ds.length value) (digits ++ cs) =
      scanFrom (.line .basic (c :: text)) cs := by
  induction h generalizing value with
  | nil => exact absurd rfl hne
  | @cons digit d digits ds hdigit h ih =>
    have hvalue := Json.hexValue?_of_isHexDigit hdigit
    cases ds with
    | nil =>
      cases h
      have hlast : 16 * value + d = c.toNat := hcode
      refine scanFrom_cons_none ?_
      simp only [Scan.step, hvalue, Option.bind_eq_bind, Option.bind_some, List.length_cons,
        List.length_nil, Nat.le_refl, if_true, hlast, Scan.ofCodePoint?_toNat]
      rfl
    | cons d' ds =>
      refine Eq.trans (scanFrom_cons_none ?_) (ih (List.cons_ne_nil _ _) hcode)
      simp only [Scan.step, hvalue, Option.bind_eq_bind, Option.bind_some, List.length_cons]
      rw [if_neg (by omega)]
      rfl

/-- The quote at the end of a string. -/
theorem scanFrom_quote :
    scanFrom (.line q text) (q.char :: cs) =
      (.string false text.reverse :: ·) <$> scanFrom .blank cs :=
  have hstep : (Scan.line q text).step q.char = some ([.string false text.reverse], .blank) := by
    rw [Scan.step, if_pos rfl]
  scanFrom_cons hstep

/-- What spells a character in a string is read as that character. -/
theorem scanFrom_spellsChar (h : SpellsChar c word) :
    scanFrom (.line .basic text) (word ++ cs) = scanFrom (.line .basic (c :: text)) cs := by
  have hbackslash : (Scan.line .basic text).step '\\' = some ([], .escape false text) := rfl
  cases h with
  | plain h hquote hnotBackslash =>
    exact scanFrom_cons_none (Scan.step_plain h hquote fun _ => hnotBackslash)
  | @short l c h =>
    have hescaped : ∀ p ∈ shortEscapes, Scan.escaped? p.1 = some p.2 := by decide
    refine (scanFrom_cons_none hbackslash).trans (scanFrom_cons_none ?_)
    rw [Scan.step, hescaped _ h]
    rfl
  | @hex l c n digits ds h hlength hdigits hcode =>
    have hletter : ∀ p ∈ hexEscapes,
        Scan.escaped? p.1 = none ∧ Scan.hexLength? p.1 = some p.2 ∧ p.2 ≠ 0 := by decide
    obtain ⟨hescaped, hhex, hn⟩ := hletter _ h
    have hne : ds ≠ [] := by
      rintro rfl
      exact hn hlength.symm
    have hstep : (Scan.escape false text).step l = some ([], .hex false text ds.length 0) := by
      rw [Scan.step, hescaped, hhex, hlength]
    rw [List.cons_append, List.cons_append, scanFrom_cons_none hbackslash,
      scanFrom_cons_none hstep, scanFrom_digits hdigits hne hcode]

/-- What spells a text is read as that text, up to the quote behind it. -/
theorem scanFrom_spellsText {inner : List Char} (h : SpellsText word inner) :
    scanFrom (.line .basic text) (inner ++ '"' :: cs) =
      (.string false (text.reverse ++ word) :: ·) <$> scanFrom .blank cs := by
  induction h generalizing text with
  | nil =>
    rw [List.append_nil]
    exact scanFrom_quote
  | @cons c word one inner hone _ ih =>
    rw [List.append_assoc, scanFrom_spellsChar hone, ih, List.reverse_cons, List.append_assoc,
      List.singleton_append]

/-- Characters between single quotes are read as they stand, up to the quote. -/
theorem scanFrom_literal (h : ∀ c ∈ word, IsPlain c ∧ c ≠ '\x27') :
    scanFrom (.line .literal text) (word ++ '\x27' :: cs) =
      (.string false (text.reverse ++ word) :: ·) <$> scanFrom .blank cs := by
  have hquote : scanFrom (.line .literal (word.reverse ++ text)) ('\x27' :: cs) =
      (.string false (word.reverse ++ text).reverse :: ·) <$> scanFrom .blank cs :=
    scanFrom_quote
  have hrun : ∀ c ∈ word, ∀ text,
      (Scan.line .literal text).step c = some ([], .line .literal (c :: text)) := fun c hc text =>
    Scan.step_plain (h c hc).1 (h c hc).2 nofun
  rw [scanFrom_run hrun, hquote, List.reverse_append, List.reverse_reverse]

/-- Behind the first quote a string goes on as in its middle, unless it ends at once. -/
theorem scanFrom_opened (hc : c ≠ q.char) :
    scanFrom (.opened q false) (c :: cs) = scanFrom (.line q []) (c :: cs) := by
  have hstep : (Scan.opened q false).step c = (Scan.line q []).step c := by
    rw [Scan.step, Scan.step, if_neg hc, if_neg hc]
    rfl
  rw [scanFrom, scanFrom, hstep]

/-- Two quotes are an empty string. -/
theorem scanFrom_empty (hcs : Stops cs) :
    scanFrom .blank (q.char :: q.char :: cs) = (.string false [] :: ·) <$> scanFrom .blank cs := by
  have hstops : ∀ q : Quote, ∀ c ∈ stops, c ≠ q.char := by
    intro q
    cases q <;> exact List.all_iff_forall_prop.1 (by decide)
  have hfirst : Scan.step q.char .blank = some ([], .opened q false) := by
    cases q <;> rfl
  have hsecond : (Scan.opened q false).step q.char = some ([], .opened q true) := by
    rw [Scan.step, if_pos rfl]
    rfl
  rw [scanFrom_cons_none hfirst, scanFrom_cons_none hsecond]
  refine scanFrom_ends rfl fun c hc => ?_
  rw [Scan.step, if_neg (hstops q c (hcs c hc)), if_pos rfl]

/-- A text that is one token: one without space and punctuation, or a string. -/
inductive Piece : Token → List Char → Prop
  | atom {text : List Char} (hne : text ≠ []) (h : ∀ c ∈ text, Scan.isAtomChar c = true) :
    Piece (.atom text) text
  | basic {str : String} {word : List Char} (h : SpellsString str word) :
    Piece (.string false str.toList) word
  | literal {text : List Char} (h : ∀ c ∈ text, IsPlain c ∧ c ≠ '\x27') :
    Piece (.string false text) ('\x27' :: (text ++ ['\x27']))

/-- No piece begins with space. -/
theorem Piece.startsFilled (h : Piece t word) (cs : List Char) : StartsFilled (word ++ cs) := by
  intro c hc
  cases h with
  | atom hne h =>
    cases word with
    | nil => exact absurd rfl hne
    | cons c' word =>
      obtain rfl : c' = c := Option.some.inj hc
      exact isSpace_of_isAtomChar (h c' List.mem_cons_self)
  | basic h =>
    obtain ⟨-⟩ := h
    cases hc
    rfl
  | literal h =>
    cases hc
    rfl

theorem scanFrom_basic {str : String} (h : SpellsString str word) (hcs : Stops cs) :
    scanFrom .blank (word ++ cs) = (.string false str.toList :: ·) <$> scanFrom .blank cs := by
  obtain ⟨htext⟩ := h
  have hfirst : Scan.step '"' .blank = some ([], .opened .basic false) := rfl
  generalize str.toList = chars at htext ⊢
  cases htext with
  | nil => exact scanFrom_empty (q := .basic) hcs
  | @cons c chars one inner hone hrest =>
    have hall : scanFrom (.line .basic []) (one ++ inner ++ '"' :: cs) =
        (.string false (c :: chars) :: ·) <$> scanFrom .blank cs :=
      scanFrom_spellsText (.cons hone hrest)
    have hopened : scanFrom (.opened .basic false) (one ++ inner ++ '"' :: cs) =
        scanFrom (.line .basic []) (one ++ inner ++ '"' :: cs) := by
      cases hone with
      | plain _ hquote _ => exact scanFrom_opened (q := .basic) hquote
      | short _ => exact scanFrom_opened (q := .basic) (by decide)
      | hex _ _ _ _ => exact scanFrom_opened (q := .basic) (by decide)
    rw [List.cons_append, List.append_assoc, List.singleton_append, scanFrom_cons_none hfirst,
      hopened, hall]

theorem scanFrom_quoted (h : ∀ c ∈ text, IsPlain c ∧ c ≠ '\x27') (hcs : Stops cs) :
    scanFrom .blank ('\x27' :: (text ++ ['\x27']) ++ cs) =
      (.string false text :: ·) <$> scanFrom .blank cs := by
  have hfirst : Scan.step '\x27' .blank = some ([], .opened .literal false) := rfl
  cases text with
  | nil => exact scanFrom_empty (q := .literal) hcs
  | cons c text =>
    have hquote : c ≠ '\x27' := (h c List.mem_cons_self).2
    have hall : scanFrom (.line .literal []) (c :: text ++ '\x27' :: cs) =
        (.string false (c :: text) :: ·) <$> scanFrom .blank cs :=
      scanFrom_literal h
    rw [List.cons_append, List.append_assoc, List.singleton_append, scanFrom_cons_none hfirst,
      List.cons_append, scanFrom_opened (q := .literal) hquote, ← List.cons_append, hall]

/-- **A piece is one token.** -/
theorem scanFrom_piece (h : Piece t word) (hcs : Stops cs) :
    scanFrom .blank (word ++ cs) = (t :: ·) <$> scanFrom .blank cs := by
  cases h with
  | atom hne h => exact scanFrom_atomText hne h hcs
  | basic h => exact scanFrom_basic h hcs
  | literal h => exact scanFrom_quoted h hcs

/-! ## Behind the value -/

/-- Nothing in a comment is a token, and a line break ends it. -/
theorem scanFrom_commentText (h : ∀ c ∈ word, IsPlain c) (hrest : Remainder rest) :
    scanFrom .comment (word ++ rest) = scanFrom .blank rest := by
  induction word with
  | nil =>
    cases hrest with
    | nothing => rfl
    | @lines eol heol cs =>
      have hcomment : scanFrom .comment (eol ++ cs) = _ := scanFrom_lineEnd rfl heol
      have hblank : scanFrom .blank (eol ++ cs) = _ := scanFrom_lineEnd rfl heol
      rw [List.nil_append, hcomment, hblank]
  | cons c word ih =>
    obtain ⟨hc, hword⟩ := List.forall_mem_cons.1 h
    have hbreak : ¬ (c = '\n' ∨ c = '\r') := by
      rintro (rfl | rfl)
      · exact absurd (Scan.isPlain_iff.2 hc) (by decide)
      · exact absurd (Scan.isPlain_iff.2 hc) (by decide)
    have hstep : Scan.step c .comment = some ([], .comment) := by
      rw [Scan.step, if_neg hbreak, if_pos (Scan.isPlain_iff.2 hc)]
    rw [List.cons_append, scanFrom_cons_none hstep, ih hword]

/-- A comment leaves no token. -/
theorem scanFrom_comment (h : SpellsComment word) (hrest : Remainder rest) :
    scanFrom .blank (word ++ rest) = scanFrom .blank rest := by
  cases h with
  | none => rfl
  | some h =>
    have hstart : Scan.step '#' .blank = some ([], .comment) := rfl
    rw [List.cons_append, scanFrom_cons_none hstart, scanFrom_commentText h hrest]

end Token

/-! ## Statements -/

namespace Statement

open Token (Piece spaces)

variable {r r' : Reading} {t : Token} {ts : List Token} {path : Path} {key : String} {v : Scalar}

/-- A token that completes no statement. -/
theorem listFrom_cons_none (h : r.step t = some ([], r')) :
    listFrom r (t :: ts) = listFrom r' ts := by
  rw [listFrom_cons h]
  exact congrFun Option.map_id_fun' _

/-- Space between pieces is passed over. -/
theorem listFrom_spaces (h : ∀ w, r.step (.space w) = some ([], r)) :
    listFrom r (spaces w ++ ts) = listFrom r ts := by
  cases w with
  | nil => rfl
  | cons c w => exact listFrom_cons_none (h (c :: w))

/-- A key is a piece that begins an assignment. -/
theorem exists_piece_of_spellsKey (h : SpellsKey key word) :
    ∃ t, Piece t word ∧ Reading.step .lineStart t = some ([], .keyPart .assignment [] key) := by
  have hkey : String.ofList key.toList = key := String.ofList_toList
  have hstring : Reading.step .lineStart (.string false key.toList) =
      some ([], .keyPart .assignment [] key) := by
    simp [Reading.step, Reading.stepBetween, Reading.startKey, Reading.goOn, hkey]
  cases h with
  | bare hne h =>
    have hall : key.toList.all isKeyChar = true :=
      List.all_eq_true.2 fun c hc => isKeyChar_iff.2 (h c hc)
    refine ⟨.atom key.toList, .atom hne fun c hc => isAtomChar_of_isKeyChar (h c hc), ?_⟩
    simp [Reading.step, Reading.stepBetween, Reading.startKey, Reading.goOn, hall, hkey]
  | basic h => exact ⟨_, .basic h, hstring⟩
  | literal h => exact ⟨_, .literal h, hstring⟩

/-- The tokens of a remainder: none, or a line break and others. -/
def Ends (ts : List Token) : Prop :=
  ts = [] ∨ ∃ ts', ts = .newline :: ts'

/-- Behind a value, and the space after it, the line ends. -/
theorem listFrom_lineEnd (hts : Ends ts) : listFrom .lineEnd (spaces w ++ ts) = listOf? ts := by
  rw [listFrom_spaces fun w => rfl]
  rcases hts with rfl | ⟨ts, rfl⟩
  · rfl
  · exact (listFrom_cons_none rfl).trans (listFrom_cons_none rfl).symm

/-- A string is the value of its assignment. -/
theorem listFrom_string (hts : Ends ts) :
    listFrom (.value [.assignment path]) (.string false text :: (spaces w ++ ts)) =
      (listOf? ts).map (.assignment path (.scalar (.string (String.ofList text))) :: ·) := by
  have hstep : Reading.step (.value [.assignment path]) (.string false text) =
      some ([.assignment path (.scalar (.string (String.ofList text)))], .lineEnd) := rfl
  rw [listFrom_cons hstep, listFrom_lineEnd hts]
  rfl

/-- A reading that is complete but for the kind of its value goes on if there is one. -/
theorem listFrom_placed (hts : Ends ts)
    (hfinish : r.finish = do
      match ← Reading.placedPlain text [.assignment path] with
      | (complete, .lineEnd) => return complete
      | _ => none)
    (hstep : r.step .newline = Reading.stepAfter text [.assignment path] .newline) :
    listFrom r ts = (Scalar.ofChars? text).bind fun v =>
      (listOf? ts).map (.assignment path (.scalar v) :: ·) := by
  rcases hts with rfl | ⟨ts, rfl⟩
  · rw [listFrom, hfinish, Reading.placedPlain]
    cases Scalar.ofChars? text <;> rfl
  · have hplaced : Reading.stepAfter text [.assignment path] .newline =
        (Scalar.ofChars? text).map fun v => ([.assignment path (.scalar v)], .lineStart) := by
      rw [Reading.stepAfter, Reading.placedPlain]
      cases Scalar.ofChars? text <;> rfl
    have hrest : listOf? (.newline :: ts) = listFrom .lineStart ts := listFrom_cons_none rfl
    rw [listFrom, hstep, hplaced, hrest]
    cases Scalar.ofChars? text <;> rfl

/-- A text without quotes is the value of its assignment if it is a scalar, and else the
document is wrong. -/
theorem listFrom_atom (hts : Ends ts) :
    listFrom (.value [.assignment path]) (.atom text :: (spaces w ++ ts)) =
      (Scalar.ofChars? text).bind fun v =>
        (listOf? ts).map (.assignment path (.scalar v) :: ·) := by
  have hvalue : Reading.step (.value [.assignment path]) (.atom text) =
      some ([], .plain text [.assignment path]) := rfl
  rw [listFrom_cons_none hvalue]
  cases w with
  | nil => exact listFrom_placed hts rfl rfl
  | cons c w =>
    have hspace : Reading.step (.plain text [.assignment path]) (.space (c :: w)) =
        some ([], .plainSpace text (c :: w) [.assignment path]) := rfl
    exact (listFrom_cons_none hspace).trans (listFrom_placed hts rfl rfl)

/-- A scalar is a piece that completes the assignment it is the value of, unless it is a
number beyond the limits. -/
theorem exists_piece_of_spellsScalar (h : SpellsScalar v word) :
    ∃ t, Piece t word ∧ ∀ path w ts, Ends ts →
      listFrom (.value [.assignment path]) (t :: (spaces w ++ ts)) =
        if v.InLimits then (listOf? ts).map (.assignment path (.scalar v) :: ·) else none := by
  cases h with
  | bool b =>
    have hatom : ∀ b : Bool, (if b then "true" else "false").toList ≠ [] ∧
        (if b then "true" else "false").toList.all Scan.isAtomChar = true ∧
        Scalar.ofChars? (if b then "true" else "false").toList = some (.bool b) := by
      decide
    obtain ⟨hne, hchars, hvalue⟩ := hatom b
    refine ⟨_, .atom hne (List.all_eq_true.1 hchars), fun path w ts hts => ?_⟩
    have hlimits : Scalar.InLimits (.bool b) := trivial
    rw [listFrom_atom hts, hvalue, if_pos hlimits]
    rfl
  | integer h =>
    have hchars : ∀ c ∈ Scalar.integerChars, Scan.isAtomChar c = true :=
      List.all_iff_forall_prop.1 (by decide)
    refine ⟨_, .atom (Scalar.ne_nil_of_spells h) fun c hc =>
      hchars c (Scalar.mem_integerChars h c hc), fun path w ts hts => ?_⟩
    rw [listFrom_atom hts, Scalar.ofChars?_integer h]
    split <;> rfl
  | @string s word h =>
    refine ⟨_, .basic h, fun path w ts hts => ?_⟩
    have hlimits : Scalar.InLimits (.string s) := trivial
    rw [listFrom_string hts, String.ofList_toList, if_pos hlimits]

/-- The tokens of a remainder begin with a line break, if there are any. -/
theorem ends_of_remainder (hrest : Remainder rest) (h : Token.scanFrom .blank rest = some ts) :
    Ends ts := by
  cases hrest with
  | nothing =>
    cases h
    exact Or.inl rfl
  | lines heol cs =>
    rw [Token.scanFrom_lineEnd rfl heol] at h
    obtain ⟨ts', -, rfl⟩ := Option.map_eq_some_iff.1 h
    exact Or.inr ⟨ts', rfl⟩

/-- **A spelled assignment is read as that assignment**, whatever is left behind its line.
If it is of a number beyond the limits, nothing is read. -/
theorem ofChars?_spelled {line : List Char} (h : SpellsAssignment key v line)
    (hrest : Remainder rest) :
    ofChars? (line ++ rest) =
      if v.InLimits then (ofChars? rest).map (.assignment ⟨[], key⟩ (.scalar v) :: ·)
      else none := by
  obtain @⟨w₁, w₂, w₃, w₄, k, value, comment, h₁, hkey, h₂, h₃, hvalue, h₄, hcomment⟩ := h
  obtain ⟨tk, hk, hbegins⟩ := exists_piece_of_spellsKey hkey
  obtain ⟨tv, hv, hcompletes⟩ := exists_piece_of_spellsScalar hvalue
  have hequals : Scan.step '=' .blank = some ([.equals], .blank) := rfl
  have hbehind : Breaks (comment ++ rest) := breaks_comment hcomment hrest
  have hscan : Token.scanFrom .blank
      (w₁ ++ (k ++ (w₂ ++ ('=' :: (w₃ ++ (value ++ (w₄ ++ comment)))))) ++ rest) =
        (fun ts => spaces w₁ ++ tk :: (spaces w₂ ++
          .equals :: (spaces w₃ ++ tv :: (spaces w₄ ++ ts)))) <$> Token.scanFrom .blank rest := by
    simp only [List.append_assoc, List.cons_append]
    rw [Token.scanFrom_spaces h₁ (hk.startsFilled _),
      Token.scanFrom_piece hk ((breaks_equals _).stops h₂),
      Token.scanFrom_spaces h₂ (breaks_equals _).startsFilled, Token.scanFrom_cons hequals,
      Token.scanFrom_spaces h₃ (hv.startsFilled _), Token.scanFrom_piece hv (hbehind.stops h₄),
      Token.scanFrom_spaces h₄ hbehind.startsFilled, Token.scanFrom_comment hcomment hrest]
    simp only [Option.map_eq_map, Option.map_map, Function.comp_def, List.singleton_append]
  rw [ofChars?, hscan, ofChars?]
  cases hts : Token.scanFrom .blank rest with
  | none => simp
  | some ts =>
    have hends : Ends ts := ends_of_remainder hrest hts
    rw [Option.map_eq_map, Option.map_some, Option.bind_some, Option.bind_some, listOf?,
      listFrom_spaces fun w => rfl, listFrom_cons_none hbegins, listFrom_spaces fun w => rfl]
    have hequals' : Reading.step (.keyPart .assignment [] key) .equals =
        some ([], .value [.assignment ⟨[], key⟩]) := rfl
    rw [listFrom_cons_none hequals', listFrom_spaces fun w => rfl, hcompletes _ _ _ hends]

end Statement

end Toml

end IdleStop
