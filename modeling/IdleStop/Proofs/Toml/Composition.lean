import IdleStop.Toml.Document
import Mathlib.Data.List.Basic
/-!
# Documents in pieces

Where a text could end, a line can end: whatever its end would finish, a line break
finishes too (`Scan.step_of_finish`, `Reading.step_newline`). So a text that is read as
statements on its own is read as the same statements in front of a line break, whatever
comes after it (`Statement.ofChars?_append`), and a document can be put together from
texts that are read on their own.
-/

namespace IdleStop

namespace Toml

/-- What ends a line. -/
def lineEnds : List (List Char) :=
  [['\n'], ['\r', '\n']]

/-- What may be left of a text behind a line: nothing, or the end of the line and
anything. -/
inductive Remainder : List Char → Prop
  | nothing : Remainder []
  | lines {eol : List Char} (heol : eol ∈ lineEnds) (cs : List Char) : Remainder (eol ++ cs)

variable {cs cs' eol text : List Char} {c : Char}

/-! ## Tokens -/

section Tokens

variable {scan scan' : Scan} {tokens finished : List Token}

/-- **A line break finishes the tokens that the end of the text would.** -/
theorem Scan.step_of_finish (h : scan.finish = some tokens) (hc : c = '\n' ∨ c = '\r') :
    scan.step c = (start c).map fun (further, scan') => (tokens ++ further, scan') := by
  unfold finish at h
  split at h
  · cases h
    rcases hc with rfl | rfl <;> rfl
  · cases h
    rcases hc with rfl | rfl <;> rfl
  · cases h
    rcases hc with rfl | rfl <;> rfl
  · cases h
    rcases hc with rfl | rfl <;> rfl
  · next q =>
    cases h
    rcases hc with rfl | rfl <;> cases q <;> rfl
  · next q text quotes =>
    split at h
    · next hclosed =>
      cases h
      have hquote : c ≠ q.char := by
        rcases hc with rfl | rfl <;> cases q <;> decide
      rw [step, if_neg fun h => hquote h.1, if_pos hclosed]
      rfl
    · cases h
  · cases h

namespace Token

/-- The tokens that a character finishes come first. -/
theorem scanFrom_cons (h : scan.step c = some (finished, scan')) :
    scanFrom scan (c :: cs) = (finished ++ ·) <$> scanFrom scan' cs := by
  rw [scanFrom, h]

/-- A text that is scanned is scanned character by character. -/
theorem scanFrom_cons_eq_some (h : scanFrom scan (c :: cs) = some tokens) :
    ∃ finished scan' further, scan.step c = some (finished, scan') ∧
      scanFrom scan' cs = some further ∧ tokens = finished ++ further := by
  cases hstep : scan.step c with
  | none =>
    rw [scanFrom, hstep] at h
    cases h
  | some result =>
    obtain ⟨finished, scan'⟩ := result
    rw [scanFrom_cons hstep] at h
    obtain ⟨further, hfurther, rfl⟩ := Option.map_eq_some_iff.1 h
    exact ⟨finished, scan', further, rfl, hfurther, rfl⟩

/-- At the end of a text a line may end instead. -/
theorem scanFrom_lineEnd (h : scan.finish = some tokens) (heol : eol ∈ lineEnds) :
    scanFrom scan (eol ++ cs) = (tokens ++ .newline :: ·) <$> scanFrom .blank cs := by
  rw [lineEnds, List.mem_cons, List.mem_singleton] at heol
  rcases heol with rfl | rfl
  · have hstep := Scan.step_of_finish h (Or.inl rfl)
    rw [List.singleton_append, scanFrom_cons hstep]
    simp only [List.append_assoc, List.singleton_append]
  · have hstep := Scan.step_of_finish h (Or.inr rfl)
    rw [List.cons_append, scanFrom_cons hstep, List.singleton_append, scanFrom_cons rfl]
    simp only [List.append_nil, Option.map_eq_map, Option.map_map, Function.comp_def,
      List.singleton_append]

/-- **A text that is scanned on its own is scanned alike in front of a line break.** -/
theorem scanFrom_append (h : scanFrom scan cs = some tokens) (heol : eol ∈ lineEnds) :
    scanFrom scan (cs ++ (eol ++ cs')) = (tokens ++ .newline :: ·) <$> scanFrom .blank cs' := by
  induction cs generalizing scan tokens with
  | nil => exact scanFrom_lineEnd h heol
  | cons c cs ih =>
    obtain ⟨finished, scan', further, hstep, hfurther, rfl⟩ := scanFrom_cons_eq_some h
    rw [List.cons_append, scanFrom_cons hstep, ih hfurther]
    simp only [Option.map_eq_map, Option.map_map, Function.comp_def, List.append_assoc]

/-- An atom goes on with what stood for it already. -/
theorem scanFrom_atom (h : scanFrom (.atom text) cs = some tokens) :
    ∃ more rest, tokens = .atom (text.reverse ++ more) :: rest := by
  induction cs generalizing text tokens with
  | nil =>
    cases h
    exact ⟨[], [], by rw [List.append_nil]⟩
  | cons c cs ih =>
    obtain ⟨finished, scan', further, hstep, hfurther, rfl⟩ := scanFrom_cons_eq_some h
    rw [Scan.step] at hstep
    split at hstep
    · cases hstep
      obtain ⟨more, rest, rfl⟩ := ih hfurther
      exact ⟨c :: more, rest, by simp⟩
    · obtain ⟨⟨begun, scan''⟩, -, hresult⟩ := Option.map_eq_some_iff.1 hstep
      cases hresult
      exact ⟨[], begun ++ further, by simp⟩

end Token

end Tokens

/-! ## Statements -/

section Statements

variable {r r' : Reading} {tokens tokens' : List Token} {statements complete : List Statement}
variable {frames : List Frame} {token : Token}

/-- A value without quotes that could end the document ends its line. -/
theorem Reading.stepAfter_newline
    (h : (do
      match ← placedPlain text frames with
      | (complete, lineEnd) => return complete
      | _ => none) = some complete) :
    stepAfter text frames .newline = some (complete, .lineStart) := by
  obtain ⟨⟨placed, reading⟩, hplaced, h⟩ := Option.bind_eq_some_iff.1 h
  rw [stepAfter, hplaced]
  cases reading <;> cases h
  rw [Option.bind_eq_bind, Option.bind_some]
  simp [stepBetween, goOn]

/-- **A line break completes the statements that the end of the document would.** -/
theorem Reading.step_newline (h : r.finish = some complete) :
    r.step .newline = some (complete, .lineStart) := by
  unfold finish at h
  split at h
  · cases h
    rfl
  · cases h
    rfl
  · exact stepAfter_newline h
  · exact stepAfter_newline h
  · cases h

namespace Statement

/-- The statements that a token completes come first. -/
theorem listFrom_cons (h : r.step token = some (complete, r')) :
    listFrom r (token :: tokens) = (listFrom r' tokens).map (complete ++ ·) := by
  rw [listFrom, h]

/-- Tokens that are read are read one by one. -/
theorem listFrom_cons_eq_some (h : listFrom r (token :: tokens) = some statements) :
    ∃ complete r' further, r.step token = some (complete, r') ∧
      listFrom r' tokens = some further ∧ statements = complete ++ further := by
  cases hstep : r.step token with
  | none =>
    rw [listFrom, hstep] at h
    cases h
  | some result =>
    obtain ⟨complete, r'⟩ := result
    rw [listFrom_cons hstep] at h
    obtain ⟨further, hfurther, rfl⟩ := Option.map_eq_some_iff.1 h
    exact ⟨complete, r', further, rfl, hfurther, rfl⟩

/-- **Tokens that are statements on their own are the same statements in front of a line
break.** -/
theorem listFrom_append (h : listFrom r tokens = some statements) (tokens' : List Token) :
    listFrom r (tokens ++ .newline :: tokens') = (listOf? tokens').map (statements ++ ·) := by
  induction tokens generalizing r statements with
  | nil => exact listFrom_cons (Reading.step_newline h)
  | cons token tokens ih =>
    obtain ⟨complete, r', further, hstep, hfurther, rfl⟩ := listFrom_cons_eq_some h
    rw [List.cons_append, listFrom_cons hstep, ih hfurther]
    simp only [Option.map_map, Function.comp_def, List.append_assoc]

/-- The statements of a text that has no byte order mark. -/
def ofChars? (cs : List Char) : Option (List Statement) :=
  (Token.scanFrom .blank cs).bind listOf?

/-- **A text that is read on its own is read alike in front of a line break**, and what
comes after it as it would be on its own. -/
theorem ofChars?_append (h : ofChars? cs = some statements) (heol : eol ∈ lineEnds)
    (cs' : List Char) :
    ofChars? (cs ++ (eol ++ cs')) = (ofChars? cs').map (statements ++ ·) := by
  obtain ⟨tokens, htokens, hstatements⟩ := Option.bind_eq_some_iff.1 h
  rw [ofChars?, Token.scanFrom_append htokens heol, ofChars?]
  cases Token.scanFrom .blank cs' with
  | none => rfl
  | some tokens' => exact listFrom_append hstatements tokens'

/-- A line break in front is passed over. -/
theorem ofChars?_lineEnd (heol : eol ∈ lineEnds) (cs : List Char) :
    ofChars? (eol ++ cs) = ofChars? cs := by
  have hempty : ofChars? [] = some [] := rfl
  have happend := ofChars?_append hempty heol cs
  simpa using happend

/-- Whole lines and the statements on them. -/
inductive Lines : List Statement → List Char → Prop
  | nothing : Lines [] []
  | lines {statements : List Statement} {cs eol : List Char} (h : ofChars? cs = some statements)
      (heol : eol ∈ lineEnds) : Lines statements (cs ++ eol)

/-- What is read on its own is read alike in front of a remainder. -/
theorem ofChars?_remainder (h : ofChars? cs = some statements) (hcs' : Remainder cs') :
    ofChars? (cs ++ cs') = (ofChars? cs').map (statements ++ ·) := by
  cases hcs' with
  | nothing =>
    have hempty : ofChars? [] = some [] := rfl
    rw [List.append_nil, h, hempty, Option.map_some, List.append_nil]
  | lines heol cs' => rw [ofChars?_append h heol, ofChars?_lineEnd heol]

/-- Whole lines are read alike in front of anything. -/
theorem ofChars?_lines (h : Lines statements cs) (cs' : List Char) :
    ofChars? (cs ++ cs') = (ofChars? cs').map (statements ++ ·) := by
  cases h with
  | nothing => simp
  | lines h heol => rw [List.append_assoc, ofChars?_append h heol]

/-- No statement begins with a byte order mark. -/
theorem ofChars?_mark (cs : List Char) : ofChars? ('\uFEFF' :: cs) = none := by
  cases hscan : Token.scanFrom (.atom ['\uFEFF']) cs with
  | none =>
    have hall : Token.scanFrom .blank ('\uFEFF' :: cs) = none := by
      rw [Token.scanFrom_cons rfl, hscan]
      rfl
    rw [ofChars?, hall]
    rfl
  | some tokens =>
    obtain ⟨more, rest, rfl⟩ := Token.scanFrom_atom hscan
    have hkey : (['\uFEFF'].reverse ++ more).all isKeyChar = false := by
      rw [List.all_append]
      rfl
    have hall : Token.scanFrom .blank ('\uFEFF' :: cs) =
        some (.atom (['\uFEFF'].reverse ++ more) :: rest) := by
      rw [Token.scanFrom_cons rfl, hscan]
      rfl
    have hstep : Reading.step .lineStart (.atom (['\uFEFF'].reverse ++ more)) = none := by
      rw [Reading.step, Reading.stepBetween, Reading.startKey, hkey] <;> simp
    rw [ofChars?, hall, Option.bind_some, listOf?, listFrom, hstep]

end Statement

/-- A text that is read does not begin with a byte order mark. -/
theorem Statement.head?_ne_mark (h : ofChars? cs = some statements) :
    cs.head? ≠ some '\uFEFF' := by
  intro hmark
  obtain ⟨cs', rfl⟩ := List.head?_eq_some_iff.1 hmark
  rw [ofChars?_mark] at h
  cases h

/-- **The document of a text is made of its statements.** -/
theorem Document.parse?_ofList (hmark : cs.head? ≠ some '\uFEFF') :
    Document.parse? (String.ofList cs) = (Statement.ofChars? cs).bind fun statements =>
      (statements.foldlM Document.add .empty).map Document.members := by
  have hscan : Token.scan? cs = Token.scanFrom .blank cs := by
    unfold Token.scan?
    split
    · exact absurd rfl hmark
    · rfl
  have hchars : (String.ofList cs).toList = cs := String.toList_ofList
  simp only [Document.parse?, hchars, hscan, Statement.ofChars?, Option.bind_eq_bind,
    Option.bind_assoc, Option.pure_def, Option.map_eq_bind, Function.comp_def]

end Statements

end Toml

end IdleStop
