import IdleStop.Proofs.Settings
import IdleStop.Proofs.Settings.Statements
import IdleStop.Proofs.Text.Utf8
import IdleStop.Proofs.Toml.Line
/-!
# Settings files

A file that assigns settings on lines of their own, among comments, blank lines and
assignments of unknown keys and in front of unknown tables, sets what it assigns and leaves
everything else at its default. A file that assigns one of the six keys anything else, or
assigns a key twice, holds no settings, whatever else is in it.
-/

namespace IdleStop

namespace Toml

variable {key : String} {v : Scalar} {line part rest before cs : List Char}
variable {statement : Statement} {statements : List Statement} {o : Option Statement}

namespace Statement

/-- A text that is one statement at the start of a line, or that leaves nothing to read. -/
structure IsPart (o : Option Statement) (part : List Char) : Prop where
  head?_ne_mark : ∀ cs, (part ++ cs).head? ≠ some '\uFEFF'
  read : ∀ rest, Remainder rest → ofChars? (part ++ rest) =
    o.bind fun statement => (ofChars? rest).map (statement :: ·)

/-- A text that is read as one statement on its own is a part. -/
theorem isPart_of_ofChars? (h : ofChars? part = some [statement]) :
    IsPart (some statement) part where
  head?_ne_mark cs := by
    have hne : part ≠ [] := by
      rintro rfl
      cases h
    rw [List.head?_append_of_ne_nil part hne]
    exact Statement.head?_ne_mark h
  read rest hrest := ofChars?_remainder h hrest

theorem head?_ne_mark_of_spells (h : SpellsAssignment key v line) (cs : List Char) :
    (line ++ cs).head? ≠ some '\uFEFF' := by
  obtain @⟨w₁, w₂, w₃, w₄, k, value, comment, h₁, hkey, -⟩ := h
  intro hmark
  have hword : ∀ cs, (k ++ cs).head? ≠ some '\uFEFF' := by
    intro cs hmark
    cases hkey with
    | bare hne h =>
      rw [List.head?_append_of_ne_nil _ hne] at hmark
      have hletter := h _ (List.mem_of_mem_head? hmark)
      unfold IsKeyChar at hletter
      exact absurd hletter (by decide)
    | basic h =>
      obtain ⟨-⟩ := h
      cases hmark
    | literal h => cases hmark
  cases w₁ with
  | nil =>
    rw [List.nil_append, List.append_assoc] at hmark
    exact hword _ hmark
  | cons c w =>
    cases hmark
    rcases h₁ '\uFEFF' List.mem_cons_self with h | h <;> cases h

/-- A spelled assignment is a part. -/
theorem isPart_of_spells (h : SpellsAssignment key v line) :
    IsPart (if v.InLimits then some (.assignment ⟨[], key⟩ (.scalar v)) else none) line where
  head?_ne_mark := head?_ne_mark_of_spells h
  read rest hrest := by
    rw [ofChars?_spelled h hrest]
    split <;> rfl

/-- Whole lines do not bring a byte order mark to the front. -/
theorem Lines.head?_ne_mark (h : Lines statements before) (hcs : cs.head? ≠ some '\uFEFF') :
    (before ++ cs).head? ≠ some '\uFEFF' := by
  cases h with
  | nothing => exact hcs
  | @lines _ text eol h heol =>
    cases text with
    | nil =>
      rw [lineEnds, List.mem_cons, List.mem_singleton] at heol
      rcases heol with rfl | rfl <;> simp
    | cons c text =>
      have hmark : (c :: text).head? ≠ some '\uFEFF' := Statement.head?_ne_mark h
      exact hmark

end Statement

/-- **A document with a part in it**: the statements on the lines in front, the statement
that the part is, and what is left. -/
theorem Document.parse?_part (hbefore : Statement.Lines statements before)
    (hpart : Statement.IsPart o part) (hrest : Remainder rest) :
    Document.parse? (String.ofList (before ++ (part ++ rest))) =
      o.bind fun statement => (Statement.ofChars? rest).bind fun more =>
        ((statements ++ statement :: more).foldlM add .empty).map members := by
  have hmark : (before ++ (part ++ rest)).head? ≠ some '\uFEFF' :=
    hbefore.head?_ne_mark (hpart.head?_ne_mark rest)
  rw [Document.parse?_ofList hmark, Statement.ofChars?_lines hbefore, hpart.read rest hrest]
  cases o with
  | none => rfl
  | some statement => cases Statement.ofChars? rest <;> rfl

end Toml

open Toml (Document Statement SpellsAssignment Remainder lineEnds)

/-- A line assigns a setting. -/
def Setting.Spells (a : Setting) (line : List Char) : Prop :=
  SpellsAssignment a.key a.scalar line

/-- Every setting can be assigned on a line. -/
theorem Setting.exists_spells (a : Setting) : ∃ line, a.Spells line := by
  have hkey : Toml.SpellsKey a.key a.key.toList := by
    have hkeys : ∀ key ∈ keys, key.toList ≠ [] ∧ key.toList.all Toml.isKeyChar = true := by decide
    obtain ⟨hne, hchars⟩ := hkeys _ a.key_mem_keys
    exact .bare hne fun c hc => Toml.isKeyChar_iff.1 (List.all_eq_true.1 hchars c hc)
  have hscalar : ∃ value, Toml.SpellsScalar a.scalar value := by
    cases a with
    | port n =>
      obtain ⟨value, hvalue⟩ := Toml.exists_spellsInteger n.toNat
      exact ⟨value, .integer hvalue⟩
    | ignoreConnections b => exact ⟨_, .bool b⟩
    | metadataPath text | cliPath text | region text | profile text =>
      obtain ⟨value, hvalue⟩ := Toml.exists_spellsString text
      exact ⟨value, .string hvalue⟩
  obtain ⟨value, hvalue⟩ := hscalar
  exact ⟨_, .mk Toml.isBlank_nil hkey Toml.isBlank_nil Toml.isBlank_nil hvalue Toml.isBlank_nil
    .none⟩

namespace Settings

variable {a : Setting} {as : List Setting} {unknown statements : List Statement}
variable {key path : String} {before between part part' rest cs line : List Char} {b : Bool}
variable {s : Settings}

/-- The file that holds a text. -/
def textFile (cs : List Char) : File :=
  .bytes (String.ofList cs).toUTF8.data.toList

theorem readText_textFile (cs : List Char) : (textFile cs).readText = .ok (String.ofList cs) :=
  File.readText_eq_ok_iff.2 ⟨_, rfl, Utf8.decode?_toUTF8 _⟩

theorem ofFile_eq_ok (h : (Document.parse? (String.ofList cs)).bind ofMembers? = some s) :
    ofFile path (textFile cs) = .ok s := by
  rw [ofFile, readText_textFile]
  simp only [h]

theorem ofFile_eq_malformed
    (h : ∀ ms, Document.parse? (String.ofList cs) = some ms → ofMembers? ms = none) :
    ofFile path (textFile cs) = .error (.malformed path) := by
  rw [ofFile, readText_textFile]
  simp only [Option.bind_eq_none_iff.2 h]

/-! ## Files that assign settings -/

/-- A text that assigns settings, one on a line, in this order. Other lines may stand in
between, with comments or nothing on them or with assignments of unknown keys, and at the
end there may be anything about unknown keys, tables as well. -/
inductive Writes : List Setting → List Statement → List Char → Prop
  /-- No settings any more. -/
  | rest {statements : List Statement} {cs : List Char} (h : Statement.ofChars? cs = some statements)
      (hunknown : Statement.AllAbout (isUnknown · = true) none statements) :
    Writes [] statements cs
  /-- A setting on a line that nothing ends. -/
  | last {a : Setting} {line : List Char} (hline : a.Spells line) : Writes [a] [] line
  /-- A setting on a line. -/
  | setting {a : Setting} {as : List Setting} {unknown : List Statement}
      {line eol cs : List Char} (hline : a.Spells line) (heol : eol ∈ lineEnds)
      (hrest : Writes as unknown cs) : Writes (a :: as) unknown (line ++ (eol ++ cs))
  /-- Other lines. -/
  | other {as : List Setting} {statements unknown : List Statement} {before cs : List Char}
      (hbefore : Statement.Lines statements before)
      (hassignments : ∀ statement ∈ statements,
        statement.isAssignment = true ∧ isUnknown statement.first = true)
      (hrest : Writes as unknown cs) : Writes as (statements ++ unknown) (before ++ cs)

theorem Mixes.append {all : List Statement} (h : Mixes as unknown all)
    (hassignments : ∀ statement ∈ statements,
      statement.isAssignment = true ∧ isUnknown statement.first = true) :
    Mixes as (statements ++ unknown) (statements ++ all) := by
  induction statements with
  | nil => exact h
  | cons statement statements ih =>
    obtain ⟨hfirst, hassignments⟩ := List.forall_mem_cons.1 hassignments
    exact .other hfirst.1 hfirst.2 (ih hassignments)

theorem inLimits_scalar (a : Setting) : a.scalar.InLimits := by
  cases a with
  | port n =>
    have hn : n.toNat < 65536 := n.toNat_lt
    have hlow : (65536 : Int) ≤ Nat.pow 2 128 := by decide
    have hhigh : -(Nat.pow 2 127 : Int) ≤ 0 := by decide
    show -(Nat.pow 2 127 : Int) ≤ n.toNat ∧ (n.toNat : Int) < Nat.pow 2 128
    omega
  | ignoreConnections b | metadataPath text | cliPath text | region text | profile text =>
    trivial

/-- The line of a setting is its statement. -/
theorem isPart_of_setting (h : a.Spells line) : Statement.IsPart (some a.statement) line := by
  have hpart := Statement.isPart_of_spells h
  rwa [if_pos (inLimits_scalar a)] at hpart

/-- **What is written is read**: the settings and the other statements, in their order. -/
theorem Writes.mixes (h : Writes as unknown cs) :
    cs.head? ≠ some '\uFEFF' ∧
      ∃ all, Statement.ofChars? cs = some all ∧ Mixes as unknown all := by
  induction h with
  | rest h hunknown => exact ⟨Statement.head?_ne_mark h, _, h, .rest hunknown⟩
  | @last a line hline =>
    have hpart := isPart_of_setting hline
    have hread := hpart.read [] .nothing
    have hmark := hpart.head?_ne_mark []
    rw [List.append_nil] at hread hmark
    exact ⟨hmark, _, hread, .setting a (.rest trivial)⟩
  | @setting a as unknown line eol cs hline heol _ ih =>
    obtain ⟨-, all, hall, hmixes⟩ := ih
    have hpart := isPart_of_setting hline
    have hread := hpart.read _ (.lines heol cs)
    rw [Statement.ofChars?_lineEnd heol, hall] at hread
    exact ⟨hpart.head?_ne_mark _, _, hread, .setting a hmixes⟩
  | other hbefore hassignments _ ih =>
    obtain ⟨hmark, all, hall, hmixes⟩ := ih
    refine ⟨hbefore.head?_ne_mark hmark, _, ?_, hmixes.append hassignments⟩
    rw [Statement.ofChars?_lines hbefore, hall]
    rfl

/-- A file that assigns each key at most once holds the settings that it assigns, in place
of the defaults. -/
theorem ofFile_of_writes (path : String) (h : Writes as unknown cs)
    (hdistinct : (as.map Setting.key).Nodup)
    (hunknown : (unknown.foldlM Document.add .empty).isSome = true) :
    ofFile path (textFile cs) = .ok (as.foldl Setting.set standard) := by
  obtain ⟨hmark, all, hall, hmixes⟩ := h.mixes
  have hempty : ofMembers? Document.empty.members = some standard := rfl
  obtain ⟨d, hd, hs⟩ := hmixes.run hdistinct rfl hempty (fun _ _ => rfl) hunknown
  refine ofFile_eq_ok ?_
  rw [Document.parse?_ofList hmark, hall, Option.bind_some, hd, Option.map_some,
    Option.bind_some, hs]

/-- Every row of settings is written by some text. -/
theorem exists_writes (as : List Setting) : ∃ cs, Writes as [] cs := by
  induction as with
  | nil => exact ⟨[], .rest rfl trivial⟩
  | cons a as ih =>
    obtain ⟨cs, hcs⟩ := ih
    obtain ⟨line, hline⟩ := a.exists_spells
    exact ⟨_, .setting hline List.mem_cons_self hcs⟩

/-- Settings as a row of single ones. -/
def toList (s : Settings) : List Setting :=
  [.port s.port, .ignoreConnections s.ignoreConnections, .metadataPath s.metadataPath] ++
    ((s.control.path.map .cliPath).toList ++ ((s.control.region.map .region).toList ++
      (s.control.profile.map .profile).toList))

/-- **A file can set everything**: whatever the settings are, there is a file that holds
them. -/
theorem exists_ofFile (path : String) (s : Settings) : ∃ cs, ofFile path (textFile cs) = .ok s := by
  obtain ⟨cs, hcs⟩ := exists_writes s.toList
  obtain ⟨port, ignoreConnections, metadataPath, cliPath, region, profile⟩ := s
  refine ⟨cs, ?_⟩
  have hdistinct : ((toList ⟨port, ignoreConnections, metadataPath,
      ⟨cliPath, region, profile⟩⟩).map Setting.key).Nodup := by
    cases cliPath <;> cases region <;> cases profile <;> simp [toList, Setting.key]
  rw [ofFile_of_writes path hcs hdistinct rfl]
  cases cliPath <;> cases region <;> cases profile <;> rfl

/-! ## Files that misuse a key -/

/-- A text that uses a key as no setting does, and whether it assigns it. -/
inductive Misuses (key : String) : Bool → List Char → Prop
  /-- A line that assigns it a value that it cannot be set to: a port out of range, or a
  value of another type. -/
  | line {v : Toml.Scalar} {line : List Char} (h : SpellsAssignment key v line)
      (hv : ∀ a : Setting, a.key = key → a.scalar ≠ v) : Misuses key true line
  /-- Any other text that is one statement about it and not a setting. -/
  | other {statement : Statement} {part : List Char}
      (h : Statement.ofChars? part = some [statement]) (hkey : statement.first = key)
      (hstatement : ∀ a : Setting, statement ≠ a.statement) :
    Misuses key statement.isAssignment part

/-- A text that assigns a value to a key. -/
inductive Assigns (key : String) : List Char → Prop
  /-- A line. -/
  | line {v : Toml.Scalar} {line : List Char} (h : SpellsAssignment key v line) : Assigns key line
  /-- Any other text that is one assignment. -/
  | other {v : Toml.Value} {part : List Char}
      (h : Statement.ofChars? part = some [.assignment ⟨[], key⟩ v]) : Assigns key part

/-- A misuse is a statement about the key and not a setting, if it is anything. -/
theorem Misuses.isPart (h : Misuses key b part) :
    ∃ o, Statement.IsPart o part ∧ ∀ statement ∈ o, statement.first = key ∧
      statement.isAssignment = b ∧ ∀ a : Setting, statement ≠ a.statement := by
  cases h with
  | @line v line h hv =>
    refine ⟨_, Statement.isPart_of_spells h, fun statement hstatement => ?_⟩
    obtain ⟨-, heq⟩ := Option.ite_none_right_eq_some.1 hstatement
    cases heq
    refine ⟨rfl, rfl, fun a ha => ?_⟩
    cases ha
    exact hv a rfl rfl
  | other h hkey hstatement =>
    refine ⟨_, Statement.isPart_of_ofChars? h, ?_⟩
    rintro _ ⟨⟩
    exact ⟨hkey, rfl, hstatement⟩

theorem Assigns.isPart (h : Assigns key part) :
    ∃ o, Statement.IsPart o part ∧ ∀ statement ∈ o, ∃ v, statement = .assignment ⟨[], key⟩ v := by
  cases h with
  | line h =>
    refine ⟨_, Statement.isPart_of_spells h, fun statement hstatement => ?_⟩
    obtain ⟨-, heq⟩ := Option.ite_none_right_eq_some.1 hstatement
    exact ⟨_, (Option.some.inj heq).symm⟩
  | other h =>
    refine ⟨_, Statement.isPart_of_ofChars? h, ?_⟩
    rintro _ ⟨⟩
    exact ⟨_, rfl⟩

/-- A file that uses one of the six keys as no setting does holds no settings. -/
theorem ofFile_of_misuses (path : String) (hbefore : Statement.Lines statements before)
    (hpart : Misuses key b part) (hkey : key ∈ Setting.keys)
    (habove : b = true → ∀ statement ∈ statements, statement.isAssignment = true)
    (hrest : Remainder rest) :
    ofFile path (textFile (before ++ (part ++ rest))) = .error (.malformed path) := by
  obtain ⟨o, hpart, ho⟩ := hpart.isPart
  refine ofFile_eq_malformed fun ms hms => ?_
  rw [Document.parse?_part hbefore hpart hrest] at hms
  obtain ⟨statement, hstatement, hms⟩ := Option.bind_eq_some_iff.1 hms
  obtain ⟨more, -, hms⟩ := Option.bind_eq_some_iff.1 hms
  obtain ⟨d, hrun, rfl⟩ := Option.map_eq_some_iff.1 hms
  obtain ⟨d₁, d₂, hrun₁, hadd, hmore⟩ := Document.exists_of_run hrun
  obtain ⟨hfirst, hassignment, hmisuse⟩ := ho statement hstatement
  have hcurrent : statement.isAssignment = true → d₁.current = none := fun h =>
    Document.current_of_run hrun₁ (habove (hassignment.symm.trans h))
  have habout : statement.about d₁.current ∈ Setting.keys := by
    rwa [Statement.about_eq_first hcurrent, hfirst]
  exact ofMembers?_of_misuse hadd hmore habout hmisuse

/-- A file that assigns a key twice holds no settings. -/
theorem ofFile_of_assigned_twice (path : String) {statements' : List Statement} {eol : List Char}
    (hbefore : Statement.Lines statements before) (hpart : Assigns key part)
    (heol : eol ∈ lineEnds) (hbetween : Statement.Lines statements' between)
    (hpart' : Assigns key part') (hrest : Remainder rest)
    (habove : ∀ statement ∈ statements ++ statements', statement.isAssignment = true) :
    ofFile path (textFile (before ++ (part ++ (eol ++ (between ++ (part' ++ rest)))))) =
      .error (.malformed path) := by
  obtain ⟨o, hpart, ho⟩ := hpart.isPart
  obtain ⟨o', hpart', ho'⟩ := hpart'.isPart
  refine ofFile_eq_malformed fun ms hms => ?_
  rw [Document.parse?_part hbefore hpart (.lines heol _), Statement.ofChars?_lineEnd heol,
    Statement.ofChars?_lines hbetween, hpart'.read rest hrest] at hms
  obtain ⟨statement, hstatement, hms⟩ := Option.bind_eq_some_iff.1 hms
  obtain ⟨more, hmore, hms⟩ := Option.bind_eq_some_iff.1 hms
  obtain ⟨d, hrun, -⟩ := Option.map_eq_some_iff.1 hms
  obtain ⟨more', hmore', rfl⟩ := Option.map_eq_some_iff.1 hmore
  obtain ⟨statement', hstatement', hmore'⟩ := Option.bind_eq_some_iff.1 hmore'
  obtain ⟨after, -, rfl⟩ := Option.map_eq_some_iff.1 hmore'
  obtain ⟨v, rfl⟩ := ho statement hstatement
  obtain ⟨v', rfl⟩ := ho' statement' hstatement'
  have habove' := List.forall_mem_append.1 habove
  rw [Document.run_of_assigned rfl habove'.1 habove'.2] at hrun
  cases hrun

/-! ## Key by key -/

/-- **Each key counts by itself.** A file that assigns some of the six keys, in any order
and each at most once, among comments, blank lines and assignments of unknown keys and in
front of unknown tables, sets those to what it assigns, and all others are at their
defaults. A file that assigns one of the six keys a value of another type or a port out of
range, or makes it a table, or that assigns any key twice, holds no settings. -/
theorem ofFile_assigns_each_key (path : String) :
    (∀ as unknown cs, Writes as unknown cs → (as.map Setting.key).Nodup →
      (unknown.foldlM Document.add .empty).isSome = true →
        ∃ s, ofFile path (textFile cs) = .ok s ∧
          (∀ a ∈ as, s.value? a.key = some a.scalar) ∧
          ∀ key ∉ as.map Setting.key, s.value? key = standard.value? key) ∧
    (∀ key assigned statements before part rest, key ∈ Setting.keys →
      Statement.Lines statements before → Misuses key assigned part → Remainder rest →
      (assigned = true → ∀ statement ∈ statements, statement.isAssignment = true) →
        ofFile path (textFile (before ++ (part ++ rest))) = .error (.malformed path)) ∧
    (∀ key statements before part eol statements' between part' rest,
      Statement.Lines statements before → Assigns key part → eol ∈ lineEnds →
      Statement.Lines statements' between → Assigns key part' → Remainder rest →
      (∀ statement ∈ statements ++ statements', statement.isAssignment = true) →
        ofFile path (textFile (before ++ (part ++ (eol ++ (between ++ (part' ++ rest)))))) =
          .error (.malformed path)) := by
  refine ⟨?_, ?_, ?_⟩
  · intro as unknown cs hwrites hdistinct hunknown
    refine ⟨_, ofFile_of_writes path hwrites hdistinct hunknown, ?_, ?_⟩
    · exact fun a ha => value?_foldl_set_of_mem standard hdistinct ha
    · exact fun key hkey => value?_foldl_set standard hkey
  · intro key assigned statements before part rest hkey hbefore hpart hrest habove
    exact ofFile_of_misuses path hbefore hpart hkey habove hrest
  · intro key statements before part eol statements' between part' rest hbefore hpart heol
      hbetween hpart' hrest habove
    exact ofFile_of_assigned_twice path hbefore hpart heol hbetween hpart' hrest habove

/-- A comment, a port, an unknown list and a region in front of a table with a port of its
own; a port out of range; and a port that is assigned twice. -/
theorem ofFile_assigns_each_key_among_others :
    (∃ s, ofFile "c" (textFile ("# a".toList ++ ['\n'] ++ ("port = 8081 # b".toList ++ (['\n'] ++
        ("x.y = [1, \x7bz = 07:30:00\x7d]".toList ++ ['\r', '\n'] ++
          ("'aws_region'=\"e\\u0075\"".toList ++ (['\n'] ++
            "[t]\nport = true".toList))))))) = .ok s ∧
      s.value? "port" = some (.integer 8081) ∧ s.value? "aws_region" = some (.string "eu") ∧
      s.value? "ignore_connections" = some (.bool false)) ∧
    ofFile "c" (textFile ([] ++ ("port=65536".toList ++ []))) = .error (.malformed "c") ∧
    ofFile "c" (textFile ([] ++ ("port=1".toList ++ (['\n'] ++ ([] ++ ("port=2".toList ++ [])))))) =
      .error (.malformed "c") := by
  have hblank : Toml.IsBlank [' '] := List.forall_mem_singleton.2 (Or.inl rfl)
  have hkey : Toml.SpellsKey "port" "port".toList := by
    refine .bare (by decide) ?_
    unfold Toml.IsKeyChar
    exact List.all_iff_forall_prop.1 (by decide)
  have hport : Setting.Spells (.port 8081) "port = 8081 # b".toList := by
    have hdigits : Toml.SpellsDigits 10 [8, 0, 8, 1] "8081".toList :=
      .next (by decide) (Or.inl rfl) (.next (by decide) (Or.inl rfl)
        (.next (by decide) (Or.inl rfl) (.one (by decide) (Or.inl rfl))))
    have hsign : (false, []) ∈ Toml.signs := by decide
    have hinteger : Toml.SpellsInteger 8081 "8081".toList := .decimal hsign (by decide) hdigits
    have hcomment : Toml.SpellsComment "# b".toList := by
      refine .some ?_
      unfold Toml.IsPlain
      exact List.all_iff_forall_prop.1 (by decide)
    exact .mk Toml.isBlank_nil hkey hblank hblank (.integer hinteger) hblank hcomment
  have hregion : Setting.Spells (.region "eu") "'aws_region'=\"e\\u0075\"".toList := by
    have hkey : Toml.SpellsKey "aws_region" "'aws_region'".toList := by
      refine .literal ?_
      unfold Toml.IsPlain
      exact List.all_iff_forall_prop.1 (by decide)
    have hplain : Toml.SpellsChar 'e' ['e'] :=
      .plain (Or.inr (by decide)) (by decide) (by decide)
    have hdigits : List.Forall₂ Json.IsHexDigit ['0', '0', '7', '5'] [0, 0, 7, 5] :=
      .cons (Or.inl rfl) (.cons (Or.inl rfl) (.cons (Or.inl rfl) (.cons (Or.inl rfl) .nil)))
    have hescaped : Toml.SpellsChar 'u' "\\u0075".toList :=
      .hex (l := 'u') (n := 4) (by decide) rfl hdigits rfl
    have htext : Toml.SpellsText "eu".toList "e\\u0075".toList :=
      .cons hplain (.cons hescaped .nil)
    have hstring : Toml.SpellsString "eu" "\"e\\u0075\"".toList := .mk htext
    exact .mk Toml.isBlank_nil hkey Toml.isBlank_nil Toml.isBlank_nil (.string hstring)
      Toml.isBlank_nil .none
  have htable : Writes [] [.header ⟨[], "t"⟩, .assignment ⟨[], "port"⟩ (.scalar (.bool true))]
      "[t]\nport = true".toList :=
    .rest rfl ⟨rfl, rfl, trivial⟩
  have hlist : Statement.Lines [.assignment ⟨["x"], "y"⟩ (.array [.scalar (.integer 1),
      .table .braces [("z", .scalar (.moment "07:30:00".toList))]])]
      ("x.y = [1, \x7bz = 07:30:00\x7d]".toList ++ ['\r', '\n']) := .lines rfl (by decide)
  have hcomment : Statement.Lines [] ("# a".toList ++ ['\n']) := .lines rfl (by decide)
  have hbreak : ['\n'] ∈ lineEnds := by decide
  have hwrites : Writes [.port 8081, .region "eu"] _ _ :=
    .other hcomment (List.forall_mem_nil _) (.setting hport hbreak (.other hlist
      (List.forall_mem_singleton.2 ⟨rfl, rfl⟩) (.setting hregion hbreak htable)))
  obtain ⟨hsettings, hmisuses, htwice⟩ := ofFile_assigns_each_key "c"
  refine ⟨?_, ?_, ?_⟩
  · obtain ⟨s, hs, hassigned, hdefault⟩ := hsettings _ _ _ hwrites (by decide) rfl
    exact ⟨s, hs, hassigned (.port 8081) (by decide), hassigned (.region "eu") (by decide),
      hdefault "ignore_connections" (by decide)⟩
  · have hmisuse : Misuses "port" true "port=65536".toList := by
      have hread : Statement.ofChars? "port=65536".toList =
          some [.assignment ⟨[], "port"⟩ (.scalar (.integer 65536))] := rfl
      refine .other hread rfl fun a ha => ?_
      cases a with
      | port n =>
        have hn : n.toNat < 65536 := n.toNat_lt
        obtain ⟨-, hvalue⟩ := Statement.assignment.inj ha
        have hvalue : (65536 : Int) = n.toNat :=
          Toml.Scalar.integer.inj (Toml.Value.scalar.inj hvalue)
        omega
      | _ => simp [Setting.statement, Setting.key] at ha
    exact hmisuses _ _ _ _ _ _ (by decide) .nothing hmisuse .nothing fun _ =>
      List.forall_mem_nil _
  · have hfirst : Statement.ofChars? "port=1".toList =
        some [.assignment ⟨[], "port"⟩ (.scalar (.integer 1))] := rfl
    have hsecond : Statement.ofChars? "port=2".toList =
        some [.assignment ⟨[], "port"⟩ (.scalar (.integer 2))] := rfl
    exact htwice _ _ _ _ _ _ _ _ _ .nothing (.other hfirst) hbreak .nothing (.other hsecond)
      .nothing (List.forall_mem_nil _)

end Settings

end IdleStop
