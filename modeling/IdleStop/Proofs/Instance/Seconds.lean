import IdleStop.Proofs.Instance.Answer
import IdleStop.Proofs.Time.Reach
/-!
# Descriptions with integers of any size

A command that succeeds may print any integer for the time of last modification. The
integers that a clock can show as seconds are taken for an instant within a millisecond;
any others are an error, and so never wrap round to an instant or stop at the last one
(`ControlPlane.describe_seconds`). The error is one of the format, unless the integer is
beyond every double: then the whole output is rejected.
-/

namespace IdleStop

open Json (Literal Token Tree Units)
open Instant (minSeconds maxSeconds)

/-! ## Numbers within documents -/

namespace Json

variable {l : Literal} {word cs : List Char} {token : Token} {ts : List Token}

theorem Literal.lt_ten_of_spells (h : l.Spells word) : ∀ d ∈ l.whole, d < 10 := by
  obtain ⟨hwhole, -, -⟩ := h
  cases hwhole with
  | zero => simp
  | positive _ hds => exact hds

/-- Each token of a text is spelled in it. -/
theorem Token.Spaced.exists_spells (h : Spaced ts cs) (htoken : token ∈ ts) :
    ∃ word, token.Spells word := by
  induction h with
  | nil => cases htoken
  | cons _ hword _ ih =>
    rcases List.mem_cons.1 htoken with rfl | htoken
    · exact ⟨_, hword⟩
    · exact ih htoken

namespace Tree

variable {t : Tree} {us : Units} {before after ms ms' : List (Units × Tree)}

theorem mem_furtherMemberTokens (h : (us, t) ∈ ms) (htoken : token ∈ t.tokens) :
    token ∈ furtherMemberTokens ms := by
  induction ms with
  | nil => cases h
  | cons m ms ih =>
    rcases List.mem_cons.1 h with rfl | h
    · simp [furtherMemberTokens, htoken]
    · simp [furtherMemberTokens, ih h]

/-- The tokens of a member are among those of the object. -/
theorem mem_tokens_object (h : (us, t) ∈ ms) (htoken : token ∈ t.tokens) :
    token ∈ (object ms).tokens := by
  cases ms with
  | nil => cases h
  | cons m ms =>
    rcases List.mem_cons.1 h with rfl | h
    · simp [tokens, memberTokens, htoken]
    · simp [tokens, memberTokens, mem_furtherMemberTokens h htoken]

theorem membersDepth_append (ms ms' : List (Units × Tree)) :
    membersDepth (ms ++ ms') = max (membersDepth ms) (membersDepth ms') := by
  induction ms with
  | nil => exact (Nat.zero_max _).symm
  | cons m ms ih =>
    obtain ⟨us, t⟩ := m
    rw [List.cons_append, membersDepth, membersDepth, ih, Nat.max_assoc]

theorem membersMeaningful_append (ms ms' : List (Units × Tree)) :
    membersMeaningful (ms ++ ms') = (membersMeaningful ms && membersMeaningful ms') := by
  induction ms with
  | nil => rfl
  | cons m ms ih =>
    obtain ⟨us, t⟩ := m
    rw [List.cons_append, membersMeaningful, membersMeaningful, ih, ← Bool.and_assoc]

/-- A number for a null leaves a document as readable as the number is. -/
theorem isReadable_number (h : (object (before ++ (us, .null) :: after)).isReadable = true) :
    (object (before ++ (us, .number l) :: after)).isReadable = (Number.ofLiteral? l).isSome := by
  have hdepth : (object (before ++ (us, .number l) :: after)).depth =
      (object (before ++ (us, .null) :: after)).depth := by
    simp only [depth, membersDepth_append, membersDepth]
  rw [isReadable, Bool.and_eq_true, isMeaningful, membersMeaningful_append, membersMeaningful] at h
  rw [isReadable, hdepth, h.1, isMeaningful, membersMeaningful_append, membersMeaningful]
  simp only [isMeaningful, Bool.and_true, Bool.true_and, Bool.and_eq_true] at h ⊢
  simp only [h.2.1, h.2.2.1, h.2.2.2, Bool.and_true, Bool.true_and]

end Tree

end Json

namespace ControlPlane

variable {c : ControlPlane} {platform : Platform} {name : String} {l : Literal} {n : Int}

/-- The command that describes an instance starts, succeeds, and prints an object whose
last entry for the time of last modification is a number. What else it holds can be
read. -/
structure AnswersNumber (c : ControlPlane) (platform : Platform) (name : String) (l : Literal)
    (before : List (Units × Tree)) (us : Units) (after : List (Units × Tree)) : Prop where
  starts : c.startFault? (c.arguments .describe name) = none
  succeeds : platform.describe.exit = some 0
  prints : (Tree.object (before ++ (us, .number l) :: after)).Spells
    (Utf8.decodeLossy platform.describe.stdout)
  key : us.text? = some "LastModifiedTime"
  last : ∀ m ∈ after, m.1.text? ≠ some "LastModifiedTime"
  rest : (Tree.object (before ++ (us, .null) :: after)).isReadable = true

variable {before after : List (Units × Tree)} {us : Units}

/-- The digits that are printed are digits. -/
theorem AnswersNumber.lt_ten (h : c.AnswersNumber platform name l before us after) :
    ∀ d ∈ l.whole, d < 10 := by
  have htoken : Token.number l ∈ (Tree.object (before ++ (us, .number l) :: after)).tokens :=
    Tree.mem_tokens_object (List.mem_append_right before List.mem_cons_self) List.mem_cons_self
  obtain ⟨word, hword⟩ := Token.Spaced.exists_spells h.prints htoken
  exact Literal.lt_ten_of_spells hword

/-- **A number with a value is read as epoch seconds, and one without makes the output
malformed.** -/
theorem describe_result_of_answersNumber (h : c.AnswersNumber platform name l before us after)
    (file : File) :
    ((c.describe platform name).run file).result =
      match Json.Number.ofLiteral? l with
      | some number => Epoch.parse number
      | none => .error (.transport Operation.describe.endpoint .malformedOutput) := by
  rw [describe_result_eq, invoke_result h.starts h.succeeds file]
  change modificationTime (Utf8.decodeLossy platform.describe.stdout) = _
  have hlast : (Tree.object (before ++ (us, .number l) :: after)).lookup? "LastModifiedTime" =
      some (.number l) := Tree.lookup?_eq_some_iff.2 ⟨before, us, after, rfl, h.key, h.last⟩
  simp only [modificationTime, Tree.parse?_of_spells h.prints, Tree.isReadable_number h.rest, hlast]
  cases Json.Number.ofLiteral? l with
  | none => rfl
  | some number => rfl

/-- **Epoch seconds never wrap round or stop at an end.** Of an integer that a clock can
show as seconds a description makes an instant within a millisecond of it, and of any
other an error, however many digits it has: an error of the format, unless the integer
has no double. It has one below `2 ^ 1024` and none above that, but for the roundings of
a few parts in `2 ^ 53`. -/
theorem describe_seconds (h : c.AnswersNumber platform name l before us after)
    (hn : (Tree.number l).WritesInt n) (file : File) :
    (minSeconds ≤ n ∧ n ≤ maxSeconds →
      ∃ i, ((c.describe platform name).run file).result = .ok i ∧
        |i.nanoseconds - n * 1000000000| ≤ 1000000) ∧
    (n < minSeconds ∨ maxSeconds < n →
      (∃ number, Json.Number.ofLiteral? l = some number ∧ n.natAbs < 2 ^ 1024 + 2 ^ 974 ∧
        ((c.describe platform name).run file).result =
          .error (.format number.text .epochSeconds)) ∨
      (Json.Number.ofLiteral? l = none ∧ 2 ^ 1024 ≤ n.natAbs + 2 ^ 974 ∧
        ((c.describe platform name).run file).result =
          .error (.transport "sagemaker describe-notebook-instance" .malformedOutput))) := by
  rw [describe_result_of_answersNumber h file]
  constructor
  · rintro ⟨hmin, hmax⟩
    obtain ⟨l', number, i, hsame, hl, hparse, hnear⟩ := Epoch.parse_near hn hmin hmax
    obtain rfl := Tree.number.inj hsame
    rw [hl]
    exact ⟨i, hparse, hnear⟩
  · intro hout
    have hzero : n ≠ 0 := by
      rw [minSeconds, maxSeconds] at hout
      omega
    have hreads := Epoch.readsInteger_of_writesInt hn h.lt_ten hzero
    cases hl : Json.Number.ofLiteral? l with
    | some number =>
      exact Or.inl ⟨number, rfl, hreads.lt_of_some hl, Epoch.parse_of_outside hn h.lt_ten hout hl⟩
    | none => exact Or.inr ⟨rfl, hreads.le_of_none hl, rfl⟩

/-- The last second of the clock, the one after it, the one before its first, and an
integer of 310 digits. -/
theorem describe_seconds_at_ends :
    let c : ControlPlane := ⟨"aws", .runnable, none, none⟩
    let printing : String → Platform := fun word =>
      ⟨fun _ => .missing, .runnable,
        ⟨("\x7b\"Status\":\"InService\",\"LastModifiedTime\":" ++ word ++
          ",\"Tags\":[\x7b\"LastModifiedTime\":0\x7d]\x7d").toUTF8.data.toList, [], some 0, false⟩,
        ⟨[], [], none, false⟩⟩
    ∀ file,
      (∃ i, ((c.describe (printing "8210266876799") "n").run file).result = .ok i ∧
        |i.nanoseconds - 8210266876799 * 1000000000| ≤ 1000000) ∧
      ((c.describe (printing "8210266876800") "n").run file).result =
        .error (.format "8210266876800" .epochSeconds) ∧
      ((c.describe (printing "-8334601228801") "n").run file).result =
        .error (.format "-8334601228801" .epochSeconds) ∧
      ((c.describe (printing (String.ofList (List.replicate 310 '9'))) "n").run file).result =
        .error (.transport "sagemaker describe-notebook-instance" .malformedOutput) := by
  intro c printing file
  let before : List (Units × Tree) :=
    [(Units.ofString "Status", .string (Units.ofString "InService"))]
  let after : List (Units × Tree) := [(Units.ofString "Tags",
    .array [.object [(Units.ofString "LastModifiedTime", .number ⟨false, [0], [], none⟩)]])]
  let us := Units.ofString "LastModifiedTime"
  have hanswers : ∀ (digits : List Char) (l : Literal),
      Token.scan? ("\x7b\"Status\":\"InService\",\"LastModifiedTime\":".toList ++ digits ++
          ",\"Tags\":[\x7b\"LastModifiedTime\":0\x7d]\x7d".toList) =
        some (Tree.object (before ++ (us, .number l) :: after)).tokens →
      c.AnswersNumber (printing (String.ofList digits)) "n" l before us after := by
    intro digits l hscan
    have hword : (String.ofList digits).toList = digits := String.toList_ofList
    refine ⟨by decide, rfl, ?_, by decide, by decide, by decide⟩
    change (Tree.object _).Spells (Utf8.decodeLossy (String.toUTF8 _).data.toList)
    rw [Utf8.decodeLossy_toUTF8, Tree.Spells, String.toList_append, String.toList_append,
      hword]
    exact Token.spaced_of_scan? hscan
  have hlast := describe_seconds (hanswers "8210266876799".toList
    ⟨false, [8, 2, 1, 0, 2, 6, 6, 8, 7, 6, 7, 9, 9], [], none⟩ (by decide +kernel))
    (.positive rfl) file
  have hlate := describe_seconds (hanswers "8210266876800".toList
    ⟨false, [8, 2, 1, 0, 2, 6, 6, 8, 7, 6, 8, 0, 0], [], none⟩ (by decide +kernel))
    (.positive rfl) file
  have hearly := describe_seconds (hanswers "-8334601228801".toList
    ⟨true, [8, 3, 3, 4, 6, 0, 1, 2, 2, 8, 8, 0, 1], [], none⟩ (by decide +kernel))
    (.negative rfl) file
  have hlong := describe_seconds (hanswers (List.replicate 310 '9')
    ⟨false, List.replicate 310 9, [], none⟩ (by decide +kernel)) (.positive rfl) file
  rw [String.ofList_toList] at hlast hlate hearly
  refine ⟨hlast.1 (by decide), ?_, ?_, ?_⟩
  · rcases hlate.2 (by decide) with ⟨number, hl, -, hresult⟩ | ⟨hl, -⟩
    · obtain rfl := Option.some.inj (hl.symm.trans
        (rfl : _ = some (Json.Number.natural 8210266876800)))
      exact hresult.trans (by decide +kernel)
    · cases hl
  · rcases hearly.2 (by decide) with ⟨number, hl, -, hresult⟩ | ⟨hl, -⟩
    · obtain rfl := Option.some.inj (hl.symm.trans
        (rfl : _ = some (Json.Number.negative 8334601228801)))
      exact hresult.trans (by decide +kernel)
    · cases hl
  · have hout : maxSeconds < Digits.toNat (List.replicate 310 9) := by decide +kernel
    rcases hlong.2 (Or.inr hout) with ⟨number, hl, -⟩ | ⟨-, -, hresult⟩
    · have hnone : Json.Number.ofLiteral? ⟨false, List.replicate 310 9, [], none⟩ = none := by
        decide +kernel
      rw [hnone] at hl
      cases hl
    · exact hresult

end ControlPlane

end IdleStop
