import IdleStop.Instance.Control
import IdleStop.Proofs.Json.Parsing
import IdleStop.Proofs.Text.Utf8
import IdleStop.Proofs.Time.Epoch
import IdleStop.Proofs.Time.Rfc3339
/-!
# Descriptions are read as they are printed

A description gives the time of last modification as a text or as a number. A
command that succeeds and prints such an object, spelled in any way, is read as
the value in it is read: a text as RFC 3339, an integer as epoch seconds. So a
stamp is taken for the instant it is everywhere else, and an integer for the same
instant as the texts of that second.
-/

namespace IdleStop

open Json (Literal Token Tree Units)

namespace ControlPlane

variable {c : ControlPlane} {platform : Platform} {name s : String} {value : Tree} {i : Instant}

/-- A text that writes a description of the time of last modification alone. -/
def WritesDescription (value : Tree) (text : String) : Prop :=
  ∃ us : Units, us.Writes "LastModifiedTime" ∧ (Tree.object [(us, value)]).Spells text

/-- The command that describes an instance starts, succeeds, and prints a
description with this time of last modification. -/
structure Describes (c : ControlPlane) (platform : Platform) (name : String) (value : Tree) :
    Prop where
  starts : c.startFault? (c.arguments .describe name) = none
  succeeds : platform.describe.exit = some 0
  prints : ∃ text, WritesDescription value text ∧
    platform.describe.stdout = text.toUTF8.data.toList

/-- Whichever command prints this value for the time of last modification, it is
taken for the instant. -/
def TakenFor (value : Tree) (i : Instant) : Prop :=
  ∀ (c : ControlPlane) (platform : Platform) (name : String), c.Describes platform name value →
    ∀ file, ((c.describe platform name).run file).result = .ok i

/-! ## What is printed is read -/

/-- What a command prints is its result, if it starts and succeeds; what it writes
besides is not. -/
theorem invoke_result_eq {op : Operation} (file : File) :
    ((c.invoke platform op name).run file).result =
      match c.startFault? (c.arguments op name) with
      | some fault => .error (.transport op.endpoint (.notStarted fault))
      | none =>
        if (platform.behaviour op).exit = some 0 then
          .ok (Utf8.decodeLossy (platform.behaviour op).stdout)
        else .error (.transport op.endpoint (.exited (platform.behaviour op).exit)) := by
  unfold invoke
  rw [Action.run_bind_of_ok rfl]
  cases c.startFault? (c.arguments op name) with
  | some fault => rfl
  | none =>
    dsimp only
    rw [Action.run_bind_of_ok rfl]
    -- whether the file is deleted or not, the exit code decides
    by_cases hexit : (platform.behaviour op).exit = some 0
    · simp only [hexit, if_true]
      cases (platform.behaviour op).deletesMetadata <;> rfl
    · simp only [hexit, if_false]
      cases (platform.behaviour op).deletesMetadata <;> rfl

/-- A command that starts and succeeds gives what it prints. -/
theorem invoke_result {op : Operation} (hstarts : c.startFault? (c.arguments op name) = none)
    (hsucceeds : (platform.behaviour op).exit = some 0) (file : File) :
    ((c.invoke platform op name).run file).result =
      .ok (Utf8.decodeLossy (platform.behaviour op).stdout) := by
  rw [invoke_result_eq, hstarts]
  dsimp only
  rw [if_pos hsucceeds]

/-- Where the value of a description is readable, it is what is looked up. -/
theorem description_spec {text : String} (h : WritesDescription value text)
    (hmeaningful : value.isMeaningful = true) (hdepth : value.depth = 0) :
    ∃ t, Tree.parse? text = some t ∧ t.isReadable = true ∧
      t.lookup? "LastModifiedTime" = some value := by
  obtain ⟨us, hus, hspells⟩ := h
  refine ⟨_, Tree.parse?_of_spells hspells, ?_, ?_⟩
  · have hkey : us.chars?.isSome = true := by
      rw [Units.chars?_of_writesChars hus]
      rfl
    simp [Tree.isReadable, Tree.depth, Tree.membersDepth, Tree.isMeaningful,
      Tree.membersMeaningful, Tree.maxDepth, hkey, hmeaningful, hdepth]
  · simp [Tree.lookup?, Units.text?_of_writes hus]

/-- A value that every description of it is read as is taken for that. -/
theorem takenFor_of_modificationTime
    (h : ∀ text, WritesDescription value text → modificationTime text = .ok i) :
    TakenFor value i := by
  intro c platform name hdescribes file
  obtain ⟨text, htext, hstdout⟩ := hdescribes.prints
  have hinvoke : ((c.invoke platform .describe name).run file).result = .ok text := by
    have hprints : Utf8.decodeLossy (platform.behaviour .describe).stdout = text := by
      rw [Platform.behaviour, hstdout, Utf8.decodeLossy_toUTF8]
    rw [invoke_result hdescribes.starts hdescribes.succeeds file, hprints]
  rw [describe, Action.run_bind_of_ok hinvoke]
  exact h text htext

/-- **A text is taken for what it is in RFC 3339.** -/
theorem takenFor_of_text (hvalue : Tree.WritesText s value) (h : Rfc3339.parse s = .ok i) :
    TakenFor value i := by
  cases hvalue with | @mk us _ hus =>
  refine takenFor_of_modificationTime fun text htext => ?_
  have hmeaningful : (Tree.string us).isMeaningful = true := by
    rw [Tree.isMeaningful, Units.chars?_of_writesChars hus]
    rfl
  obtain ⟨t, hparse, hreadable, hlookup⟩ := description_spec htext hmeaningful rfl
  simp only [modificationTime, hparse, hreadable, hlookup, if_true, Units.text?_of_writes hus, h]

/-- **An integer is taken for that many epoch seconds.** -/
theorem takenFor_of_int {n : Int} (hvalue : Tree.WritesInt n value)
    (hn : n.natAbs * 15625 < Nat.pow 2 53) : TakenFor value (.ofSeconds n) := by
  obtain ⟨l, number, x, rfl, hnumber, hx, hvalue⟩ :=
    Json.Number.exists_of_writesInt hvalue (by omega)
  refine takenFor_of_modificationTime fun text htext => ?_
  have hmeaningful : (Tree.number l).isMeaningful = true := by
    rw [Tree.isMeaningful, hnumber]
    rfl
  obtain ⟨t, hparse, hreadable, hlookup⟩ := description_spec htext hmeaningful rfl
  simp only [modificationTime, hparse, hreadable, hlookup, if_true, hnumber,
    Epoch.parse_of_value hx hvalue hn]

/-- A value of one token is described by that token, without white space. -/
theorem describes_of_token {token : Token} {word : String} (hvalue : value.tokens = [token])
    (hword : token.Spells word.toList) (hstarts : c.startFault? (c.arguments .describe name) = none)
    (hsucceeds : platform.describe.exit = some 0)
    (hstdout : platform.describe.stdout =
      ("\x7b\"LastModifiedTime\":" ++ word ++ "\x7d").toUTF8.data.toList) :
    c.Describes platform name value := by
  have htokens : (Tree.object [(Units.ofString "LastModifiedTime", value)]).tokens =
      [.openObject, .string (Units.ofString "LastModifiedTime"), .colon, token, .closeObject] := by
    rw [Tree.tokens, Tree.memberTokens, hvalue]
    rfl
  let pieces : List (String × String) :=
    [("", "\x7b"), ("", "\"LastModifiedTime\""), ("", ":"), ("", word), ("", "\x7d")]
  have hpieces : List.Forall₂
      (fun t (p : String × String) => Token.IsBlank p.1.toList ∧ t.Spells p.2.toList)
      [.openObject, .string (Units.ofString "LastModifiedTime"), .colon, token, .closeObject]
      pieces :=
    .cons ⟨nofun, rfl⟩ <| .cons ⟨nofun, Token.spells_ofString (by decide)⟩ <|
      .cons ⟨nofun, rfl⟩ <| .cons ⟨nofun, hword⟩ <| .cons ⟨nofun, rfl⟩ .nil
  have hchars : ("\x7b\"LastModifiedTime\":" ++ word ++ "\x7d").toList =
      pieces.flatMap (fun p => p.1.toList ++ p.2.toList) ++ [] := by
    simp [pieces]
  have hspells : (Tree.object [(Units.ofString "LastModifiedTime", value)]).Spells
      ("\x7b\"LastModifiedTime\":" ++ word ++ "\x7d") := by
    rw [Tree.Spells, htokens]
    exact Token.spaced_of_pieces (w := []) hpieces nofun hchars
  exact ⟨hstarts, hsucceeds, _, ⟨_, Units.writes_ofString _, hspells⟩, hstdout⟩

/-! ## Descriptions agree with stamps and seconds -/

/-- **A description agrees with a stamp.** Printed as it is, a stamp is taken for
the instant it is read as; with any offset in place of its last letter, for that
instant less the offset, with the same nanoseconds. So two texts of one time at
different offsets are taken for one instant. -/
theorem describe_agrees_with_stamps (hs : ActivityStamp.parse s = .ok i) :
    (∀ value, Tree.WritesText s value → TakenFor value i) ∧
    (∀ o : Rfc3339.Offset, ∃ j : Instant, j.seconds = i.seconds - o.seconds ∧ j.nanos = i.nanos ∧
      ∀ value, Tree.WritesText (o.replaceLetter s) value → TakenFor value j) ∧
    ∀ (s' : String) (i' : Instant), ActivityStamp.parse s' = .ok i' → ∀ o o' : Rfc3339.Offset,
      i.seconds - o.seconds = i'.seconds - o'.seconds → i.nanos = i'.nanos →
      ∃ j, (∀ value, Tree.WritesText (o.replaceLetter s) value → TakenFor value j) ∧
        ∀ value, Tree.WritesText (o'.replaceLetter s') value → TakenFor value j := by
  refine ⟨fun value hvalue => ?_, fun o => ?_, fun s' i' hs' o o' hseconds hnanos => ?_⟩
  · exact takenFor_of_text hvalue (Rfc3339.parse_stamp hs)
  · obtain ⟨j, hj, hseconds, hnanos⟩ := Rfc3339.parse_replaceLetter hs o
    exact ⟨j, hseconds, hnanos, fun value hvalue => takenFor_of_text hvalue hj⟩
  · obtain ⟨j, hj, hjseconds, hjnanos⟩ := Rfc3339.parse_replaceLetter hs o
    obtain ⟨j', hj', hjseconds', hjnanos'⟩ := Rfc3339.parse_replaceLetter hs' o'
    have hsame : j' = j := by
      refine Instant.ext ?_ ?_
      · rw [hjseconds', hjseconds, hseconds]
      · rw [hjnanos', hjnanos, hnanos]
    exact ⟨j, fun value hvalue => takenFor_of_text hvalue hj,
      fun value hvalue => takenFor_of_text hvalue (hsame ▸ hj')⟩

/-- A leap second at the end of 2016, as a stamp and as clocks five and a half hours
ahead show it, in the next year. -/
theorem describe_agrees_with_stamps_leapSecond :
    let leap : Instant := ⟨1483228799, 1500000000, by decide⟩
    let ahead : Instant := ⟨1483248599, 1500000000, by decide⟩
    let c : ControlPlane := ⟨"aws", .runnable, none, none⟩
    let printing : String → Platform := fun word =>
      ⟨fun _ => .missing, .runnable,
        ⟨("\x7b\"LastModifiedTime\":" ++ word ++ "\x7d").toUTF8.data.toList, [], some 0, false⟩,
        ⟨[], [], none, false⟩⟩
    ActivityStamp.parse "2016-12-31T23:59:60.500000Z" = .ok leap ∧
      ActivityStamp.parse "2017-01-01T05:29:60.500000z" = .ok ahead ∧
      ∀ file,
        ((c.describe (printing "\"2016-12-31T23:59:60.500000Z\"") "n").run file).result =
          .ok leap ∧
        ((c.describe (printing "\"2017-01-01T05:29:60.500000+05:30\"") "n").run file).result =
          .ok leap := by
  intro leap ahead c printing
  have hstamp : ActivityStamp.parse "2016-12-31T23:59:60.500000Z" = .ok leap := rfl
  have hahead : ActivityStamp.parse "2017-01-01T05:29:60.500000z" = .ok ahead := rfl
  have hstarts : c.startFault? (c.arguments .describe "n") = none := by decide
  have hdescribes : c.Describes (printing "\"2016-12-31T23:59:60.500000Z\"") "n"
      (.string (Units.ofString "2016-12-31T23:59:60.500000Z")) :=
    describes_of_token rfl (Token.spells_ofString (by decide)) hstarts rfl rfl
  have hdescribes' : c.Describes (printing "\"2017-01-01T05:29:60.500000+05:30\"") "n"
      (.string (Units.ofString "2017-01-01T05:29:60.500000+05:30")) :=
    describes_of_token rfl (Token.spells_ofString (by decide)) hstarts rfl rfl
  obtain ⟨hasIs, -, -⟩ := describe_agrees_with_stamps hstamp
  obtain ⟨-, hshifted, -⟩ := describe_agrees_with_stamps hahead
  obtain ⟨j, hseconds, hnanos, htaken⟩ := hshifted ⟨false, 5, 30⟩
  have hleap : ahead.seconds - Rfc3339.Offset.seconds ⟨false, 5, 30⟩ = leap.seconds := by decide
  obtain rfl : j = leap := Instant.ext (hseconds.trans hleap) hnanos
  refine ⟨hstamp, hahead, fun file => ⟨?_, ?_⟩⟩
  · exact hasIs _ ⟨Units.writes_ofString _⟩ _ _ _ hdescribes file
  · have htext : Rfc3339.Offset.replaceLetter ⟨false, 5, 30⟩ "2017-01-01T05:29:60.500000z" =
        "2017-01-01T05:29:60.500000+05:30" := by decide +kernel
    exact htaken _ ⟨htext ▸ Units.writes_ofString _⟩ _ _ _ hdescribes' file

/-- **A description agrees with epoch seconds.** In the years of four digits, an
integer of epoch seconds is taken for that second, and so is the text of that
second in UTC, however UTC is written. -/
theorem describe_agrees_with_seconds {n : Int} (hfirst : Instant.firstOfYearZero ≤ n)
    (hlast : n ≤ Instant.lastOfYear9999) :
    (∀ value, Tree.WritesInt n value → TakenFor value (.ofSeconds n)) ∧
    (∀ zone ∈ Rfc3339.utcZones, ∀ value,
      Tree.WritesText (Rfc3339.secondText (.ofSeconds n) zone) value →
        TakenFor value (.ofSeconds n)) ∧
    ∀ value, Tree.WritesText (Rfc3339.format (.ofSeconds n)) value →
      TakenFor value (.ofSeconds n) := by
  have hyear := Instant.year_bounds (i := .ofSeconds n) hfirst hlast
  have hsecond : ∀ zone ∈ Rfc3339.utcZones,
      Rfc3339.parse (Rfc3339.secondText (.ofSeconds n) zone) = .ok (.ofSeconds n) :=
    fun zone hzone => Rfc3339.parse_secondText hyear rfl hzone
  refine ⟨fun value hvalue => ?_, fun zone hzone value hvalue => ?_, fun value hvalue => ?_⟩
  · have hexact : n.natAbs * 15625 < Nat.pow 2 53 := by
      have hpow : Nat.pow 2 53 = 9007199254740992 := rfl
      simp only [Instant.firstOfYearZero, Instant.lastOfYear9999] at hfirst hlast
      omega
    exact takenFor_of_int hvalue hexact
  · exact takenFor_of_text hvalue (hsecond zone hzone)
  · rw [Rfc3339.format_eq_secondText rfl] at hvalue
    exact takenFor_of_text hvalue (hsecond _ (by decide))

/-- The last second of year 0. -/
theorem describe_agrees_with_seconds_yearZero :
    let n : Int := -62135596801
    let c : ControlPlane := ⟨"aws", .runnable, none, none⟩
    let printing : String → Platform := fun word =>
      ⟨fun _ => .missing, .runnable,
        ⟨("\x7b\"LastModifiedTime\":" ++ word ++ "\x7d").toUTF8.data.toList, [], some 0, false⟩,
        ⟨[], [], none, false⟩⟩
    (Instant.firstOfYearZero ≤ n ∧ n ≤ Instant.lastOfYear9999) ∧
      ∀ file,
        ((c.describe (printing "-62135596801") "n").run file).result = .ok (.ofSeconds n) ∧
        ((c.describe (printing "\"0000-12-31T23:59:59Z\"") "n").run file).result =
          .ok (.ofSeconds n) := by
  intro n c printing
  have hfirst : Instant.firstOfYearZero ≤ n := by decide
  have hlast : n ≤ Instant.lastOfYear9999 := by decide
  have hstarts : c.startFault? (c.arguments .describe "n") = none := by decide
  let l : Literal := ⟨true, [6, 2, 1, 3, 5, 5, 9, 6, 8, 0, 1], [], none⟩
  have hl : l.Spells "-62135596801".toList := .mk (.positive (by decide) (by decide)) .none .none
  have hdescribes : c.Describes (printing "-62135596801") "n" (.number l) :=
    describes_of_token rfl hl hstarts rfl rfl
  have hdescribes' : c.Describes (printing "\"0000-12-31T23:59:59Z\"") "n"
      (.string (Units.ofString "0000-12-31T23:59:59Z")) :=
    describes_of_token rfl (Token.spells_ofString (by decide)) hstarts rfl rfl
  have htext : Rfc3339.secondText (.ofSeconds n) "Z".toList = "0000-12-31T23:59:59Z" := by
    decide +kernel
  obtain ⟨hint, hutc, -⟩ := describe_agrees_with_seconds hfirst hlast
  refine ⟨⟨hfirst, hlast⟩, fun file => ⟨?_, ?_⟩⟩
  · exact hint _ (.negative rfl) _ _ _ hdescribes file
  · exact hutc "Z".toList (by decide) _ ⟨htext ▸ Units.writes_ofString _⟩ _ _ _ hdescribes' file

end ControlPlane

end IdleStop
