import IdleStop.Error
import IdleStop.Proofs.Text.Quoted
/-!
# What is said of a time in no known format

The message quotes the time as it was found, behind words without a quote and before the
name of the format that was expected. So the quoted part shows where it ends, and time
and format can be told from the message, whichever characters stand for themselves
(`CheckError.eq_of_formatTextBy_eq`).
-/

namespace IdleStop

theorem TimeFormat.name_inj {f f' : TimeFormat} : f.name = f'.name ↔ f = f' := by
  cases f <;> cases f' <;> decide

namespace CheckError

open Quoted (layout part? quoteBy)

variable {shown shown' : Char → Bool} {value value' : String} {expected expected' : TimeFormat}

/-- What is said of a time in no known format, given which characters stand for
themselves. -/
def formatTextBy (shown : Char → Bool) (value : String) (expected : TimeFormat) : String :=
  "Timestamp " ++ String.ofList (quoteBy shown value.toList) ++ " does not match format " ++
    expected.name

theorem messageWith_format (detail value : String) (expected : TimeFormat) :
    (format value expected).messageWith detail = formatTextBy isGraphic value expected :=
  rfl

theorem toList_formatTextBy :
    (formatTextBy shown value expected).toList =
      "Timestamp ".toList ++ (quoteBy shown value.toList ++
        (" does not match format ".toList ++ expected.name.toList)) := by
  have hquoted := String.toList_ofList (l := quoteBy shown value.toList)
  rw [formatTextBy, String.toList_append, String.toList_append, String.toList_append, hquoted,
    List.append_assoc, List.append_assoc]

/-- The quoted part of the message is the time, and the format is named behind it. -/
theorem part?_formatTextBy :
    part? (formatTextBy shown value expected).toList =
      some (quoteBy shown value.toList,
        " does not match format ".toList ++ expected.name.toList) := by
  rw [toList_formatTextBy]
  exact Quoted.part?_append (by decide) _ _

/-- The message tells the time and the format. -/
theorem eq_of_formatTextBy_eq
    (h : formatTextBy shown value expected = formatTextBy shown' value' expected') :
    value = value' ∧ expected = expected' := by
  have hpart := congrArg (fun text : String => part? text.toList) h
  simp only [part?_formatTextBy, Option.some.injEq, Prod.mk.injEq] at hpart
  obtain ⟨hquoted, hbehind⟩ := hpart
  have hvalue : value.toList = value'.toList := Quoted.eq_of_quoteBy_eq hquoted
  have hname : expected.name.toList = expected'.name.toList := List.append_cancel_left hbehind
  exact ⟨String.toList_injective hvalue,
    TimeFormat.name_inj.1 (String.toList_injective hname)⟩

/-- The message stays on its line. -/
theorem notMem_layout_of_formatTextBy :
    ∀ d ∈ (formatTextBy shown value expected).toList, d ∉ layout := by
  have hopening : ∀ d ∈ "Timestamp ".toList, d ∉ layout := List.all_iff_forall_prop.1 (by decide)
  have hmiddle : ∀ d ∈ " does not match format ".toList, d ∉ layout :=
    List.all_iff_forall_prop.1 (by decide)
  have hname : ∀ d ∈ expected.name.toList, d ∉ layout := by
    cases expected <;> exact List.all_iff_forall_prop.1 (by decide)
  rw [toList_formatTextBy]
  exact List.forall_mem_append.2 ⟨hopening, List.forall_mem_append.2
    ⟨Quoted.notMem_layout_of_quoteBy shown _, List.forall_mem_append.2 ⟨hmiddle, hname⟩⟩⟩

/-- **The message of a time in no known format is unambiguous and stays on its line.**
Two such messages are the same just if they are of the same time and the same format.
None holds a control that breaks the line, moves within it or ends the text. The quoted
part, which ends at the first quote behind its opening one that no backslash escapes, is
the time as it was found and can be read back. Messages tell their time and format even
if other characters stand for themselves in them. -/
theorem format_message_unambiguous (value value' : String) (expected expected' : TimeFormat)
    (detail detail' : String) :
    let message := (format value expected).messageWith detail
    (message = (format value' expected').messageWith detail' ↔
      value = value' ∧ expected = expected') ∧
    (∀ c ∈ ['\n', '\r', '\t', '\x00'], c ∉ message.toList) ∧
    Quoted.part? message.toList =
      some ((quoted value).toList, (" does not match format " ++ expected.name).toList) ∧
    Quoted.unquote? (quoted value).toList = some value.toList ∧
    message = formatTextBy isGraphic value expected ∧
    ∀ shown shown' : Char → Bool,
      formatTextBy shown value expected = formatTextBy shown' value' expected' →
        value = value' ∧ expected = expected' := by
  intro message
  have hmessage : message = formatTextBy isGraphic value expected := messageWith_format _ _ _
  have hquoted : (quoted value).toList = quoteBy isGraphic value.toList := String.toList_ofList
  refine ⟨⟨?_, ?_⟩, ?_, ?_, ?_, hmessage, fun _ _ => eq_of_formatTextBy_eq⟩
  · rw [hmessage, messageWith_format]
    exact eq_of_formatTextBy_eq
  · rintro ⟨rfl, rfl⟩
    rfl
  · rw [hmessage]
    exact fun c hc hmem => notMem_layout_of_formatTextBy c hmem hc
  · rw [hmessage, hquoted, String.toList_append]
    exact part?_formatTextBy
  · rw [hquoted]
    exact Quoted.unquote?_quoteBy isGraphic value.toList

-- a newline is told from the two characters that stand for it
example : quoted "\n" = "\"\\n\"" ∧ quoted "\\n" = "\"\\\\n\"" := by
  decide

end CheckError

end IdleStop
