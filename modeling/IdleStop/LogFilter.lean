import IdleStop.Log
import IdleStop.Text.Alphanumeric
import IdleStop.Text.Digits
import IdleStop.Text.Parts
/-!
# Log filters

A filter is a row of rules, written with commas between them. A rule sets
the limit for the lines of some sources: for those whose name begins with
the rule's, or for all if it has none. Of the rules that concern a line the
most specific one counts, and of equal ones the last.

    info,notebook_autostop::sagemaker=debug

A rule may name fields that lines must have, in braces inside brackets; the
lines of this program have one field, their message. Rules about spans, which
are named in the brackets, or about the values of fields, concern no line
here, but have to be written correctly all the same.
-/

namespace IdleStop

/-- A rule that sets the limit for some lines. -/
structure LogRule where
  /-- The beginning of the names of the sources concerned. -/
  source : List Char
  /-- The fields that lines must have. -/
  fields : List (List Char)
  limit : LogLimit
  deriving DecidableEq, Repr

namespace LogRule

/-- The field that all lines have. -/
def messageField : List Char := "message".toList

/-- Whether a rule concerns a line. -/
def concerns (r : LogRule) (line : LogLine) : Bool :=
  r.source.isPrefixOf line.source.name.toList && r.fields.all (· = messageField)

/-- Whether a rule is at least as specific as another: a longer name counts
first, more fields second. -/
def isAsSpecificAs (r s : LogRule) : Bool :=
  s.source.length < r.source.length ||
    (s.source.length = r.source.length && s.fields.length ≤ r.fields.length)

/-- The limit that a text names or numbers, in letters of either case. -/
def limit? (text : List Char) : Option LogLimit :=
  match Numeral.natural Numeral.maxUnsigned text with
  | .ok n => LogLimit.ofNumber? n
  | .error _ => LogLimit.ofName? (String.ofList text).toLower

/-- The limit behind an equals sign. No text lets everything through. -/
def limitAfter? (text : List Char) : Option LogLimit :=
  if text.isEmpty then some (some .trace) else limit? text

/-- The rule that is only a limit or only a name. -/
def ofWord (text : List Char) : LogRule :=
  match limit? text with
  | some limit => ⟨[], [], limit⟩
  | none => ⟨text, [], some .trace⟩

end LogRule

/-- A rule as it is written. -/
inductive LogDirective
  | rule (r : LogRule)
  /-- A rule that concerns no line of this program. -/
  | foreign
  deriving DecidableEq, Repr

namespace LogDirective

/-- A text that is read by one row of characters and quoted from another one
of the same length or more. -/
structure Source where
  read : List Char
  quoted : List Char

namespace Source

/-- What stands before the first character with a property, that character,
and what follows it. -/
def cut? (s : Source) (stop : Char → Bool) : Option (List Char × Char × Source) :=
  let n := (s.read.takeWhile fun c => !stop c).length
  match s.read.drop n with
  | [] => none
  | c :: rest => some (s.quoted.take n, c, ⟨rest, s.quoted.drop (n + 1)⟩)

/-- A text that begins where the blanks in front of it end, but is quoted
from where they begin: what stands for its parts is that many places
earlier. -/
def ofText (text : List Char) : Source :=
  ⟨(trimmed (String.ofList text)).toList, text⟩

end Source

/-- Whether a rule may begin with a character. -/
def isOpening (c : Char) : Bool :=
  c = '-' || c = ':' || c = '_' || isAlphanumeric c

/-- The directive of a name, the span if there is one, and fields, with what
follows the brackets. -/
def afterBrackets (source : List Char) (span : Option (List Char)) (fields : List (List Char))
    (s : Source) : Option LogDirective := do
  let limit ← match s.read with
    | [] => some (some .trace)
    | '=' :: _ => LogRule.limitAfter? (s.quoted.drop 1)
    | _ => none
  let hasValue := fields.any (·.contains '=')
  return if span.isSome || hasValue then .foreign else .rule ⟨source, fields, limit⟩

/-- The directive of a name and what follows the opening bracket. -/
def afterBracket (source : List Char) (s : Source) : Option LogDirective := do
  let (span, c, s) ← s.cut? fun c => c = ']' || c = '\x7b'
  if c = ']' then afterBrackets source (some span) [] s
  else
    let span := if span.isEmpty then none else some span
    let (field, _, s) ← s.cut? (· = '\x7d')
    match field, s.read with
    | _ :: _, ']' :: rest => afterBrackets source span [field] ⟨rest, s.quoted.drop 1⟩
    | _, _ => none

/-- Reads a directive. -/
def ofText? (text : List Char) : Option LogDirective :=
  let s := Source.ofText text
  match s.read with
  | [] => none
  | '[' :: rest => afterBracket [] ⟨rest, s.quoted.drop 1⟩
  | c :: _ =>
    if isOpening c then
      match s.cut? fun c => c = '=' || c = '[' with
      | none => some (.rule (.ofWord s.quoted))
      | some (source, '=', s) =>
        (LogRule.limitAfter? s.quoted).map fun limit => .rule ⟨source, [], limit⟩
      | some (source, _, s) => afterBracket source s
    else none

end LogDirective

/-- Rules in the order in which they are given. -/
abbrev LogFilter := List LogRule

namespace LogFilter

/-- The filter with one limit for all lines. -/
def upTo (limit : LogLimit) : LogFilter :=
  [⟨[], [], limit⟩]

/-- The filter that a text writes, unless one of its rules is wrong. -/
def ofRules? (text : List Char) : Option LogFilter := do
  let directives ← ((parts (· = ',') text).filter (!·.isEmpty)).mapM LogDirective.ofText?
  return directives.filterMap fun
    | .rule r => some r
    | .foreign => none

/-- The filter that a text asks for. It begins with the limit for the lines
of this program, and further rules may follow. A text that is wrong asks for
`info`. -/
def ofText (text : String) : LogFilter :=
  (ofRules? (LogSource.program ++ "=" ++ text).toList).getD (upTo (some .info))

/-- The rule that counts for a line. -/
def ruleFor? (f : LogFilter) (line : LogLine) : Option LogRule :=
  (f.filter (·.concerns line)).foldl
    (fun best r =>
      match best with
      | some b => if r.isAsSpecificAs b then some r else best
      | none => some r)
    none

/-- Whether a filter lets a line through. -/
def passes (f : LogFilter) (line : LogLine) : Bool :=
  match f.ruleFor? line with
  | some r => r.limit.passes line.level
  | none => false

/-- The lines a filter lets through. -/
def select (f : LogFilter) (lines : List LogLine) : List LogLine :=
  lines.filter f.passes

end LogFilter

end IdleStop
