import IdleStop.Json.Tree
/-!
# Records in JSON

A record has named fields in a fixed order. An object gives them by name,
in any order, each at most once and beside any other members; an array
gives them by position, and may stop early.
-/

namespace IdleStop

namespace Json

namespace Tree

/-- Puts a value to a name unless it has one. `none` if it has; a name that
is not listed is passed over. -/
def assign? (names : List String) (name : String) (t : Tree) (slots : List (Option Tree)) :
    Option (List (Option Tree)) :=
  match names, slots with
  | n :: names, slot :: slots =>
    if n = name then
      match slot with
      | none => some (some t :: slots)
      | some _ => none
    else (slot :: ·) <$> assign? names name t slots
  | _, slots => some slots

/-- The fields that members give, by name. -/
def assignAll? (names : List String) :
    List (Units × Tree) → List (Option Tree) → Option (List (Option Tree))
  | [], slots => some slots
  | (us, t) :: ms, slots =>
    match us.text? with
    | none => none
    | some name => (assign? names name t slots).bind (assignAll? names ms)

/-- The values of a record's fields in their order, `none` where a field is
absent. -/
def fields? (names : List String) : Tree → Option (List (Option Tree))
  | .object ms => assignAll? names ms (names.map fun _ => none)
  | .array ts =>
    if ts.length ≤ names.length then
      some (ts.map some ++ List.replicate (names.length - ts.length) none)
    else none
  | _ => none

/-- A field that may be absent or null and else is text. -/
def optionalText? : Option Tree → Option (Option String)
  | none | some .null => some none
  | some t => t.text?.map some

/-- A field that has to be text. -/
def requiredText? (field : Option Tree) : Option String :=
  field.bind text?

/-- A whole number of 64 bits, written without sign, point and exponent. -/
def word? : Tree → Option UInt64
  | .number l =>
    match Number.ofLiteral? l with
    | some (.natural n) => some (UInt64.ofNat n)
    | _ => none
  | _ => none

/-- The items of an array, each as `read?` reads it. -/
def list? {α : Type} (read? : Tree → Option α) : Tree → Option (List α)
  | .array ts => ts.mapM read?
  | _ => none

end Tree

end Json

end IdleStop
