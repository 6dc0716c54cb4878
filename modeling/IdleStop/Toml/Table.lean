import IdleStop.Toml.Scalar
/-!
# TOML tables

A table holds members in the order in which their keys first appear, and a
key never twice. Tables come about in four ways, and which later parts of a
document may add to a table depends on that: a header opens it, a longer
header or a dotted key implies it, or braces close it for good
(`Origin`).

Additions are made at the end of a path (`assign`, `define`), or not at all
if the path leads through something that is closed.
-/

namespace IdleStop

namespace Toml

/-- How a table came about. -/
inductive Origin
  /-- A header names it. -/
  | header
  /-- A header names a table inside it. -/
  | implied
  /-- A dotted key leads through it. -/
  | dotted
  /-- It stands in braces. -/
  | braces
  deriving DecidableEq, Repr

/-- A value of TOML. -/
inductive Value
  | scalar (s : Scalar)
  | array (items : List Value)
  | table (origin : Origin) (members : List (String × Value))
  /-- The tables of repeated headers: those before the last, and the last,
  to which more can be added. -/
  | tables (earlier : List (List (String × Value))) (last : List (String × Value))

/-- The members of a table. -/
abbrev Members := List (String × Value)

/-- A key that may have several parts. -/
structure Path where
  /-- The tables on the way. -/
  parents : List String
  /-- The last part. -/
  name : String
  deriving DecidableEq, Repr

namespace Members

/-- The value of a key. -/
def lookup? (ms : Members) (key : String) : Option Value :=
  (ms.find? fun m => m.1 = key).map Prod.snd

/-- Changes the value of a key, or adds the key at the end, as a function
of the value it has decides. -/
def alter? (key : String) (f : Option Value → Option Value) : Members → Option Members
  | [] => (f none).map fun v => [(key, v)]
  | (k, v) :: ms =>
    if k = key then (f (some v)).map fun v => (k, v) :: ms
    else (alter? key f ms).map ((k, v) :: ·)

/-- After a change the key has the value decided on. -/
theorem lookup?_of_alter? {key : String} {f : Option Value → Option Value} {ms ms' : Members}
    (h : alter? key f ms = some ms') :
    ∃ v, f (ms.lookup? key) = some v ∧ ms'.lookup? key = some v := by
  induction ms generalizing ms' with
  | nil =>
    obtain ⟨v, hv, rfl⟩ := Option.map_eq_some_iff.1 h
    exact ⟨v, hv, by simp [lookup?]⟩
  | cons m ms ih =>
    obtain ⟨k, w⟩ := m
    unfold alter? at h
    split at h
    · next hk =>
      obtain ⟨v, hv, rfl⟩ := Option.map_eq_some_iff.1 h
      exact ⟨v, by simpa [lookup?, hk] using hv, by simp [lookup?, hk]⟩
    · next hk =>
      obtain ⟨rest, hrest, rfl⟩ := Option.map_eq_some_iff.1 h
      obtain ⟨v, hv, hl⟩ := ih hrest
      exact ⟨v, by simpa [lookup?, hk] using hv, by simpa [lookup?, hk] using hl⟩

/-- A change leaves all other keys alone. -/
theorem lookup?_of_alter?_of_ne {key other : String} {f : Option Value → Option Value}
    {ms ms' : Members} (h : alter? key f ms = some ms') (hne : other ≠ key) :
    ms'.lookup? other = ms.lookup? other := by
  induction ms generalizing ms' with
  | nil =>
    obtain ⟨v, -, rfl⟩ := Option.map_eq_some_iff.1 h
    simp [lookup?, hne.symm]
  | cons m ms ih =>
    obtain ⟨k, w⟩ := m
    unfold alter? at h
    split at h
    · next hk =>
      obtain ⟨v, -, rfl⟩ := Option.map_eq_some_iff.1 h
      subst hk
      simp [lookup?, hne.symm]
    · next hk =>
      obtain ⟨rest, hrest, rfl⟩ := Option.map_eq_some_iff.1 h
      have hl := ih hrest
      by_cases hko : k = other
      · simp [lookup?, hko]
      · simpa [lookup?, hko] using hl

/-- Adds a value under a key with several parts. The way leads through
tables of dotted keys, which come about as needed; a table that headers
imply is one of them from then on. The way may pass through the last of
repeated tables, but does not end in it. -/
def assign (name : String) (v : Value) : List String → Members → Option Members
  | [] => alter? name fun
    | none => some v
    | some _ => none
  | key :: keys => alter? key fun
    | none => (assign name v keys []).map (.table .dotted)
    | some (.table .dotted ms) => (assign name v keys ms).map (.table .dotted)
    | some (.table .implied ms) => (assign name v keys ms).map (.table .dotted)
    | some (.tables earlier last) =>
      if keys.isEmpty then none else (assign name v keys last).map (.tables earlier)
    | some _ => none

/-- Changes the value at the end of a path of headers, as a function of the
value it has decides. Tables on the way come about as needed, and of
repeated tables the last one counts. -/
def define (name : String) (f : Option Value → Option Value) :
    List String → Members → Option Members
  | [] => alter? name f
  | key :: keys => alter? key fun
    | none => (define name f keys []).map (.table .implied)
    | some (.table .braces _) => none
    | some (.table origin ms) => (define name f keys ms).map (.table origin)
    | some (.tables earlier last) => (define name f keys last).map (.tables earlier)
    | some _ => none

/-- The table that a header opens: a new one, or one that other headers
imply. -/
def opened : Option Value → Option Value
  | none => some (.table .header [])
  | some (.table .implied ms) => some (.table .header ms)
  | some _ => none

/-- The tables after one more of a repeated header. -/
def repeated : Option Value → Option Value
  | none => some (.tables [] [])
  | some (.tables earlier last) => some (.tables (earlier ++ [last]) [])
  | some _ => none

/-- The open table at the end of a header's path with a value added. -/
def extended (path : Path) (v : Value) : Option Value → Option Value
  | some (.table origin ms) => (assign path.name v path.parents ms).map (.table origin)
  | some (.tables earlier last) => (assign path.name v path.parents last).map (.tables earlier)
  | _ => none

end Members

end Toml

end IdleStop
