import IdleStop.Proofs.Json.Scanning
/-!
# Parsing a text that is spelled right

The tokens of a tree build that tree, wherever it stands: a value that is begun
inside some frames ends as that value inside the same frames
(`Build.foldlM_tokens`). With the tokens of a text read off as they are written,
a text that writes a tree is parsed as that tree (`Tree.parse?_of_spells`).
-/

namespace IdleStop

namespace Json

/-! ## Numbers stand apart in a tree -/

namespace Token

variable {t : Token} {ts : List Token}

theorem apart_cons (h : ∀ l, t ≠ number l) (hts : Apart ts) : Apart (t :: ts) :=
  List.isChain_cons.2 ⟨fun _ _ l hl => absurd hl (h l), hts⟩

end Token

namespace Tree

open Token (Apart EndsNumber apart_cons)

/-- What comes after an item of an array begins with a token that can follow a
number. -/
theorem endsNumber_furtherItemTokens (ts : List Tree) (rest : List Token) :
    ∀ t ∈ (furtherItemTokens ts ++ rest).head?, EndsNumber t := by
  cases ts <;> simp [furtherItemTokens, EndsNumber]

/-- What comes after a member of an object begins with a token that can follow a
number. -/
theorem endsNumber_furtherMemberTokens (ms : List (Units × Tree)) (rest : List Token) :
    ∀ t ∈ (furtherMemberTokens ms ++ rest).head?, EndsNumber t := by
  cases ms <;> simp [furtherMemberTokens, EndsNumber]

mutual

theorem apart_tokens (t : Tree) {rest : List Token} (hrest : Apart rest)
    (hends : ∀ t' ∈ rest.head?, EndsNumber t') : Apart (t.tokens ++ rest) := by
  cases t with
  | null | bool _ | string _ => exact apart_cons nofun hrest
  | number l => exact List.isChain_cons.2 ⟨fun t' ht' _ _ => hends t' ht', hrest⟩
  | array ts => exact apart_cons nofun (apart_itemTokens ts hrest)
  | object ms => exact apart_cons nofun (apart_memberTokens ms hrest)

theorem apart_itemTokens (ts : List Tree) {rest : List Token} (hrest : Apart rest) :
    Apart (itemTokens ts ++ rest) := by
  cases ts with
  | nil => exact apart_cons nofun hrest
  | cons t ts =>
    rw [itemTokens, List.append_assoc]
    exact apart_tokens t (apart_furtherItemTokens ts hrest) (endsNumber_furtherItemTokens ts rest)

theorem apart_furtherItemTokens (ts : List Tree) {rest : List Token} (hrest : Apart rest) :
    Apart (furtherItemTokens ts ++ rest) := by
  cases ts with
  | nil => exact apart_cons nofun hrest
  | cons t ts =>
    rw [furtherItemTokens, List.cons_append, List.append_assoc]
    exact apart_cons nofun
      (apart_tokens t (apart_furtherItemTokens ts hrest) (endsNumber_furtherItemTokens ts rest))

theorem apart_memberTokens (ms : List (Units × Tree)) {rest : List Token} (hrest : Apart rest) :
    Apart (memberTokens ms ++ rest) := by
  match ms with
  | [] => exact apart_cons nofun hrest
  | (key, t) :: ms =>
    rw [memberTokens, List.cons_append, List.cons_append, List.append_assoc]
    exact apart_cons nofun <| apart_cons nofun <|
      apart_tokens t (apart_furtherMemberTokens ms hrest) (endsNumber_furtherMemberTokens ms rest)

theorem apart_furtherMemberTokens (ms : List (Units × Tree)) {rest : List Token}
    (hrest : Apart rest) : Apart (furtherMemberTokens ms ++ rest) := by
  match ms with
  | [] => exact apart_cons nofun hrest
  | (key, t) :: ms =>
    rw [furtherMemberTokens, List.cons_append, List.cons_append, List.cons_append,
      List.append_assoc]
    exact apart_cons nofun <| apart_cons nofun <| apart_cons nofun <|
      apart_tokens t (apart_furtherMemberTokens ms hrest) (endsNumber_furtherMemberTokens ms rest)

end

end Tree

/-! ## Tokens build their tree -/

namespace Build

open IdleStop.Json.Tree (itemTokens furtherItemTokens memberTokens furtherMemberTokens)

variable {frames : List Frame} {t : Tree}

/-- No value begins with the end of an array, so the first item of an array is
begun as any value is. -/
theorem foldlM_item (t : Tree) (rest : List Token) :
    (t.tokens ++ rest).foldlM step (.item frames) =
      (t.tokens ++ rest).foldlM step (.value (.array [] :: frames)) := by
  cases t <;> rfl

mutual

/-- **The tokens of a tree build it inside any frames.** -/
theorem foldlM_tokens (t : Tree) (frames : List Frame) (rest : List Token) :
    (t.tokens ++ rest).foldlM step (.value frames) = rest.foldlM step (.after t frames) := by
  cases t with
  | null | bool _ | number _ | string _ => rfl
  | array ts => exact foldlM_itemTokens ts frames rest
  | object ms => exact foldlM_memberTokens ms frames rest

theorem foldlM_itemTokens (ts : List Tree) (frames : List Frame) (rest : List Token) :
    (itemTokens ts ++ rest).foldlM step (.item frames) =
      rest.foldlM step (.after (.array ts) frames) := by
  cases ts with
  | nil => rfl
  | cons t ts =>
    rw [itemTokens, List.append_assoc, foldlM_item, foldlM_tokens t, foldlM_furtherItemTokens ts]
    rfl

/-- The items read so far are kept last one first. -/
theorem foldlM_furtherItemTokens (ts : List Tree) (t : Tree) (items : List Tree)
    (frames : List Frame) (rest : List Token) :
    (furtherItemTokens ts ++ rest).foldlM step (.after t (.array items :: frames)) =
      rest.foldlM step (.after (.array ((t :: items).reverse ++ ts)) frames) := by
  cases ts with
  | nil => rw [List.append_nil]; rfl
  | cons t' ts =>
    have hstep : (furtherItemTokens (t' :: ts) ++ rest).foldlM step
        (.after t (.array items :: frames)) =
        (t'.tokens ++ (furtherItemTokens ts ++ rest)).foldlM step
          (.value (.array (t :: items) :: frames)) := by
      rw [furtherItemTokens, List.cons_append, List.append_assoc]
      rfl
    rw [hstep, foldlM_tokens t', foldlM_furtherItemTokens ts, List.reverse_cons, List.append_assoc,
      List.singleton_append]

theorem foldlM_memberTokens (ms : List (Units × Tree)) (frames : List Frame) (rest : List Token) :
    (memberTokens ms ++ rest).foldlM step (.member frames) =
      rest.foldlM step (.after (.object ms) frames) := by
  match ms with
  | [] => rfl
  | (us, t) :: ms =>
    have hstep : (memberTokens ((us, t) :: ms) ++ rest).foldlM step (.member frames) =
        (t.tokens ++ (furtherMemberTokens ms ++ rest)).foldlM step
          (.value (.object [] us :: frames)) := by
      rw [memberTokens, List.cons_append, List.cons_append, List.append_assoc]
      rfl
    rw [hstep, foldlM_tokens t, foldlM_furtherMemberTokens ms]
    rfl

/-- The members read so far are kept last one first. -/
theorem foldlM_furtherMemberTokens (ms : List (Units × Tree)) (t : Tree)
    (members : List (Units × Tree)) (us : Units) (frames : List Frame) (rest : List Token) :
    (furtherMemberTokens ms ++ rest).foldlM step (.after t (.object members us :: frames)) =
      rest.foldlM step (.after (.object (((us, t) :: members).reverse ++ ms)) frames) := by
  match ms with
  | [] => rw [List.append_nil]; rfl
  | (us', t') :: ms =>
    have hstep : (furtherMemberTokens ((us', t') :: ms) ++ rest).foldlM step
        (.after t (.object members us :: frames)) =
        (t'.tokens ++ (furtherMemberTokens ms ++ rest)).foldlM step
          (.value (.object ((us, t) :: members) us' :: frames)) := by
      rw [furtherMemberTokens, List.cons_append, List.cons_append, List.cons_append,
        List.append_assoc]
      rfl
    rw [hstep, foldlM_tokens t', foldlM_furtherMemberTokens ms, List.reverse_cons,
      List.append_assoc, List.singleton_append]

end

end Build

namespace Tree

variable {t : Tree} {s : String}

/-- The tokens of a tree write that tree. -/
theorem ofTokens?_tokens (t : Tree) : ofTokens? t.tokens = some t := by
  have hbuild := Build.foldlM_tokens t [] []
  rw [List.append_nil] at hbuild
  rw [ofTokens?, hbuild]
  rfl

/-- **A text that writes a tree is parsed as that tree.** -/
theorem parse?_of_spells (h : t.Spells s) : parse? s = some t := by
  have hapart : Token.Apart (t.tokens ++ []) := apart_tokens t List.isChain_nil nofun
  rw [List.append_nil] at hapart
  rw [parse?, Token.scan?_of_spaced h hapart]
  exact ofTokens?_tokens t

end Tree

end Json

end IdleStop
