import IdleStop.Proofs.Json.Lexemes
import IdleStop.Proofs.Json.Parsing
/-!
# The texts that are parsed

A text is parsed as a tree exactly if it writes that tree
(`Tree.parse?_eq_some_iff`). The tokens that a tree under construction has taken
can be read back from it (`Build.tokens`): each step adds its own, and those of a
complete tree are the tokens of the tree. So the parser takes no text that the
grammar does not have.
-/

namespace IdleStop

namespace Json

open IdleStop.Json.Tree (itemTokens memberTokens furtherItemTokens furtherMemberTokens)

variable {t : Tree} {ts : List Tree} {us : Units} {ms : List (Units × Tree)}

/-! ## The tokens that were taken -/

/-- The tokens of the items of an array that is still open, last one first, each
with the comma behind it. -/
def itemsTaken (ts : List Tree) : List Token :=
  ts.reverse.flatMap fun t => t.tokens ++ [.comma]

/-- The tokens of the members of an object that is still open, last one first,
each with the comma behind it. -/
def membersTaken (ms : List (Units × Tree)) : List Token :=
  ms.reverse.flatMap fun (us, t) => .string us :: .colon :: (t.tokens ++ [.comma])

namespace Frame

/-- The tokens of an open array or object up to the value that it waits for. -/
def tokens : Frame → List Token
  | array ts => .openArray :: itemsTaken ts
  | object ms us => .openObject :: (membersTaken ms ++ [.string us, .colon])

/-- The tokens of open arrays and objects, innermost first. -/
def rowTokens (frames : List Frame) : List Token :=
  frames.reverse.flatMap tokens

theorem rowTokens_cons (f : Frame) (frames : List Frame) :
    rowTokens (f :: frames) = rowTokens frames ++ f.tokens := by
  rw [rowTokens, List.reverse_cons, List.flatMap_append, List.flatMap_singleton]
  rfl

end Frame

/-! ## The tokens of a row that is closed -/

theorem itemsTaken_cons (t : Tree) (ts : List Tree) :
    itemsTaken (t :: ts) = itemsTaken ts ++ (t.tokens ++ [.comma]) := by
  rw [itemsTaken, List.reverse_cons, List.flatMap_append, List.flatMap_singleton]
  rfl

theorem membersTaken_cons (us : Units) (t : Tree) (ms : List (Units × Tree)) :
    membersTaken ((us, t) :: ms) =
      membersTaken ms ++ (.string us :: .colon :: (t.tokens ++ [.comma])) := by
  rw [membersTaken, List.reverse_cons, List.flatMap_append, List.flatMap_singleton]
  rfl

/-- An array is closed behind its last item. -/
theorem itemTokens_concat (ts : List Tree) (t : Tree) :
    itemTokens (ts ++ [t]) =
      ts.flatMap (fun t => t.tokens ++ [.comma]) ++ (t.tokens ++ [.closeArray]) := by
  induction ts with
  | nil => rfl
  | cons t' ts ih =>
    have hfurther : furtherItemTokens (ts ++ [t]) = .comma :: itemTokens (ts ++ [t]) := by
      cases ts <;> rfl
    rw [List.cons_append, itemTokens, hfurther, ih, List.flatMap_cons]
    simp only [List.append_assoc, List.cons_append, List.nil_append]

/-- An object is closed behind its last member. -/
theorem memberTokens_concat (ms : List (Units × Tree)) (us : Units) (t : Tree) :
    memberTokens (ms ++ [(us, t)]) =
      ms.flatMap (fun (us, t) => .string us :: .colon :: (t.tokens ++ [.comma])) ++
        (.string us :: .colon :: (t.tokens ++ [.closeObject])) := by
  induction ms with
  | nil => rfl
  | cons m ms ih =>
    obtain ⟨us', t'⟩ := m
    have hfurther : furtherMemberTokens (ms ++ [(us, t)]) =
        .comma :: memberTokens (ms ++ [(us, t)]) := by
      cases ms <;> rfl
    rw [List.cons_append, memberTokens, hfurther, ih, List.flatMap_cons]
    simp only [List.append_assoc, List.cons_append, List.nil_append]

theorem tokens_array_reverse (t : Tree) (ts : List Tree) :
    (Tree.array (t :: ts).reverse).tokens =
      .openArray :: (itemsTaken ts ++ (t.tokens ++ [.closeArray])) := by
  rw [Tree.tokens, List.reverse_cons, itemTokens_concat]
  rfl

theorem tokens_object_reverse (us : Units) (t : Tree) (ms : List (Units × Tree)) :
    (Tree.object ((us, t) :: ms).reverse).tokens =
      .openObject :: (membersTaken ms ++ (.string us :: .colon :: (t.tokens ++ [.closeObject]))) := by
  rw [Tree.tokens, List.reverse_cons, memberTokens_concat]
  rfl

/-! ## Each step takes its token -/

namespace Build

open IdleStop.Json.Frame (rowTokens rowTokens_cons)

/-- The tokens that a tree under construction has taken. -/
def tokens : Build → List Token
  | value frames => rowTokens frames
  | item frames => rowTokens frames ++ [.openArray]
  | member frames => rowTokens frames ++ [.openObject]
  | key ms frames => rowTokens frames ++ (.openObject :: membersTaken ms)
  | colon ms us frames => rowTokens frames ++ (.openObject :: (membersTaken ms ++ [.string us]))
  | after t frames => rowTokens frames ++ t.tokens

variable {b b' : Build} {token : Token} {frames : List Frame}

theorem tokens_start (h : start frames token = some b) :
    b.tokens = rowTokens frames ++ [token] := by
  cases token <;> cases h <;> rfl

/-- **A step adds its token to those that were taken.** -/
theorem tokens_step (h : step b token = some b') : b'.tokens = b.tokens ++ [token] := by
  unfold step at h
  split at h
  · exact tokens_start h
  · cases h
    simp only [tokens, List.append_assoc]
    rfl
  · rw [tokens_start h, rowTokens_cons]
    rfl
  · cases h
    simp only [tokens, List.append_assoc]
    rfl
  · cases h
    simp only [tokens, List.append_assoc]
    rfl
  · cases h
    simp only [tokens, List.append_assoc, List.cons_append]
  · cases h
    simp only [tokens, rowTokens_cons, Frame.tokens, List.append_assoc, List.cons_append,
      List.nil_append]
  · cases h
    simp only [tokens, rowTokens_cons, Frame.tokens, itemsTaken_cons, List.append_assoc,
      List.cons_append]
  · cases h
    simp only [tokens, rowTokens_cons, Frame.tokens, tokens_array_reverse, List.append_assoc,
      List.cons_append]
  · cases h
    simp only [tokens, rowTokens_cons, Frame.tokens, membersTaken_cons, List.append_assoc,
      List.cons_append, List.nil_append]
  · cases h
    simp only [tokens, rowTokens_cons, Frame.tokens, tokens_object_reverse, List.append_assoc,
      List.cons_append, List.nil_append]
  · cases h

/-- The tokens taken by a run are those it was given. -/
theorem tokens_foldlM {tokens' : List Token} (h : tokens'.foldlM step b = some b') :
    b'.tokens = b.tokens ++ tokens' := by
  induction tokens' generalizing b with
  | nil =>
    cases h
    rw [List.append_nil]
  | cons token tokens' ih =>
    rw [List.foldlM_cons] at h
    obtain ⟨b₁, hstep, hrest⟩ := Option.bind_eq_some_iff.1 h
    rw [ih hrest, tokens_step hstep, List.append_assoc, List.singleton_append]

end Build

namespace Tree

variable {s : String} {tokens : List Token}

/-- **A row of tokens that writes a tree is the row of its tokens.** -/
theorem ofTokens?_eq_some_iff : ofTokens? tokens = some t ↔ tokens = t.tokens := by
  constructor
  · intro h
    obtain ⟨b, hrun, htree⟩ := Option.bind_eq_some_iff.1 h
    have htaken := Build.tokens_foldlM hrun
    unfold Build.tree? at htree
    split at htree
    · cases htree
      exact htaken.symm
    · cases htree
  · rintro rfl
    exact ofTokens?_tokens t

/-- **A text is parsed as a tree exactly if it writes that tree.** -/
theorem parse?_eq_some_iff : parse? s = some t ↔ t.Spells s := by
  constructor
  · intro h
    obtain ⟨tokens, hscan, htree⟩ := Option.bind_eq_some_iff.1 h
    rw [ofTokens?_eq_some_iff.1 htree] at hscan
    exact Token.spaced_of_scan? hscan
  · exact parse?_of_spells

/-- A text writes one tree at most. -/
theorem Spells.unique {t' : Tree} (h : t.Spells s) (h' : t'.Spells s) : t = t' :=
  Option.some.inj ((parse?_of_spells h).symm.trans (parse?_of_spells h'))

end Tree

end Json

end IdleStop
