import IdleStop.Proofs.Action
/-!
# Actions that agree

Two actions agree if, whatever the metadata file is, they do the same deeds,
leave the same file, and both come to errors or both to values, which need not
be equal but related. Agreement goes along `>>=`: what follows values that are
related has to agree, and nothing follows errors.
-/

namespace IdleStop

namespace Action

variable {α β γ δ : Type} {E E' : CheckError → CheckError → Prop} {R : α → β → Prop}
variable {S : γ → δ → Prop}

/-- Two results that are errors related by `E`, or values related by `R`. -/
inductive Matched (E : CheckError → CheckError → Prop) (R : α → β → Prop) :
    Except CheckError α → Except CheckError β → Prop
  | error {e e' : CheckError} (h : E e e') : Matched E R (.error e) (.error e')
  | ok {a : α} {b : β} (h : R a b) : Matched E R (.ok a) (.ok b)

namespace Matched

theorem refl {R : α → α → Prop} (hE : ∀ e, E e e) (hR : ∀ a, R a a) (r : Except CheckError α) :
    Matched E R r r := by
  cases r with
  | error e => exact .error (hE e)
  | ok a => exact .ok (hR a)

theorem mono {r : Except CheckError α} {r' : Except CheckError β} (h : Matched E R r r')
    (hE : ∀ e e', E e e' → E' e e') : Matched E' R r r' := by
  cases h with
  | error he => exact .error (hE _ _ he)
  | ok hab => exact .ok hab

end Matched

/-- Two outcomes with the same deeds and the same metadata file left, whose
results match. -/
structure Agree (E : CheckError → CheckError → Prop) (R : α → β → Prop) (o : Outcome α)
    (o' : Outcome β) : Prop where
  result : Matched E R o.result o'.result
  deeds : o'.events.deeds = o.events.deeds
  metadata : o'.metadata = o.metadata

/-- Two actions whose outcomes agree, whatever the metadata file is. -/
def Agrees (E : CheckError → CheckError → Prop) (R : α → β → Prop) (x : Action α)
    (y : Action β) : Prop :=
  ∀ file, Agree E R (x.run file) (y.run file)

theorem Agree.attempts {o : Outcome α} {o' : Outcome β} (h : Agree E R o o') :
    o'.events.attempts = o.events.attempts := by
  rw [Trace.attempts_eq_calls, Trace.attempts_eq_calls, h.deeds]

namespace Agrees

variable {x : Action α} {y : Action β} {k : α → Action γ} {l : β → Action δ}

theorem refl {R : α → α → Prop} (hE : ∀ e, E e e) (hR : ∀ a, R a a) (x : Action α) :
    Agrees E R x x :=
  fun _ => ⟨.refl hE hR _, rfl, rfl⟩

theorem pure {a : α} {b : β} (h : R a b) :
    Agrees E R (Pure.pure a : Action α) (Pure.pure b : Action β) :=
  fun _ => ⟨.ok h, rfl, rfl⟩

/-- Writing the log is no deed, so the lines need not be the same. -/
theorem log (source source' : LogSource) (level level' : LogLevel) (text text' : String) :
    Agrees E Eq (Action.log source level text) (Action.log source' level' text') :=
  fun _ => ⟨.ok rfl, rfl, rfl⟩

/-- Actions with the same fixed deeds agree if their results match. -/
theorem of_acts {ds : List Deed} {f : File → File} (hx : x.Acts ds f) (hy : y.Acts ds f)
    (h : ∀ file, Matched E R (x.run file).result (y.run file).result) : Agrees E R x y :=
  fun file => ⟨h file, (hy.deeds file).trans (hx.deeds file).symm,
    (hy.metadata file).trans (hx.metadata file).symm⟩

theorem mono (h : Agrees E R x y) (hE : ∀ e e', E e e' → E' e e') : Agrees E' R x y :=
  fun file => ⟨(h file).result.mono hE, (h file).deeds, (h file).metadata⟩

theorem bind (hxy : Agrees E R x y) (hkl : ∀ a b, R a b → Agrees E S (k a) (l b)) :
    Agrees E S (x >>= k) (y >>= l) := by
  intro file
  obtain ⟨hresult, hdeeds, hmetadata⟩ := hxy file
  generalize hx : (x.run file).result = r at hresult
  generalize hy : (y.run file).result = r' at hresult
  cases hresult with
  | error he =>
    rw [run_bind_of_error hx, run_bind_of_error hy]
    exact ⟨.error he, hdeeds, hmetadata⟩
  | ok hab =>
    -- what follows begins with the same metadata file
    obtain ⟨hresult', hdeeds', hmetadata'⟩ := hkl _ _ hab (x.run file).metadata
    rw [run_bind_of_ok hx, run_bind_of_ok hy, hmetadata]
    refine ⟨hresult', ?_, hmetadata'⟩
    rw [Trace.deeds_append, Trace.deeds_append, hdeeds, hdeeds']

end Agrees

end Action

end IdleStop
