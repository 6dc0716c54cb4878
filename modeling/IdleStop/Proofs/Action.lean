import IdleStop.Check.Action
/-!
# What actions do

A trace tells every log line; for most questions only the deeds count, the
calls attempted and the reads of the metadata file, in their order. An action
`Yields` a result, a row of deeds and a metadata file from another, and the
rules below put that together along `>>=`: what follows an action that
succeeds is added to what it did, and nothing follows one that fails.

Actions obey the laws of a monad, so that a check can be cut anywhere. An
action is `Blind` if the metadata file plays no part in what it comes to, and
`FailsAs` says which errors it can end in.
-/

namespace IdleStop

/-- Something done apart from writing the log. -/
inductive Deed
  /-- A call is attempted. -/
  | call (c : Call)
  /-- The metadata file is read. -/
  | read
  deriving DecidableEq

/-- The calls attempted among deeds. -/
def Deed.calls : List Deed → List Call
  | [] => []
  | call c :: ds => c :: calls ds
  | read :: ds => calls ds

@[simp] theorem Deed.calls_nil : calls [] = [] :=
  rfl

@[simp] theorem Deed.calls_cons_call (c : Call) (ds : List Deed) :
    calls (call c :: ds) = c :: calls ds :=
  rfl

@[simp] theorem Deed.calls_cons_read (ds : List Deed) : calls (read :: ds) = calls ds :=
  rfl

@[simp] theorem Deed.calls_append (ds ds' : List Deed) :
    calls (ds ++ ds') = calls ds ++ calls ds' := by
  induction ds with
  | nil => rfl
  | cons d ds ih => cases d <;> simp [ih]

/-- The deed that an event is. -/
def Event.deed? : Event → Option Deed
  | .call c _ => some (.call c)
  | .metadataRead => some .read
  | .logged _ => none

namespace Trace

/-- The deeds among events. -/
def deeds (t : Trace) : List Deed :=
  t.filterMap Event.deed?

@[simp] theorem deeds_append (t t' : Trace) : deeds (t ++ t') = deeds t ++ deeds t' :=
  List.filterMap_append

theorem deeds_cons (e : Event) (t : Trace) :
    deeds (e :: t) = (Event.deed? e).toList ++ deeds t := by
  cases e <;> rfl

@[simp] theorem attempts_cons_logged (line : LogLine) (t : Trace) :
    attempts (.logged line :: t) = attempts t :=
  rfl

@[simp] theorem calls_cons_logged (line : LogLine) (t : Trace) :
    calls (.logged line :: t) = calls t :=
  rfl

@[simp] theorem log_cons_logged (line : LogLine) (t : Trace) :
    log (.logged line :: t) = line :: log t :=
  rfl

/-- The calls attempted are among the deeds. -/
theorem attempts_eq_calls (t : Trace) : t.attempts = Deed.calls t.deeds := by
  induction t with
  | nil => rfl
  | cons e t ih =>
    have hcons : attempts (e :: t) = attempts [e] ++ attempts t := attempts_append [e] t
    rw [hcons, deeds_cons, Deed.calls_append, ih]
    cases e <;> rfl

/-- So are the reads of the metadata file. -/
theorem count_metadataRead (t : Trace) : t.count .metadataRead = t.deeds.count .read := by
  induction t with
  | nil => rfl
  | cons e t ih =>
    rw [List.count_cons, deeds_cons, List.count_append, ih]
    cases e <;> simp [Event.deed?, Nat.add_comm]

end Trace

namespace Action

variable {α β γ : Type} {x : Action α} {k : α → Action β} {file file' file'' : File}

/-! ## The laws of a monad -/

theorem ext {x y : Action α} (h : ∀ file, x.run file = y.run file) : x = y :=
  funext h

theorem bind_pure_self (x : Action α) : x >>= pure = x := by
  refine ext fun file => ?_
  cases h : (x.run file).result with
  | error e =>
    rw [run_bind_of_error h, ← h]
  | ok a =>
    rw [run_bind_of_ok h, run_pure, ← h, List.append_nil]

theorem pure_bind' (a : α) (k : α → Action β) : pure a >>= k = k a :=
  ext fun _ => run_bind_of_ok rfl

theorem bind_bind (x : Action α) (k : α → Action β) (l : β → Action γ) :
    x >>= k >>= l = x >>= fun a => k a >>= l := by
  refine ext fun file => ?_
  -- either the first fails, or the second does, or the third is reached
  cases h : (x.run file).result with
  | error e =>
    have hk : ((x >>= k).run file).result = .error e := by rw [run_bind_of_error h]
    rw [run_bind_of_error hk, run_bind_of_error h, run_bind_of_error h]
  | ok a =>
    cases h' : ((k a).run (x.run file).metadata).result with
    | error e =>
      have hk : ((x >>= k).run file).result = .error e := by rw [run_bind_of_ok h, h']
      rw [run_bind_of_error hk, run_bind_of_ok h, run_bind_of_ok h, run_bind_of_error h']
    | ok b =>
      have hk : ((x >>= k).run file).result = .ok b := by rw [run_bind_of_ok h, h']
      rw [run_bind_of_ok hk, run_bind_of_ok h, run_bind_of_ok h, run_bind_of_ok h',
        List.append_assoc]

instance : LawfulMonad Action :=
  LawfulMonad.mk' _ bind_pure_self pure_bind' bind_bind

/-- What keeps the metadata file, followed by what keeps it, keeps it. -/
theorem metadata_bind (hx : (x.run file).metadata = file)
    (hk : ∀ a, (x.run file).result = .ok a → ((k a).run file).metadata = file) :
    ((x >>= k).run file).metadata = file := by
  cases h : (x.run file).result with
  | error e => rw [run_bind_of_error h, hx]
  | ok a => rw [run_bind_of_ok h, hx, hk a h]

/-! ## What an action yields -/

/-- Beginning with `file`, an action comes to `r`, does `ds` and leaves
`file'`. -/
structure Yields (x : Action α) (file : File) (r : Except CheckError α) (ds : List Deed)
    (file' : File) : Prop where
  result : (x.run file).result = r
  deeds : (x.run file).events.deeds = ds
  metadata : (x.run file).metadata = file'

namespace Yields

theorem pure (a : α) : (Pure.pure a : Action α).Yields file (.ok a) [] file :=
  ⟨rfl, rfl, rfl⟩

/-- Writing the log is no deed. -/
theorem log (source : LogSource) (level : LogLevel) (text : String) :
    (Action.log source level text).Yields file (.ok ()) [] file :=
  ⟨rfl, rfl, rfl⟩

theorem ofExcept (r : Except CheckError α) : (Action.ofExcept r).Yields file r [] file :=
  ⟨rfl, rfl, rfl⟩

theorem readMetadata : Action.readMetadata.Yields file (.ok file) [.read] file :=
  ⟨rfl, rfl, rfl⟩

variable {a : α} {e : CheckError} {r : Except CheckError β} {ds ds' : List Deed}

/-- What follows an action that succeeds adds its deeds. -/
theorem bind (hx : x.Yields file (.ok a) ds file') (hk : (k a).Yields file' r ds' file'') :
    (x >>= k).Yields file r (ds ++ ds') file'' := by
  have hrun := run_bind_of_ok (k := k) hx.result
  rw [hx.metadata] at hrun
  refine ⟨?_, ?_, ?_⟩
  · rw [hrun, hk.result]
  · rw [hrun, Trace.deeds_append, hx.deeds, hk.deeds]
  · rw [hrun, hk.metadata]

/-- Nothing follows an action that fails. -/
theorem bind_error (hx : x.Yields file (.error e) ds file') :
    (x >>= k).Yields file (.error e) ds file' := by
  have hrun := run_bind_of_error (k := k) hx.result
  refine ⟨?_, ?_, ?_⟩
  · rw [hrun]
  · rw [hrun, hx.deeds]
  · rw [hrun, hx.metadata]

/-- After an action that does nothing and succeeds, things stand as before. -/
theorem bind_nil (hx : x.Yields file (.ok a) [] file') (hk : (k a).Yields file' r ds file'') :
    (x >>= k).Yields file r ds file'' :=
  hx.bind hk

/-- What does nothing adds no deeds. -/
theorem bind_quiet (hx : x.Yields file (.ok a) ds file') (hk : (k a).Yields file' r [] file'') :
    (x >>= k).Yields file r ds file'' :=
  List.append_nil ds ▸ hx.bind hk

end Yields

/-! ## Blind actions -/

/-- Two outcomes that differ at most in the metadata file they leave. -/
def Alike (o o' : Outcome α) : Prop :=
  o.result = o'.result ∧ o.events = o'.events

theorem Alike.refl (o : Outcome α) : Alike o o :=
  ⟨rfl, rfl⟩

theorem Alike.symm {o o' : Outcome α} (h : Alike o o') : Alike o' o :=
  ⟨h.1.symm, h.2.symm⟩

theorem Alike.trans {o o' o'' : Outcome α} (h : Alike o o') (h' : Alike o' o'') : Alike o o'' :=
  ⟨h.1.trans h'.1, h.2.trans h'.2⟩

/-- Actions that begin alike and go on alike come out alike. -/
theorem Alike.bind {y : Action α} {l : α → Action β} (h : Alike (x.run file) (y.run file'))
    (hk : ∀ a, (x.run file).result = .ok a →
      Alike ((k a).run (x.run file).metadata) ((l a).run (y.run file').metadata)) :
    Alike ((x >>= k).run file) ((y >>= l).run file') := by
  obtain ⟨hresult, hevents⟩ := h
  -- both fail or both go on, with the same value
  cases hx : (x.run file).result with
  | error e =>
    have hy : (y.run file').result = .error e := by rw [← hresult, hx]
    rw [run_bind_of_error hx, run_bind_of_error hy, hevents]
    exact ⟨rfl, rfl⟩
  | ok a =>
    have hy : (y.run file').result = .ok a := by rw [← hresult, hx]
    obtain ⟨hresult', hevents'⟩ := hk a hx
    rw [run_bind_of_ok hx, run_bind_of_ok hy, hevents, hresult', hevents']
    exact ⟨rfl, rfl⟩

/-- What an action comes to does not depend on the metadata file. -/
def Blind (x : Action α) : Prop :=
  ∀ file file', Alike (x.run file) (x.run file')

namespace Blind

/-- Blind actions in a row are blind, whatever the first does to the file. -/
theorem bind (hx : x.Blind) (hk : ∀ a, (k a).Blind) : (x >>= k).Blind :=
  fun file file' => (hx file file').bind fun a _ => hk a _ _

theorem result_eq {r : Except CheckError α} (hx : x.Blind) (h : (x.run file).result = r)
    (file' : File) : (x.run file').result = r :=
  (hx file' file).1.trans h

/-- Whether the metadata file is deleted first makes no difference. -/
theorem delete_first (hx : x.Blind) (deletes deletes' : Bool) (file : File) :
    Alike ((if deletes then do deleteMetadata; x else x).run file)
      ((if deletes' then do deleteMetadata; x else x).run file) := by
  -- either way it comes to what it would from the file as it stands
  have hkeep : ∀ deletes : Bool,
      Alike ((if deletes then do deleteMetadata; x else x).run file) (x.run file) := by
    intro deletes
    cases deletes with
    | false => exact Alike.refl _
    | true => exact hx .missing file
  exact (hkeep deletes).trans (hkeep deletes').symm

end Blind

/-! ## Actions with fixed deeds -/

/-- A blind action whose deeds are `ds`, succeed or fail, and which leaves
`f file` of a metadata file. -/
structure Acts (x : Action α) (ds : List Deed) (f : File → File) : Prop where
  blind : x.Blind
  deeds (file : File) : (x.run file).events.deeds = ds
  metadata (file : File) : (x.run file).metadata = f file

namespace Acts

variable {ds : List Deed} {f : File → File}

theorem pure (a : α) : (Pure.pure a : Action α).Acts [] id :=
  ⟨fun _ _ => ⟨rfl, rfl⟩, fun _ => rfl, fun _ => rfl⟩

theorem fail (e : CheckError) : (Action.fail e : Action α).Acts [] id :=
  ⟨fun _ _ => ⟨rfl, rfl⟩, fun _ => rfl, fun _ => rfl⟩

theorem ofExcept (r : Except CheckError α) : (Action.ofExcept r).Acts [] id :=
  ⟨fun _ _ => ⟨rfl, rfl⟩, fun _ => rfl, fun _ => rfl⟩

theorem log (source : LogSource) (level : LogLevel) (text : String) :
    (Action.log source level text).Acts [] id :=
  ⟨fun _ _ => ⟨rfl, rfl⟩, fun _ => rfl, fun _ => rfl⟩

theorem ite {c : Prop} [Decidable c] {y : Action α} (hx : x.Acts ds f) (hy : y.Acts ds f) :
    (if c then x else y).Acts ds f := by
  split
  · exact hx
  · exact hy

/-- A call is the first deed. -/
theorem call_bind {k : Unit → Action β} (c : Call) (delivered : Bool) (hk : (k ()).Acts ds f) :
    (emit (.call c delivered) >>= k).Acts (.call c :: ds) f where
  blind := Blind.bind (fun _ _ => ⟨rfl, rfl⟩) fun _ => hk.blind
  deeds file := by
    rw [run_bind_of_ok rfl, Trace.deeds_append, hk.deeds]
    rfl
  metadata file := by
    rw [run_bind_of_ok rfl]
    exact hk.metadata file

theorem log_bind {k : Unit → Action β} {source : LogSource} {level : LogLevel} {text : String}
    (hk : (k ()).Acts ds f) : (Action.log source level text >>= k).Acts ds f where
  blind := Blind.bind (fun _ _ => ⟨rfl, rfl⟩) fun _ => hk.blind
  deeds file := by
    rw [run_bind_of_ok rfl, Trace.deeds_append, hk.deeds]
    rfl
  metadata file := by
    rw [run_bind_of_ok rfl]
    exact hk.metadata file

/-- Where the file is deleted first, it makes no difference what it was. -/
theorem delete_bind {k : Unit → Action β} (hk : (k ()).Acts ds f) :
    (deleteMetadata >>= k).Acts ds fun _ => f .missing where
  blind := Blind.bind (fun _ _ => ⟨rfl, rfl⟩) fun _ => hk.blind
  deeds file := by
    rw [run_bind_of_ok rfl, Trace.deeds_append, hk.deeds]
    rfl
  metadata file := by
    rw [run_bind_of_ok rfl]
    exact hk.metadata .missing

/-- What does nothing may follow or not. -/
theorem bind_idle (hx : x.Acts ds f) (hk : ∀ a, (k a).Acts [] id) : (x >>= k).Acts ds f where
  blind := hx.blind.bind fun a => (hk a).blind
  deeds file := by
    cases h : (x.run file).result with
    | error e => rw [run_bind_of_error h, hx.deeds]
    | ok a => rw [run_bind_of_ok h, Trace.deeds_append, hx.deeds, (hk a).deeds, List.append_nil]
  metadata file := by
    cases h : (x.run file).result with
    | error e => rw [run_bind_of_error h, hx.metadata]
    | ok a => rw [run_bind_of_ok h, (hk a).metadata, hx.metadata, id]

/-- The calls it attempts are those among its deeds. -/
theorem attempts (hx : x.Acts ds f) (file : File) :
    (x.run file).events.attempts = Deed.calls ds := by
  rw [Trace.attempts_eq_calls, hx.deeds]

/-- What it comes to fixes what it yields. -/
theorem yields {r : Except CheckError α} (hx : x.Acts ds f) (h : (x.run file).result = r) :
    x.Yields file r ds (f file) :=
  ⟨h, hx.deeds file, hx.metadata file⟩

end Acts

/-! ## How an action fails -/

/-- Whenever an action fails, its error is one of these. -/
def FailsAs (x : Action α) (P : CheckError → Prop) : Prop :=
  ∀ ⦃file e⦄, (x.run file).result = .error e → P e

namespace FailsAs

variable {P : CheckError → Prop}

theorem pure (a : α) : (Pure.pure a : Action α).FailsAs P :=
  fun _ _ h => nomatch h

theorem emit (event : Event) : (Action.emit event).FailsAs P :=
  fun _ _ h => nomatch h

theorem deleteMetadata : Action.deleteMetadata.FailsAs P :=
  fun _ _ h => nomatch h

theorem fail {e : CheckError} (he : P e) : (Action.fail e : Action α).FailsAs P := by
  intro file e' h
  cases h
  exact he

theorem ofExcept {r : Except CheckError α} (hr : ∀ e, r = .error e → P e) :
    (Action.ofExcept r).FailsAs P :=
  fun _ e h => hr e h

theorem ite {c : Prop} [Decidable c] {y : Action α} (hx : x.FailsAs P) (hy : y.FailsAs P) :
    (if c then x else y).FailsAs P := by
  split
  · exact hx
  · exact hy

/-- Either the first fails or what follows it does. -/
theorem bind (hx : x.FailsAs P) (hk : ∀ a, (k a).FailsAs P) : (x >>= k).FailsAs P := by
  intro file e h
  cases hresult : (x.run file).result with
  | error e' =>
    rw [run_bind_of_error hresult] at h
    cases h
    exact hx hresult
  | ok a =>
    rw [run_bind_of_ok hresult] at h
    exact hk a h

theorem foldlM {f : β → γ → Action β} (hf : ∀ b c, (f b c).FailsAs P) (cs : List γ) (b : β) :
    (cs.foldlM f b).FailsAs P := by
  induction cs generalizing b with
  | nil => exact pure b
  | cons c cs ih =>
    rw [List.foldlM_cons]
    exact (hf b c).bind ih

theorem mono {Q : CheckError → Prop} (hx : x.FailsAs P) (hPQ : ∀ e, P e → Q e) : x.FailsAs Q :=
  fun _ e h => hPQ e (hx h)

end FailsAs

end Action

end IdleStop
