import IdleStop.Notebook.Listing
import IdleStop.Proofs.Action
import Mathlib.Data.List.Forall2
/-!
# What a listing is read from

A listing is fetched just if its address can be asked and the answer is
complete, reports success, and has a body that is an array whose items can
all be read. Then it holds what was read of each, in the order of the array.
-/

namespace IdleStop

open IdleStop.Action
open Json (Tree)

/-- Items are read just if each is read. -/
theorem Json.Tree.list?_array_eq_some_iff {α : Type} {item? : Tree → Option α} {ts : List Tree}
    {items : List α} :
    list? item? (.array ts) = some items ↔
      List.Forall₂ (fun t item => item? t = some item) ts items := by
  rw [list?]
  induction ts generalizing items with
  | nil =>
    rw [List.forall₂_nil_left_iff]
    exact ⟨fun h => (Option.some.inj h).symm, fun h => congrArg some h.symm⟩
  | cons t ts ih =>
    rw [List.mapM_cons, List.forall₂_cons_left_iff]
    simp only [Option.bind_eq_bind, Option.bind_eq_some_iff, ← ih, Option.pure_def,
      Option.some.injEq]
    constructor
    · rintro ⟨item, hitem, items', hitems', rfl⟩
      exact ⟨item, items', hitem, hitems', rfl⟩
    · rintro ⟨item, items', hitem, hitems', rfl⟩
      exact ⟨item, hitem, items', hitems', rfl⟩

namespace Listing

variable {α : Type} {listing : Listing} {item? : Tree → Option α} {server : String}
variable {reply : Reply} {file : File} {items : List α}

/-- The listing of a server at an address can be asked for. -/
def Askable (listing : Listing) (server : String) : Prop :=
  ∃ url, (Http.Url.parse? (server ++ listing.path)).map (·.anonymous) = some url ∧
    url.isRequestable = true

instance : Decidable (listing.Askable server) :=
  decidable_of_iff _ (Option.any_eq_true Http.Url.isRequestable _)

/-- **What it takes to fetch a listing.** -/
theorem fetch_eq_ok_iff :
    ((listing.fetch item? server reply).run file).result = .ok items ↔
      listing.Askable server ∧ ∃ status body complete text,
        reply = .answer status body complete ∧ bodyText? status body complete = some text ∧
          Http.isSuccess status = true ∧ ofText? item? text = some items := by
  constructor
  · intro h
    unfold fetch at h
    dsimp only at h
    split at h
    · cases h
    · next url hurl =>
      split at h
      · next hask =>
        refine ⟨⟨url, hurl, hask⟩, ?_⟩
        split at h
        · cases h
        · cases h
        · next status body complete =>
          rw [run_bind_of_ok rfl] at h
          split at h
          · cases h
          · next text htext =>
            rw [run_bind_of_ok rfl] at h
            split at h
            · next hsuccess =>
              split at h
              · next items' hitems =>
                obtain rfl : items' = items := Except.ok.inj h
                exact ⟨status, body, complete, text, rfl, htext, hsuccess, hitems⟩
              · cases h
            · cases h
      · cases h
  · rintro ⟨⟨url, hurl, hask⟩, status, body, complete, text, rfl, htext, hsuccess, hitems⟩
    simp only [fetch, hurl, hask, htext, hsuccess, hitems, if_true]
    rfl

/-- A text is a listing just if it is an array, each item of which is read. -/
theorem ofText?_eq_some_iff {text : String} :
    ofText? item? text = some items ↔
      ∃ ts, Tree.parse? text = some (.array ts) ∧
        List.Forall₂ (fun t item => item? t = some item) ts items := by
  rw [ofText?, Option.bind_eq_some_iff]
  constructor
  · rintro ⟨t, ht, hlist⟩
    cases t with
    | array ts => exact ⟨ts, ht, Tree.list?_array_eq_some_iff.1 hlist⟩
    | null | bool _ | number _ | string _ | object _ => cases hlist
  · rintro ⟨ts, hts, hitems⟩
    exact ⟨.array ts, hts, Tree.list?_array_eq_some_iff.2 hitems⟩

end Listing

end IdleStop
