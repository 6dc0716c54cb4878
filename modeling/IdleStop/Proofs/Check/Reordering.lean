import IdleStop.Proofs.Agreement
import IdleStop.Proofs.Check.Failure
import IdleStop.Proofs.Notebook.Listing
/-!
# The order of the listings

A server may list the same sessions and terminals in another order. Whatever the
order, the items that are read are the same ones, and as a blocker or an unread
time counts wherever it stands, the verdict has the same blockers in some order or
there is none in either case. So a check tries the same calls and comes to the
same but for the order of the blockers and for which time it was that could not be
read.
-/

namespace IdleStop

open IdleStop.Action
open Json (Tree Units)

/-! ## Listings -/

/-- The same reply, or one whose body is an array of the same items in some
order. -/
inductive Reply.Reorders : Reply → Reply → Prop
  | same (r : Reply) : Reorders r r
  | items {status : Nat} {body body' : List UInt8} {complete : Bool} {ts ts' : List Tree}
      (hbody : Tree.parse? (Utf8.decodeLossy body) = some (.array ts))
      (hbody' : Tree.parse? (Utf8.decodeLossy body') = some (.array ts')) (hperm : ts.Perm ts') :
    Reorders (.answer status body complete) (.answer status body' complete)

namespace Json.Tree

variable {α : Type} {item? : Tree → Option α} {ts ts' : List Tree}

/-- Items in another order are read as the same in another order. -/
theorem exists_list?_of_perm {items : List α} (hperm : ts.Perm ts')
    (hitems : list? item? (.array ts) = some items) :
    ∃ items', list? item? (.array ts') = some items' ∧ items.Perm items' := by
  obtain ⟨items', hitems', hperm'⟩ :=
    List.perm_comp_forall₂ hperm.symm (list?_array_eq_some_iff.1 hitems)
  exact ⟨items', list?_array_eq_some_iff.2 hitems', hperm'.symm⟩

theorem list?_perm (hperm : ts.Perm ts') :
    Option.Rel List.Perm (list? item? (.array ts)) (list? item? (.array ts')) := by
  cases hitems : list? item? (.array ts) with
  | some items =>
    obtain ⟨items', hitems', hperm'⟩ := exists_list?_of_perm hperm hitems
    rw [hitems']
    exact .some hperm'
  | none =>
    cases hitems' : list? item? (.array ts') with
    | none => exact .none
    | some items' =>
      obtain ⟨items, hitems'', -⟩ := exists_list?_of_perm hperm.symm hitems'
      rw [hitems] at hitems''
      cases hitems''

end Json.Tree

namespace Listing

variable {α : Type} {listing : Listing} {item? : Tree → Option α} {server : String}

theorem ofText?_perm {text text' : String} {ts ts' : List Tree}
    (htext : Tree.parse? text = some (.array ts)) (htext' : Tree.parse? text' = some (.array ts'))
    (hperm : ts.Perm ts') : Option.Rel List.Perm (ofText? item? text) (ofText? item? text') := by
  rw [ofText?, ofText?, htext, htext']
  exact Tree.list?_perm hperm

/-- Two bodies whose texts, if they have any, list the same in some order. -/
theorem bodyText?_perm (item? : Tree → Option α) {body body' : List UInt8} {ts ts' : List Tree}
    (hbody : Tree.parse? (Utf8.decodeLossy body) = some (.array ts))
    (hbody' : Tree.parse? (Utf8.decodeLossy body') = some (.array ts')) (hperm : ts.Perm ts')
    (status : Nat) (complete : Bool) :
    Option.Rel (fun text text' => Option.Rel List.Perm (ofText? item? text) (ofText? item? text'))
      (bodyText? status body complete) (bodyText? status body' complete) := by
  unfold bodyText?
  split
  · split
    · exact .some (ofText?_perm hbody hbody' hperm)
    · exact .none
  · refine .some ?_
    cases ofText? item? "" with
    | none => exact .none
    | some items => exact .some (.refl items)

/-- **A listing that is reordered is fetched reordered**, or not at all. -/
theorem fetch_agrees {reply reply' : Reply} (h : reply.Reorders reply') :
    Agrees Eq List.Perm (listing.fetch item? server reply) (listing.fetch item? server reply') := by
  have hrefl : ∀ x : Action (List α), Agrees Eq List.Perm x x := .refl Eq.refl List.Perm.refl
  cases h with
  | same => exact hrefl _
  | @items status body body' complete ts ts' hbody hbody' hperm =>
    unfold fetch
    dsimp only
    split
    · exact hrefl _
    · split
      · refine Agrees.bind (.refl Eq.refl Eq.refl _) fun _ _ _ => ?_
        have htexts := bodyText?_perm item? hbody hbody' hperm status complete
        generalize bodyText? status body complete = text? at htexts
        generalize bodyText? status body' complete = text?' at htexts
        cases htexts with
        | none => exact hrefl _
        | @some text text' hitems =>
          refine Agrees.bind (.log _ _ _ _ _ _) fun _ _ _ => ?_
          split
          · generalize ofText? item? text = items? at hitems
            generalize ofText? item? text' = items?' at hitems
            cases hitems with
            | none => exact hrefl _
            | some hperm' => exact .pure hperm'
          · exact hrefl _
      · exact hrefl _

end Listing

/-! ## Verdicts -/

/-- The same error, or two times of activity that could not be read. -/
inductive CheckError.Akin : CheckError → CheckError → Prop
  | same (e : CheckError) : Akin e e
  | unread (value value' : String) : Akin (.format value .activity) (.format value' .activity)

/-- Two verdicts with the same blockers in some order. -/
def Verdict.Reorders (v v' : Verdict) : Prop :=
  v.blockers.Perm v'.blockers

theorem Verdict.Reorders.isIdle_eq {v v' : Verdict} (h : v.Reorders v') :
    v'.isIdle = v.isIdle :=
  h.symm.isEmpty_eq

namespace Survey

variable {p : Policy} {now : Instant} {es es' : List Entity} {err : CheckError}

theorem format_of_verdict (h : (ofEntities p now es).verdict = .error err) :
    ∃ value, err = .format value .activity := by
  induction es with
  | nil => cases h
  | cons e es ih =>
    cases hassess : e.assess p now with
    | error err' =>
      rw [ofEntities_cons_error hassess] at h
      cases h
      exact Entity.format_of_assess hassess
    | ok b =>
      refine ih ?_
      rw [ofEntities_cons_ok hassess] at h
      unfold verdict at h ⊢
      dsimp only at h
      split at h
      · exact h
      · cases h

/-- **In whatever order entities are surveyed**, either one is met that cannot be
assessed, or the same blockers are found. -/
theorem verdict_perm (hperm : es.Perm es') :
    Matched CheckError.Akin Verdict.Reorders (ofEntities p now es).verdict
      (ofEntities p now es').verdict := by
  by_cases hfails : ∃ e ∈ es, ∃ err, e.assess p now = .error err
  · have hfails' : ∃ e ∈ es', ∃ err, e.assess p now = .error err := by
      simpa only [hperm.mem_iff] using hfails
    obtain ⟨err, herr⟩ := exists_verdict_error_iff.2 hfails
    obtain ⟨err', herr'⟩ := exists_verdict_error_iff.2 hfails'
    obtain ⟨value, rfl⟩ := format_of_verdict herr
    obtain ⟨value', rfl⟩ := format_of_verdict herr'
    rw [herr, herr']
    exact .error (.unread value value')
  · have hok : ∀ e ∈ es, ∃ b, e.assess p now = .ok b := by
      intro e he
      cases hassess : e.assess p now with
      | ok b => exact ⟨b, rfl⟩
      | error err => exact absurd ⟨e, he, err, hassess⟩ hfails
    have hok' : ∀ e ∈ es', ∃ b, e.assess p now = .ok b := fun e he => hok e (hperm.mem_iff.2 he)
    obtain ⟨herror, hblockers⟩ := ofEntities_of_forall_ok hok
    obtain ⟨herror', hblockers'⟩ := ofEntities_of_forall_ok hok'
    rw [verdict, verdict, herror, herror', hblockers, hblockers']
    exact .ok (hperm.filterMap _)

end Survey

/-! ## Observations -/

/-- The same sessions in some order, or the same state of the instance. -/
inductive SessionSignal.Reorders : SessionSignal → SessionSignal → Prop
  | sessions {list list' : List Session} (h : list.Perm list') :
    Reorders (.sessions list) (.sessions list')
  | fallback (lastModified : Instant) : Reorders (.fallback lastModified) (.fallback lastModified)

namespace SessionSignal.Reorders

theorem refl (signal : SessionSignal) : signal.Reorders signal := by
  cases signal with
  | sessions list => exact .sessions (List.Perm.refl list)
  | fallback lastModified => exact .fallback lastModified

theorem entities {signal signal' : SessionSignal} (h : signal.Reorders signal') :
    signal.entities.Perm signal'.entities := by
  cases h with
  | sessions hlist => exact hlist.map Entity.session
  | fallback lastModified => exact List.Perm.refl _

end SessionSignal.Reorders

/-- The same observed in some order. -/
structure Observations.Reorders (o o' : Observations) : Prop where
  signal : o.signal.Reorders o'.signal
  terminals : o.terminals.Perm o'.terminals
  identity : o'.identity = o.identity

theorem Observations.Reorders.entities {o o' : Observations} (h : o.Reorders o') :
    o.entities.Perm o'.entities :=
  h.signal.entities.append (h.terminals.map Entity.terminal)

/-! ## Checks -/

/-- Two worlds that differ at most in the order of the listings. -/
structure World.Reorders (w w' : World) : Prop where
  address : w'.server.address = w.server.address
  sessions : w.server.sessions.Reorders w'.server.sessions
  terminals : w.server.terminals.Reorders w'.server.terminals
  platform : w'.platform = w.platform
  metadataPath : w'.metadataPath = w.metadataPath

/-- Two endings that differ at most in the order of the blockers. -/
inductive Ending.Reorders : Ending → Ending → Prop
  | stopped (name : String) : Reorders (.stopped name) (.stopped name)
  | active {v v' : Verdict} (h : v.Reorders v') : Reorders (.active v) (.active v')

namespace Check

variable {w w' : World} {control : ControlPlane} {p : Policy} {now : Instant}

theorem fetchSessions_agrees (h : w.Reorders w') :
    Agrees Eq List.Perm w.server.fetchSessions w'.server.fetchSessions := by
  unfold Server.fetchSessions
  rw [h.address]
  exact Listing.fetch_agrees h.sessions

theorem fetchTerminals_agrees (h : w.Reorders w') :
    Agrees Eq List.Perm w.server.fetchTerminals w'.server.fetchTerminals := by
  unfold Server.fetchTerminals
  rw [h.address]
  exact Listing.fetch_agrees h.terminals

theorem collectSignal_agrees (h : w.Reorders w') :
    Agrees Eq (fun a b => a.1.Reorders b.1 ∧ b.2 = a.2) (collectSignal w control)
      (collectSignal w' control) := by
  unfold collectSignal
  rw [h.platform, h.metadataPath]
  refine Agrees.bind (fetchSessions_agrees h) fun sessions sessions' hperm => ?_
  rw [hperm.isEmpty_eq]
  split
  · exact .refl Eq.refl (fun a => ⟨.refl a.1, rfl⟩) _
  · exact .bind (.log _ _ _ _ _ _) fun _ _ _ => .pure ⟨.sessions hperm, rfl⟩

theorem collect_agrees (h : w.Reorders w') :
    Agrees Eq Observations.Reorders (collect w control) (collect w' control) := by
  unfold collect
  refine (collectSignal_agrees h).bind fun (signal, known) (signal', known') hsignal => ?_
  obtain ⟨hsignal, rfl⟩ := hsignal
  refine (fetchTerminals_agrees h).bind fun terminals terminals' hperm => ?_
  rw [hperm.isEmpty_eq]
  split
  · exact .bind (.log _ _ _ _ _ _) fun _ _ _ => .pure ⟨hsignal, hperm, rfl⟩
  · exact .pure ⟨hsignal, hperm, rfl⟩

theorem evaluate_agrees {o o' : Observations} (h : o.Reorders o') :
    Agrees CheckError.Akin Verdict.Reorders (evaluate o p now) (evaluate o' p now) := by
  refine .of_acts (evaluate_acts o) (evaluate_acts o') fun file => ?_
  rw [evaluate_run, evaluate_run]
  exact Survey.verdict_perm h.entities

theorem act_agrees (h : w.Reorders w') (known : Option Identity) {v v' : Verdict}
    (hv : v.Reorders v') :
    Agrees CheckError.Akin Ending.Reorders (act w control p now known v)
      (act w' control p now known v') := by
  have hrefl : ∀ e : Ending, e.Reorders e := by
    intro e
    cases e with
    | stopped name => exact .stopped name
    | active v => exact .active (List.Perm.refl _)
  unfold act identify
  rw [hv.isIdle_eq, h.platform, h.metadataPath]
  split
  · exact .refl .same hrefl _
  · exact .bind (.log _ _ _ _ _ _) fun _ _ _ =>
      .bind (.log _ _ _ _ _ _) fun _ _ _ => .pure (.active hv)

theorem run_agrees (h : w.Reorders w') :
    Agrees CheckError.Akin Ending.Reorders (run w control p now) (run w' control p now) := by
  unfold run
  refine Agrees.bind (collect_agrees h |>.mono ?_) fun o o' ho => ?_
  · rintro e _ rfl
    exact .same e
  refine (evaluate_agrees ho).bind fun v v' hv => ?_
  rw [ho.identity]
  exact act_agrees h o.identity hv

/-- **The order of the listings does not matter.** If the sessions and the
terminals are listed in another order, a check attempts the same calls and leaves
the same metadata file. It stops the same instance, or it finds the same blockers
in some order, or it ends in an error of the same kind: the same one, unless it is
a time of activity that cannot be read, which may be another one. -/
theorem run_of_reordered (h : w.Reorders w') (control : ControlPlane) (p : Policy)
    (now : Instant) (file : File) :
    let o := (run w control p now).run file
    let o' := (run w' control p now).run file
    o'.events.attempts = o.events.attempts ∧ o'.metadata = o.metadata ∧
      Matched CheckError.Akin Ending.Reorders o.result o'.result := by
  have hagree : Agree CheckError.Akin Ending.Reorders ((run w control p now).run file)
      ((run w' control p now).run file) := run_agrees h file
  exact ⟨hagree.attempts, hagree.metadata, hagree.result⟩

/-- Two terminals that cannot be read, behind a session that is busy. -/
theorem run_of_reordered_unread :
    let busy := "[\x7b\"kernel\":\x7b\"execution_state\":\"busy\"," ++
      "\"connections\":0,\"last_activity\":\"\"\x7d\x7d]"
    let soon := "[\x7b\"last_activity\":\"soon\"\x7d,\x7b\"last_activity\":\"late\"\x7d]"
    let late := "[\x7b\"last_activity\":\"late\"\x7d, \x7b\"last_activity\":\"soon\"\x7d]"
    let reply := fun text : String => Reply.answer 200 text.toUTF8.data.toList true
    let quiet : Behaviour := ⟨[], [], some 0, true⟩
    let platform : Platform := ⟨fun _ => .runnable, .missing, quiet, quiet⟩
    let w : World := ⟨⟨"http://127.0.0.1:8000", reply busy, reply soon⟩, platform, "metadata"⟩
    let w' : World := ⟨⟨"http://127.0.0.1:8000", reply busy, reply late⟩, platform, "metadata"⟩
    let control : ControlPlane := ⟨"aws", .missing, none, none⟩
    let p : Policy := ⟨.ofSeconds 600, false, 8000⟩
    let now : Instant := ⟨1709294400, 0, by decide⟩
    let o := (run w control p now).run .missing
    let o' := (run w' control p now).run .missing
    w.Reorders w' ∧ o'.events.attempts = o.events.attempts ∧ o'.metadata = o.metadata ∧
      Matched CheckError.Akin Ending.Reorders o.result o'.result := by
  intro busy soon late reply quiet platform w w' control p now o o'
  let terminal := fun time : String =>
    Tree.object [(Units.ofString "last_activity", .string (Units.ofString time))]
  have hsoon : Tree.parse? (Utf8.decodeLossy soon.toUTF8.data.toList) =
      some (.array [terminal "soon", terminal "late"]) := by
    simp only [soon, terminal]
    rfl
  have hlate : Tree.parse? (Utf8.decodeLossy late.toUTF8.data.toList) =
      some (.array [terminal "late", terminal "soon"]) := by
    simp only [late, terminal]
    rfl
  have hterminals : w.server.terminals.Reorders w'.server.terminals :=
    .items hsoon hlate (List.Perm.swap _ _ _)
  have h : w.Reorders w' := ⟨rfl, .same _, hterminals, rfl, rfl⟩
  -- what the worlds are does not matter any more
  clear_value w w' control p now
  exact ⟨h, run_of_reordered h control p now .missing⟩

end Check

end IdleStop
