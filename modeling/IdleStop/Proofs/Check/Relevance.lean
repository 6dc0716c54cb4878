import IdleStop.Proofs.Agreement
import IdleStop.Proofs.Check.Evaluation
import Mathlib.Data.List.Forall2
import Mathlib.Data.Option.Basic
/-!
# What an evaluation reads

The rule names what counts, and nothing else is read. The time of a session is not
read while its kernel or its clients decide, and the clients are not while its
kernel decides or the policy has them ignored; in their place may stand anything
(`Session.EditsUnread`), and the evaluation is the same down to its log. Names and
ids only tell which entity a line is about: whatever they are (`Session.Relabels`),
the same entities block for the same reasons, or the same time cannot be read.
-/

namespace IdleStop

open IdleStop.Action

/-! ## Edits -/

/-- The clients of a session do not decide. -/
def Session.ClientsUnread (p : Policy) (s : Session) : Prop :=
  s.kernel.state ≠ .idle ∨ p.ignoreConnections = true

/-- The time of a session does not decide. -/
def Session.TimeUnread (p : Policy) (s : Session) : Prop :=
  s.kernel.state ≠ .idle ∨ (0 < s.kernel.connections ∧ p.ignoreConnections = false)

/-- A session with other clients or another time, where these are not read. -/
inductive Session.EditsUnread (p : Policy) (s : Session) : Session → Prop
  | mk (connections : UInt64) (lastActivity : String)
      (hconnections : connections = s.kernel.connections ∨ s.ClientsUnread p)
      (hlast : lastActivity = s.kernel.lastActivity ∨ s.TimeUnread p) :
    EditsUnread p s { s with kernel := { s.kernel with connections, lastActivity } }

/-- A session with any names and ids. -/
inductive Session.Relabels (s : Session) : Session → Prop
  | mk (id path kernelId kernelName : Option String) :
    Relabels s ⟨id, path, { s.kernel with id := kernelId, name := kernelName }⟩

/-- A terminal with any name. -/
inductive Terminal.Relabels (t : Terminal) : Terminal → Prop
  | mk (name : Option String) : Relabels t { t with name }

/-- The same signal but for edits of its sessions, any number of them. -/
inductive SessionSignal.Edits (R : Session → Session → Prop) :
    SessionSignal → SessionSignal → Prop
  | sessions {list list' : List Session} (h : List.Forall₂ R list list') :
    Edits R (.sessions list) (.sessions list')
  | fallback (lastModified : Instant) : Edits R (.fallback lastModified) (.fallback lastModified)

/-- The same observed but for edits of sessions and terminals, any number of them. The
identity, which is not evaluated, may be another. -/
structure Observations.Edits (R : Session → Session → Prop) (S : Terminal → Terminal → Prop)
    (o o' : Observations) : Prop where
  signal : o.signal.Edits R o'.signal
  terminals : List.Forall₂ S o.terminals o'.terminals

/-- The same entity but for an edit. -/
inductive Entity.Edits (R : Session → Session → Prop) (S : Terminal → Terminal → Prop) :
    Entity → Entity → Prop
  | session {s s' : Session} (h : R s s') : Edits R S (.session s) (.session s')
  | machine (lastModified : Instant) : Edits R S (.machine lastModified) (.machine lastModified)
  | terminal {t t' : Terminal} (h : S t t') : Edits R S (.terminal t) (.terminal t')

variable {R : Session → Session → Prop} {S : Terminal → Terminal → Prop}
variable {p : Policy} {now : Instant} {e e' : Entity} {es es' : List Entity} {s s' : Session}

theorem SessionSignal.Edits.entities {signal signal' : SessionSignal} (h : signal.Edits R signal') :
    List.Forall₂ (Entity.Edits R S) signal.entities signal'.entities := by
  cases h with
  | sessions hlist =>
    refine List.forall₂_map_left_iff.2 (List.forall₂_map_right_iff.2 ?_)
    exact hlist.imp fun _ _ h => .session h
  | fallback lastModified => exact .cons (.machine lastModified) .nil

theorem Observations.Edits.entities {o o' : Observations} (h : o.Edits R S o') :
    List.Forall₂ (Entity.Edits R S) o.entities o'.entities := by
  refine List.rel_append h.signal.entities ?_
  refine List.forall₂_map_left_iff.2 (List.forall₂_map_right_iff.2 ?_)
  exact h.terminals.imp fun _ _ h => .terminal h

/-! ## What is not read -/

/-- Where the kernel or the clients decide, they block whatever the time is; otherwise
the time is the one it was. Either way the assessment is the same. -/
theorem Session.EditsUnread.assess_eq (h : s.EditsUnread p s') (now : Instant) :
    (Entity.session s').assess p now = (Entity.session s).assess p now ∧
      (s'.kernel.lastActivity = s.kernel.lastActivity ∨
        ∃ b, (Entity.session s).assess p now = .ok (some b)) := by
  obtain ⟨connections, lastActivity, hconnections, hlast⟩ := h
  by_cases hstate : s.kernel.state ≠ .idle
  · refine ⟨?_, Or.inr ⟨_, by rw [Entity.assess, if_pos hstate]⟩⟩
    rw [Entity.assess, Entity.assess, if_pos hstate, if_pos hstate]
    rfl
  · by_cases hignored : p.ignoreConnections = true
    · -- clients do not count, so the time is read
      have htime : ¬ s.TimeUnread p := by
        rintro (hactive | ⟨-, hcount⟩)
        · exact hstate hactive
        · rw [hignored] at hcount
          cases hcount
      obtain rfl := hlast.resolve_right htime
      have hquiet : ∀ n : UInt64, ¬ (¬ p.ignoreConnections = true ∧ 0 < n) :=
        fun _ hcount => hcount.1 hignored
      refine ⟨?_, Or.inl rfl⟩
      rw [Entity.assess, Entity.assess, if_neg hstate, if_neg hstate, if_neg (hquiet _),
        if_neg (hquiet _)]
      rfl
    · have hsame : ¬ s.ClientsUnread p := not_or.2 ⟨hstate, hignored⟩
      obtain rfl := hconnections.resolve_right hsame
      by_cases hclients : 0 < s.kernel.connections
      · refine ⟨?_, Or.inr ⟨_, by
          rw [Entity.assess, if_neg hstate, if_pos ⟨hignored, hclients⟩]⟩⟩
        rw [Entity.assess, Entity.assess, if_neg hstate, if_neg hstate,
          if_pos ⟨hignored, hclients⟩, if_pos ⟨hignored, hclients⟩]
        rfl
      · have htime : ¬ s.TimeUnread p := by
          rintro (hactive | ⟨hpos, -⟩)
          · exact hstate hactive
          · exact hclients hpos
        obtain rfl := hlast.resolve_right htime
        exact ⟨rfl, Or.inl rfl⟩

namespace Check

/-- An entity is examined for its assessment, and for its words if it is idle. -/
theorem examine_eq (hassess : e'.assess p now = e.assess p now)
    (htext : e.assess p now = .ok none → e'.idleText = e.idleText) :
    examine p now e' = examine p now e := by
  unfold examine
  rw [hassess]
  cases h : e.assess p now with
  | error err => rfl
  | ok b =>
    cases b with
    | none => rw [htext h]
    | some blocker => rfl

theorem examine_eq_of_editsUnread (h : e.Edits (Session.EditsUnread p) Eq e') :
    examine p now e' = examine p now e := by
  cases h with
  | session h =>
    obtain ⟨hassess, htime⟩ := h.assess_eq now
    refine examine_eq hassess fun hidle => ?_
    rcases htime with htime | ⟨b, hb⟩
    · cases h with | mk connections lastActivity =>
      obtain rfl : lastActivity = _ := htime
      rfl
    · rw [hb] at hidle
      cases hidle
  | machine lastModified => rfl
  | terminal h =>
    obtain rfl := h
    rfl

/-- A loop over entities that are examined alike. -/
theorem foldlM_consider_eq (h : List.Forall₂ (fun e e' => examine p now e' = examine p now e) es es')
    (v : Verdict) : es'.foldlM (consider p now) v = es.foldlM (consider p now) v := by
  induction h generalizing v with
  | nil => rfl
  | @cons e e' es es' h _ ih =>
    have hconsider : consider p now v e' = consider p now v e := by
      unfold consider
      rw [h]
    rw [List.foldlM_cons, List.foldlM_cons, hconsider]
    exact bind_congr ih

end Check

/-! ## What only names an entity -/

/-- Two blockers that give the same reason, whatever they call the entity. -/
inductive Blocker.SameReason : Blocker → Blocker → Prop
  | kernelNotIdle (session session' : String) (state : KernelState) :
    SameReason (.kernelNotIdle session state) (.kernelNotIdle session' state)
  | connectedClients (session session' : String) (connections : UInt64) :
    SameReason (.connectedClients session connections) (.connectedClients session' connections)
  | recentSession (session session' : String) (lastActivity : Instant) :
    SameReason (.recentSession session lastActivity) (.recentSession session' lastActivity)
  | recentInstance (lastModified : Instant) :
    SameReason (.recentInstance lastModified) (.recentInstance lastModified)
  | recentTerminal (terminal terminal' : String) (lastActivity : Instant) :
    SameReason (.recentTerminal terminal lastActivity) (.recentTerminal terminal' lastActivity)

/-- Two assessments with the same error, or none or the same reason in both. -/
abbrev Entity.AssessedAlike : Except CheckError (Option Blocker) →
    Except CheckError (Option Blocker) → Prop :=
  Matched Eq (Option.Rel Blocker.SameReason)

/-- Two verdicts whose blockers give the same reasons in the same order. -/
structure Verdict.SameReasons (v v' : Verdict) : Prop where
  blockers : List.Forall₂ Blocker.SameReason v.blockers v'.blockers
  isIdle : v'.isIdle = v.isIdle

theorem Verdict.sameReasons_of_forall₂ {bs bs' : List Blocker}
    (h : List.Forall₂ Blocker.SameReason bs bs') : SameReasons ⟨bs⟩ ⟨bs'⟩ := by
  refine ⟨h, ?_⟩
  cases h with
  | nil => rfl
  | cons => rfl

namespace Entity

theorem assessTime_sameReason {last : Instant} {blocker blocker' : Instant → Blocker}
    (h : (blocker last).SameReason (blocker' last)) :
    Option.Rel Blocker.SameReason (assessTime p now last blocker)
      (assessTime p now last blocker') := by
  unfold assessTime
  split
  · exact .none
  · exact .some h

theorem assessText_alike {text : String} {blocker blocker' : Instant → Blocker}
    (h : ∀ last, (blocker last).SameReason (blocker' last)) :
    AssessedAlike (do let last ← ActivityStamp.parse text; return assessTime p now last blocker)
      (do let last ← ActivityStamp.parse text; return assessTime p now last blocker') := by
  cases ActivityStamp.parse text with
  | error err => exact .error rfl
  | ok last => exact .ok (assessTime_sameReason (h last))

/-- **Whatever an entity is called, it blocks for the same reason**, or its time
cannot be read for the same. -/
theorem assess_alike_of_relabels (h : e.Edits Session.Relabels Terminal.Relabels e') :
    AssessedAlike (e.assess p now) (e'.assess p now) := by
  cases h with
  | machine last => exact .ok (assessTime_sameReason (.recentInstance last))
  | @terminal t _ h =>
    obtain ⟨name⟩ := h
    exact assessText_alike fun last => .recentTerminal _ _ last
  | @session s _ h =>
    obtain ⟨id, path, kernelId, kernelName⟩ := h
    unfold assess
    dsimp only
    split
    · exact .ok (.some (.kernelNotIdle _ _ _))
    · split
      · exact .ok (.some (.connectedClients _ _ _))
      · exact assessText_alike fun last => .recentSession _ _ last

end Entity

namespace Survey

/-- A blocker that is found stands before those of the entities behind it. -/
theorem verdict_ofEntities_cons_ok {b : Option Blocker} (h : e.assess p now = .ok b) :
    (ofEntities p now (e :: es)).verdict =
      (ofEntities p now es).verdict.map fun v => ⟨b.toList ++ v.blockers⟩ := by
  rw [ofEntities_cons_ok h]
  unfold verdict
  dsimp only
  cases (ofEntities p now es).error with
  | some err => rfl
  | none => cases b <;> rfl

/-- Entities that are assessed alike come to the same error or to verdicts of the same
reasons. -/
theorem verdict_alike
    (h : List.Forall₂ (fun e e' => Entity.AssessedAlike (e.assess p now) (e'.assess p now)) es es') :
    Matched Eq Verdict.SameReasons (ofEntities p now es).verdict (ofEntities p now es').verdict := by
  induction h with
  | nil => exact .ok (Verdict.sameReasons_of_forall₂ .nil)
  | @cons e e' es es' halike _ ih =>
    generalize hassess : e.assess p now = r at halike
    generalize hassess' : e'.assess p now = r' at halike
    cases halike with
    | error heq =>
      obtain rfl := heq
      rw [ofEntities_cons_error hassess, ofEntities_cons_error hassess']
      exact .error rfl
    | @ok b b' hreason =>
      rw [verdict_ofEntities_cons_ok hassess, verdict_ofEntities_cons_ok hassess']
      generalize (ofEntities p now es).verdict = r at ih
      generalize (ofEntities p now es').verdict = r' at ih
      cases ih with
      | error heq => exact .error heq
      | ok hreasons =>
        have hhead : List.Forall₂ Blocker.SameReason b.toList b'.toList := by
          cases hreason with
          | none => exact .nil
          | some h => exact .cons h .nil
        exact .ok (Verdict.sameReasons_of_forall₂ (List.rel_append hhead hreasons.blockers))

end Survey

namespace Check

/-- **An evaluation reads only what the rule names.** Edit any sessions where their
time or their clients are not read: the evaluation comes to the same, with the same
log. Give any sessions, kernels and terminals other names and ids: the evaluation
ends in the same error, or the same entities block for the same reasons, and it finds
the instance idle just if it did. -/
theorem evaluate_reads_only_the_rule (o : Observations) (p : Policy) (now : Instant)
    (file : File) :
    let alone := fun e : Entity => ((examine p now e).run file).result
    (∀ o', o.Edits (Session.EditsUnread p) Eq o' →
      (evaluate o' p now).run file = (evaluate o p now).run file) ∧
    ∀ o', o.Edits Session.Relabels Terminal.Relabels o' →
      Matched Eq Verdict.SameReasons ((evaluate o p now).run file).result
        ((evaluate o' p now).run file).result ∧
      List.Forall₂ (fun e e' => Entity.AssessedAlike (alone e) (alone e')) o.entities
        o'.entities := by
  dsimp only
  refine ⟨fun o' h => ?_, fun o' h => ?_⟩
  · have hexamine : List.Forall₂ (fun e e' => examine p now e' = examine p now e) o.entities
        o'.entities :=
      h.entities.imp fun _ _ h => examine_eq_of_editsUnread h
    rw [evaluate_eq_foldlM, evaluate_eq_foldlM, foldlM_consider_eq hexamine]
  · have halike : List.Forall₂
        (fun e e' => Entity.AssessedAlike (e.assess p now) (e'.assess p now)) o.entities
        o'.entities :=
      h.entities.imp fun _ _ h => Entity.assess_alike_of_relabels h
    simp only [evaluate_run, examine_result]
    exact ⟨Survey.verdict_alike halike, halike⟩

/-- A busy session, an idle one with two clients that count, and a terminal: the times
of both sessions and the clients of the busy one are anything, and so are the names. -/
theorem evaluate_reads_only_the_rule_clients :
    let p : Policy := ⟨.ofSeconds 600, false, 8443⟩
    let now : Instant := ⟨1709294400, 0, by decide⟩
    let busy : Session := ⟨none, some "a.ipynb", ⟨none, none, .busy, 0, ""⟩⟩
    let watched : Session := ⟨some "1", none, ⟨none, none, .idle, 2, "soon"⟩⟩
    let terminal : Terminal := ⟨some "1", "2024-03-01T11:59:00.000000Z"⟩
    let o : Observations := ⟨.sessions [busy, watched], [terminal], none⟩
    let edited : Observations :=
      ⟨.sessions [⟨none, some "a.ipynb", ⟨none, none, .busy, 7, "late"⟩⟩,
        ⟨some "1", none, ⟨none, none, .idle, 2, "2024-03-01T10:00:00.000000Z"⟩⟩], [terminal], none⟩
    let relabelled : Observations :=
      ⟨.sessions [⟨some "9", none, ⟨some "k", some "python3", .busy, 0, ""⟩⟩,
        ⟨none, none, ⟨none, none, .idle, 2, "soon"⟩⟩],
        [⟨none, "2024-03-01T11:59:00.000000Z"⟩], none⟩
    ∀ file, (evaluate edited p now).run file = (evaluate o p now).run file ∧
      Matched Eq Verdict.SameReasons ((evaluate o p now).run file).result
        ((evaluate relabelled p now).run file).result := by
  intro p now busy watched terminal o edited relabelled file
  have hactive : busy.kernel.state ≠ .idle := by decide
  have hedited : o.Edits (Session.EditsUnread p) Eq edited :=
    ⟨.sessions <| .cons (.mk 7 "late" (Or.inr (Or.inl hactive)) (Or.inr (Or.inl hactive))) <|
      .cons (.mk 2 _ (Or.inl rfl) (Or.inr (Or.inr (by decide)))) .nil, .cons rfl .nil⟩
  have hrelabelled : o.Edits Session.Relabels Terminal.Relabels relabelled :=
    ⟨.sessions <| .cons (.mk _ _ _ _) <| .cons (.mk _ _ _ _) .nil, .cons (.mk _) .nil⟩
  obtain ⟨hsame, halike⟩ := evaluate_reads_only_the_rule o p now file
  exact ⟨hsame edited hedited, (halike relabelled hrelabelled).1⟩

end Check

end IdleStop
