import IdleStop.Proofs.Check.Course
import Mathlib.Data.List.Forall2
/-!
# The log accounts for every entity

While an evaluation goes through the entities, the log has one line for each: an entity
that is idle has its own line, and a blocker one that begins with `Not idle: `. An
evaluation that fails has told of the entities before the one that failed, and of no
other (`Survey.accounts`).

No other line of a check begins so (`Check.collect_logs`), and just one tells a number of
active signals. So whoever reads the log of a check that found something active can
count the blockers, and comes to the number that the log itself gives.
-/

namespace IdleStop

open IdleStop.Action

/-! ## How lines begin -/

/-- How the text of a line begins. -/
def LogLine.Begins (line : LogLine) (opening : String) : Prop :=
  opening.toList <+: line.text.toList

instance (line : LogLine) (opening : String) : Decidable (line.Begins opening) :=
  inferInstanceAs (Decidable (_ <+: _))

namespace LogLine

variable {source : LogSource} {level : LogLevel} {a b : String} {line : LogLine}

theorem begins_append : Begins ⟨source, level, a ++ b⟩ a := by
  change a.toList <+: (a ++ b).toList
  rw [String.toList_append]
  exact List.prefix_append _ _

/-- What is behind the text of a line leaves its beginning alone. -/
theorem Begins.append {opening : String} (h : Begins ⟨source, level, a⟩ opening) :
    Begins ⟨source, level, a ++ b⟩ opening := by
  change opening.toList <+: (a ++ b).toList
  rw [String.toList_append]
  exact List.IsPrefix.trans h (List.prefix_append _ _)

/-- A line begins in one way: of two beginnings the longer one goes on like the other. -/
theorem Begins.not_begins {opening other : String} (h : line.Begins opening)
    (hother : ¬ other.toList <+: opening.toList) (hopening : ¬ opening.toList <+: other.toList) :
    ¬ line.Begins other := fun h' =>
  (List.prefix_or_prefix_of_prefix h' h).elim hother hopening

theorem filter_begins_eq_nil {lines : List LogLine} {opening : String}
    (h : ∀ line ∈ lines, ¬ line.Begins opening) : lines.filter (·.Begins opening) = [] :=
  List.filter_eq_nil_iff.2 fun line hline => mt of_decide_eq_true (h line hline)

end LogLine

/-- The line of a blocker. -/
def Blocker.line (b : Blocker) : LogLine :=
  ⟨.evaluation, .info, "Not idle: " ++ b.text⟩

/-- Whether a line tells of a blocker. -/
abbrev LogLine.TellsBlocker (line : LogLine) : Prop :=
  line.Begins "Not idle: "

/-- Whether a line tells how many signals are active. -/
abbrev LogLine.TellsCount (line : LogLine) : Prop :=
  line.Begins "Not stopping notebook: "

theorem Blocker.line_tellsBlocker (b : Blocker) : b.line.TellsBlocker :=
  LogLine.begins_append

theorem Blocker.not_tellsCount_line (b : Blocker) : ¬ b.line.TellsCount :=
  b.line_tellsBlocker.not_begins (by decide) (by decide)

/-- The line of an entity that is idle begins with what it is, and not otherwise. -/
theorem Entity.not_begins_idleText (e : Entity) {opening : String}
    (h : ∀ kind ∈ ["Session ", "Instance ", "Terminal "],
      ¬ opening.toList <+: kind.toList ∧ ¬ kind.toList <+: opening.toList) :
    ¬ LogLine.Begins ⟨.evaluation, .info, e.idleText⟩ opening := by
  have hkind : ∃ kind ∈ ["Session ", "Instance ", "Terminal "],
      LogLine.Begins ⟨.evaluation, .info, e.idleText⟩ kind := by
    cases e with
    | session s => exact ⟨"Session ", by simp, LogLine.begins_append.append.append⟩
    | machine last =>
      have hinstance : LogLine.Begins ⟨.evaluation, .info, "Instance is idle, last modified "⟩
          "Instance " := by decide
      exact ⟨"Instance ", by simp, hinstance.append⟩
    | terminal t => exact ⟨"Terminal ", by simp, LogLine.begins_append.append.append⟩
  obtain ⟨kind, hmem, hbegins⟩ := hkind
  exact hbegins.not_begins (h kind hmem).1 (h kind hmem).2

/-! ## Surveys -/

/-- What the log tells of an entity that comes to something on its own. -/
inductive Entity.Accounted (alone : Entity → Except CheckError (Option Blocker)) :
    Entity → LogLine → Prop
  /-- It is idle, and has its own line. -/
  | idle {e : Entity} (h : alone e = .ok none) : Accounted alone e ⟨.evaluation, .info, e.idleText⟩
  /-- It is active, and the line tells why. -/
  | active {e : Entity} {b : Blocker} (h : alone e = .ok (some b)) : Accounted alone e b.line

namespace Survey

variable {p : Policy} {now : Instant} {e : Entity} {es es' : List Entity} {err : CheckError}

theorem log_ofEntities_cons_ok {b : Option Blocker} (h : e.assess p now = .ok b) :
    (ofEntities p now (e :: es)).log =
      ⟨.evaluation, .info, (Finding.mk e b).text⟩ :: (ofEntities p now es).log := by
  rw [log, ofEntities_cons_ok h]
  rfl

/-- **A survey accounts for the entities before the first that cannot be assessed.** -/
theorem accounts (h : ∀ e ∈ es, ∃ b, e.assess p now = .ok b)
    (hend : ∀ e ∈ es'.head?, ∃ err, e.assess p now = .error err) :
    List.Forall₂ (Entity.Accounted (Entity.assess p now)) es (ofEntities p now (es ++ es')).log := by
  induction es with
  | nil =>
    cases es' with
    | nil => exact .nil
    | cons e es' =>
      obtain ⟨err, herr⟩ := hend e rfl
      rw [List.nil_append, ofEntities_cons_error herr]
      exact .nil
  | cons e es ih =>
    obtain ⟨b, hb⟩ := h e List.mem_cons_self
    rw [List.cons_append, log_ofEntities_cons_ok hb]
    refine .cons ?_ (ih fun e' he' => h e' (List.mem_cons_of_mem e he'))
    cases b with
    | none => exact .idle hb
    | some blocker => exact .active hb

/-- The lines that tell of blockers are those of the blockers found. -/
theorem filter_tellsBlocker_log (s : Survey) :
    s.log.filter (·.TellsBlocker) = (s.findings.filterMap Finding.blocker).map Blocker.line := by
  rw [log]
  induction s.findings with
  | nil => rfl
  | cons f fs ih =>
    obtain ⟨e, b⟩ := f
    cases b with
    | none =>
      have hidle : ¬ LogLine.TellsBlocker ⟨.evaluation, .info, (Finding.mk e none).text⟩ :=
        e.not_begins_idleText (by decide)
      rw [List.map_cons, List.filter_cons, if_neg (mt of_decide_eq_true hidle), ih]
      rfl
    | some b =>
      have hblocker : LogLine.TellsBlocker ⟨.evaluation, .info, (Finding.mk e (some b)).text⟩ :=
        b.line_tellsBlocker
      rw [List.map_cons, List.filter_cons, if_pos (decide_eq_true hblocker), ih]
      rfl

/-- The blockers of a verdict are those found. -/
theorem blockers_of_verdict {s : Survey} {v : Verdict} (h : s.verdict = .ok v) :
    s.findings.filterMap Finding.blocker = v.blockers := by
  rw [verdict] at h
  split at h
  · cases h
  · exact congrArg Verdict.blockers (Except.ok.inj h)

/-- No line of a survey tells how many signals are active. -/
theorem not_tellsCount_of_mem_log {s : Survey} {line : LogLine} (h : line ∈ s.log) :
    ¬ line.TellsCount := by
  obtain ⟨⟨e, b⟩, -, rfl⟩ := List.mem_map.1 h
  cases b with
  | none => exact e.not_begins_idleText (by decide)
  | some b => exact b.not_tellsCount_line

@[simp] theorem log_events (s : Survey) : s.events.log = s.log := by
  simp [events, Trace.log]

end Survey

/-! ## What stages write -/

namespace Action

variable {α β : Type} {x : Action α} {k : α → Action β} {P : LogLine → Prop}

/-- Whatever an action writes to the log is one of these lines. -/
def Logs (x : Action α) (P : LogLine → Prop) : Prop :=
  ∀ file, ∀ line ∈ (x.run file).events.log, P line

namespace Logs

theorem pure (a : α) : (Pure.pure a : Action α).Logs P :=
  fun _ _ h => nomatch h

theorem fail (e : CheckError) : (Action.fail e : Action α).Logs P :=
  fun _ _ h => nomatch h

theorem ofExcept (r : Except CheckError α) : (Action.ofExcept r).Logs P :=
  fun _ _ h => nomatch h

theorem readMetadata : Action.readMetadata.Logs P :=
  fun _ _ h => nomatch h

theorem deleteMetadata : Action.deleteMetadata.Logs P :=
  fun _ _ h => nomatch h

theorem call (c : Call) (delivered : Bool) : (Action.emit (.call c delivered)).Logs P :=
  fun _ _ h => nomatch h

theorem log {source : LogSource} {level : LogLevel} {text : String}
    (h : P ⟨source, level, text⟩) : (Action.log source level text).Logs P := by
  intro file line hline
  obtain rfl : line = ⟨source, level, text⟩ := List.mem_singleton.1 hline
  exact h

theorem ite {c : Prop} [Decidable c] {y : Action α} (hx : x.Logs P) (hy : y.Logs P) :
    (if c then x else y).Logs P := by
  split
  · exact hx
  · exact hy

/-- What follows an action adds its lines. -/
theorem bind (hx : x.Logs P) (hk : ∀ a, (k a).Logs P) : (x >>= k).Logs P := by
  intro file line hline
  cases hresult : (x.run file).result with
  | error e =>
    rw [run_bind_of_error hresult] at hline
    exact hx file line hline
  | ok a =>
    rw [run_bind_of_ok hresult, Trace.log_append, List.mem_append] at hline
    exact hline.elim (hx file line) (hk a _ line)

end Logs

end Action

/-- A line that tells neither of a blocker nor of their number. -/
def LogLine.IsApart (line : LogLine) : Prop :=
  ¬ line.TellsBlocker ∧ ¬ line.TellsCount

/-- A line that begins like neither is apart. -/
theorem LogLine.isApart_of_begins {line : LogLine} (opening : String) (h : line.Begins opening)
    (hblocker : ¬ "Not idle: ".toList <+: opening.toList ∧
      ¬ opening.toList <+: "Not idle: ".toList := by decide)
    (hcount : ¬ "Not stopping notebook: ".toList <+: opening.toList ∧
      ¬ opening.toList <+: "Not stopping notebook: ".toList := by decide) : line.IsApart :=
  ⟨h.not_begins hblocker.1 hblocker.2, h.not_begins hcount.1 hcount.2⟩

open LogLine (IsApart begins_append isApart_of_begins)

theorem Listing.fetch_logs {α : Type} {listing : Listing} {item? : Json.Tree → Option α}
    {server : String} {reply : Reply} : (listing.fetch item? server reply).Logs IsApart := by
  have hactivity : ∀ text, LogLine.IsApart
      ⟨.notebook, .debug, listing.noun ++ " activity: " ++ text⟩ := by
    intro text
    cases listing with
    | sessions => exact isApart_of_begins "kernel" begins_append.append
    | terminals => exact isApart_of_begins "terminal" begins_append.append
  unfold fetch
  dsimp only
  split
  · exact (Logs.call _ _).bind fun _ => .fail _
  · split
    · split
      · exact (Logs.call _ _).bind fun _ => .fail _
      · exact (Logs.call _ _).bind fun _ => .fail _
      · refine (Logs.call _ _).bind fun _ => ?_
        split
        · exact .fail _
        · refine (Logs.log (hactivity _)).bind fun _ => ?_
          split
          · split
            · exact .pure _
            · exact .fail _
          · exact .fail _
    · exact (Logs.call _ _).bind fun _ => .fail _

theorem Identity.load_logs {path : String} : (load path).Logs IsApart := by
  unfold load
  refine Logs.readMetadata.bind fun file => (Logs.ofExcept _).bind fun identity => ?_
  refine (Logs.log ?_).bind fun _ => .pure _
  exact isApart_of_begins "Resolved notebook instance " begins_append.append.append.append

namespace ControlPlane

variable {c : ControlPlane} {platform : Platform} {op : Operation} {name : String}

theorem invoke_logs : (c.invoke platform op name).Logs IsApart := by
  unfold invoke
  dsimp only
  refine (Logs.log ?_).bind fun _ => ?_
  · exact isApart_of_begins "Running: " begins_append.append.append
  · split
    · exact (Logs.call _ _).bind fun _ => .fail _
    · refine (Logs.call _ _).bind fun _ => ?_
      -- whether the file is deleted first or not, the exit code has one line
      refine .ite (Logs.deleteMetadata.bind fun _ => ?_) ?_
      all_goals
        refine .ite ((Logs.log ?_).bind fun _ => .pure _) ((Logs.log ?_).bind fun _ => .fail _)
        · exact isApart_of_begins "aws CLI " (by decide)
        · exact isApart_of_begins "aws CLI failed (exit code " begins_append.append.append

theorem describe_logs : (c.describe platform name).Logs IsApart :=
  invoke_logs.bind fun _ => .ofExcept _

end ControlPlane

namespace Check

variable {w : World} {control : ControlPlane} {p : Policy} {now : Instant} {file : File}

theorem collectSignal_logs : (collectSignal w control).Logs IsApart := by
  unfold collectSignal
  refine Listing.fetch_logs.bind fun sessions => .ite ?_ ?_
  · refine (Logs.log ?_).bind fun _ => Identity.load_logs.bind fun identity =>
      ControlPlane.describe_logs.bind fun _ => .pure _
    exact isApart_of_begins "No kernel sessions" (by decide)
  · refine (Logs.log ?_).bind fun _ => .pure _
    exact isApart_of_begins "Found " begins_append.append

/-- **No line of collecting tells of a blocker** or of the number of blockers. -/
theorem collect_logs : (collect w control).Logs IsApart := by
  unfold collect
  refine collectSignal_logs.bind fun (signal, known) => Listing.fetch_logs.bind fun terminals => ?_
  refine .ite ((Logs.log ?_).bind fun _ => .pure _) (.pure _)
  exact isApart_of_begins "Found " begins_append.append

/-! ## Accounts -/

/-- The line that tells the number of blockers. -/
def countLine (n : Nat) : LogLine :=
  ⟨.check, .info, "Not stopping notebook: " ++ toString n ++ " active signal(s)"⟩

/-- The two lines of a check that finds something active. -/
def activeLines (now : Instant) (v : Verdict) : List LogLine :=
  [⟨.check, .info, "Notebook is active at " ++ Rfc3339.format now⟩, countLine v.blockers.length]

theorem activeLines_begin (now : Instant) (v : Verdict) :
    (∀ line ∈ activeLines now v, ¬ line.TellsBlocker) ∧
      (activeLines now v).filter (·.TellsCount) = [countLine v.blockers.length] := by
  have hfirst : LogLine.IsApart
      ⟨.check, .info, "Notebook is active at " ++ Rfc3339.format now⟩ :=
    isApart_of_begins "Notebook is active at " begins_append
  have hcount : (countLine v.blockers.length).TellsCount :=
    begins_append.append
  constructor
  · intro line hline
    rcases List.mem_pair.1 hline with rfl | rfl
    · exact hfirst.1
    · exact hcount.not_begins (by decide) (by decide)
  · rw [activeLines, List.filter_cons, if_neg (mt of_decide_eq_true hfirst.2), List.filter_cons,
      if_pos (decide_eq_true hcount), List.filter_nil]

theorem act_run_of_active {v : Verdict} (h : v.isIdle = false) (known : Option Identity) :
    (act w control p now known v).run file =
      ⟨.ok (.active v), (activeLines now v).map .logged, file⟩ := by
  rw [act, h]
  rfl

/-- **A check that finds something active** has evaluated what it collected. Behind the
lines of that it tells how many blockers there are. -/
theorem exists_log_of_active {v : Verdict}
    (h : ((run w control p now).run file).result = .ok (.active v)) :
    v.isIdle = false ∧ ∃ o : Observations, o.evaluate p now = .ok v ∧
      ((run w control p now).run file).events.log =
        ((collect w control).run file).events.log ++ (o.survey p now).log ++ activeLines now v := by
  obtain ⟨ds, hcourse⟩ : ∃ ds, Course w control p now file ds (.ok (.active v)) :=
    ⟨_, h ▸ course_run w control p now file⟩
  cases hcourse with
  | @evaluated _ _ o _ _ hcollect heval hact =>
    cases hact with
    | active hidle =>
      obtain ⟨file', hyields, -⟩ := hcollect.yields
      have hverdict : o.evaluate p now = .ok v := by rw [← heval, evaluate_run]
      have heval' : ((evaluate o p now).run ((collect w control).run file).metadata).result =
          .ok v := by rw [evaluate_run, hverdict]
      refine ⟨hidle, o, hverdict, ?_⟩
      rw [run, run_bind_of_ok hyields.result, run_bind_of_ok heval', act_run_of_active hidle,
        evaluate_run]
      simp [Trace.log, Survey.events]

/-- **The log of a check that finds something active** tells of the blockers of its
verdict, of which there are some, and once of their number. -/
theorem filter_log_of_active {v : Verdict}
    (h : ((run w control p now).run file).result = .ok (.active v)) :
    1 ≤ v.blockers.length ∧
      ((run w control p now).run file).events.log.filter (·.TellsBlocker) =
        v.blockers.map Blocker.line ∧
      ((run w control p now).run file).events.log.filter (·.TellsCount) =
        [countLine v.blockers.length] := by
  obtain ⟨hidle, o, hverdict, hlog⟩ := exists_log_of_active h
  obtain ⟨hactive, hcount⟩ := activeLines_begin now v
  have hcollect : ∀ line ∈ ((collect w control).run file).events.log, line.IsApart :=
    collect_logs file
  have hne : v.blockers ≠ [] := List.isEmpty_eq_false_iff.1 hidle
  refine ⟨List.length_pos_iff.2 hne, ?_, ?_⟩
  · rw [hlog, List.filter_append, List.filter_append, Survey.filter_tellsBlocker_log,
      Survey.blockers_of_verdict hverdict, LogLine.filter_begins_eq_nil hactive,
      LogLine.filter_begins_eq_nil fun line hline => (hcollect line hline).1, List.nil_append,
      List.append_nil]
  · rw [hlog, List.filter_append, List.filter_append, hcount,
      LogLine.filter_begins_eq_nil fun line hline => (hcollect line hline).2,
      LogLine.filter_begins_eq_nil fun line hline => Survey.not_tellsCount_of_mem_log hline]
    rfl

/-- **The log accounts for every entity examined.** An evaluation has one line for each
entity in turn, which tells what blocks it or that it is idle; if one cannot be assessed,
there is one for each entity before the first such, and no other. The lines that begin
with `Not idle: ` are those of the blockers of the verdict. So they are in the log of a
whole check that finds something active: there is at least one, and one other line tells
their number. -/
theorem evaluate_log_accounts (o : Observations) (p : Policy) (now : Instant) (file : File) :
    let alone := fun e : Entity => ((examine p now e).run file).result
    let log := ((evaluate o p now).run file).events.log
    (∀ (k : Nat) e err, o.entities[k]? = some e → alone e = .error err →
      (∀ j e', j < k → o.entities[j]? = some e' → ∃ b, alone e' = .ok b) →
      List.Forall₂ (Entity.Accounted alone) (o.entities.take k) log) ∧
    ((∀ e ∈ o.entities, ∃ b, alone e = .ok b) →
      List.Forall₂ (Entity.Accounted alone) o.entities log) ∧
    (∀ v, ((evaluate o p now).run file).result = .ok v →
      log.filter (·.TellsBlocker) = v.blockers.map Blocker.line) ∧
    ∀ (w : World) (control : ControlPlane) (v : Verdict),
      ((run w control p now).run file).result = .ok (.active v) →
      let log := ((run w control p now).run file).events.log
      let count := (log.filter (·.TellsBlocker)).length
      log.filter (·.TellsBlocker) = v.blockers.map Blocker.line ∧ 1 ≤ count ∧
        log.filter (·.TellsCount) = [countLine count] := by
  simp only [examine_result, evaluate_run, Survey.log_events, Observations.evaluate,
    Observations.survey]
  refine ⟨fun k e err hk he hbefore => ?_, fun h => ?_, fun v hv => ?_, fun w control v hv => ?_⟩
  · nth_rewrite 2 [← List.take_append_drop k o.entities]
    refine Survey.accounts (fun e' he' => ?_) (fun e' he' => ?_)
    · obtain ⟨j, hj, rfl⟩ := List.mem_take_iff_getElem.1 he'
      exact hbefore j _ (by omega) (List.getElem?_eq_getElem _)
    · rw [List.head?_drop, hk] at he'
      obtain rfl := Option.some.inj he'
      exact ⟨err, he⟩
  · have hall : (Survey.ofEntities p now o.entities).log =
        (Survey.ofEntities p now (o.entities ++ [])).log := by rw [List.append_nil]
    rw [hall]
    refine Survey.accounts h fun e he => ?_
    cases he
  · rw [Survey.filter_tellsBlocker_log, Survey.blockers_of_verdict hv]
  · obtain ⟨hsome, hblockers, hcount⟩ := filter_log_of_active hv
    rw [hblockers, hcount, List.length_map]
    exact ⟨rfl, hsome, rfl⟩

end Check

end IdleStop
