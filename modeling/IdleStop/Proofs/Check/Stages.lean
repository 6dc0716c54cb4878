import IdleStop.Check.Run
import IdleStop.Proofs.Action
/-!
# The stages of a check

What each request, command and reading of a check does, whatever comes of
it. A listing takes one request, a command one call, and an identity one
reading of the metadata file; none of them does anything else. Only a
command can change the metadata file (`ControlPlane.leaves`), and only the
identity depends on it.
-/

namespace IdleStop

open IdleStop.Action

/-! ## Listings -/

namespace Listing

variable {α : Type} {listing : Listing} {item? : Json.Tree → Option α} {server : String}
variable {reply : Reply}

/-- A listing is fetched with one request, whatever becomes of it. -/
theorem fetch_acts :
    (listing.fetch item? server reply).Acts [.call (.get listing.path)] id := by
  unfold fetch
  dsimp only
  split
  · exact .call_bind _ _ (.fail _)
  · split
    · split
      · exact .call_bind _ _ (.fail _)
      · exact .call_bind _ _ (.fail _)
      · refine .call_bind _ _ ?_
        split
        · exact .fail _
        · refine .log_bind ?_
          split
          · split
            · exact .pure _
            · exact .fail _
          · exact .fail _
    · exact .call_bind _ _ (.fail _)

end Listing

namespace Server

variable {s : Server}

theorem fetchSessions_acts : s.fetchSessions.Acts [.call (.get Listing.sessions.path)] id :=
  Listing.fetch_acts

theorem fetchTerminals_acts : s.fetchTerminals.Acts [.call (.get Listing.terminals.path)] id :=
  Listing.fetch_acts

end Server

/-! ## The identity -/

/-- An identity is what the metadata file holds, read once. -/
theorem Identity.load_yields {path : String} {file : File} :
    (load path).Yields file (ofFile path file) [.read] file := by
  unfold load
  refine Yields.readMetadata.bind ?_
  cases h : ofFile path file with
  | error e => exact (Yields.ofExcept _).bind_error
  | ok identity =>
    exact (Yields.ofExcept _).bind_nil ((Yields.log _ _ _).bind_nil (Yields.pure _))

/-! ## Commands -/

namespace ControlPlane

variable {c : ControlPlane} {platform : Platform} {op : Operation} {name : String}

/-- What a command leaves of the metadata file: it deletes the file only
if it starts. -/
def leaves (c : ControlPlane) (platform : Platform) (op : Operation) (name : String)
    (file : File) : File :=
  if c.startFault? (c.arguments op name) = none ∧ (platform.behaviour op).deletesMetadata then
    .missing
  else file

theorem leaves_of_fault {fault : StartFault}
    (h : c.startFault? (c.arguments op name) = some fault) :
    c.leaves platform op name = id := by
  funext file
  simp [leaves, h]

theorem leaves_of_not_deletes (h : (platform.behaviour op).deletesMetadata = false) :
    c.leaves platform op name = id := by
  funext file
  simp [leaves, h]

theorem leaves_of_deletes (hstart : c.startFault? (c.arguments op name) = none)
    (h : (platform.behaviour op).deletesMetadata = true) :
    c.leaves platform op name = fun _ => .missing := by
  funext file
  simp [leaves, hstart, h]

/-- An operation is one command. -/
theorem invoke_acts :
    (c.invoke platform op name).Acts [.call (.command (c.arguments op name))]
      (c.leaves platform op name) := by
  unfold invoke
  dsimp only
  refine .log_bind ?_
  cases hstart : c.startFault? (c.arguments op name) with
  | some fault =>
    rw [leaves_of_fault hstart]
    exact .call_bind _ _ (.fail _)
  | none =>
    refine .call_bind _ _ ?_
    cases hdel : (platform.behaviour op).deletesMetadata with
    | true =>
      rw [leaves_of_deletes hstart hdel, if_pos rfl]
      refine .delete_bind (f := id) ?_
      exact .ite (.log_bind (.pure _)) (.log_bind (.fail _))
    | false =>
      rw [leaves_of_not_deletes hdel, if_neg Bool.false_ne_true]
      exact .ite (.log_bind (.pure _)) (.log_bind (.fail _))

theorem describe_acts :
    (c.describe platform name).Acts [.call (.command (c.arguments .describe name))]
      (c.leaves platform .describe name) :=
  invoke_acts.bind_idle fun _ => .ofExcept _

theorem stop_acts :
    (c.stop platform name).Acts [.call (.command (c.arguments .stop name))]
      (c.leaves platform .stop name) :=
  invoke_acts.bind_idle fun _ => .log _ _ _

end ControlPlane

end IdleStop
