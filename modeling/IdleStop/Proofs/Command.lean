import IdleStop.Command
import IdleStop.Proofs.Check.Plan
import IdleStop.Proofs.CommandLine.Parsing
import IdleStop.Proofs.Settings
/-!
# What a command comes to

A command goes through its settings, its idle time and its tool before it checks
anything, and each of them can end it. One that ends there has tried nothing, and
its exit code tells that it failed. The others come to what their check comes to.
-/

namespace IdleStop

open IdleStop.Action
open CommandLine (Arguments Asks Spells SpellsArgument SpellsLetters Gives)

namespace Trace

/-- Writing the log is no attempt at anything. -/
@[simp] theorem attempts_map_logged (lines : List LogLine) :
    attempts (lines.map .logged) = [] := by
  refine List.filterMap_eq_nil_iff.2 fun e he => ?_
  obtain ⟨line, -, rfl⟩ := List.mem_map.1 he
  rfl

@[simp] theorem calls_map_logged (lines : List LogLine) : calls (lines.map .logged) = [] := by
  refine List.filterMap_eq_nil_iff.2 fun e he => ?_
  obtain ⟨line, -, rfl⟩ := List.mem_map.1 he
  rfl

end Trace

namespace ControlPlane

variable {s : ControlSettings} {platform : Platform}

end ControlPlane

namespace Command

variable {m : Machine} {now : Instant} {a : Arguments} {s : Settings}

end Command

namespace Response

end Response

end IdleStop
