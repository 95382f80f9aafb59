/-
A run of an engine, from its start to its report.
-/
import DesktopMacro.Run.Engine
import DesktopMacro.Run.Sequences

set_option autoImplicit false

namespace DesktopMacro.Engine

variable {ω : Type}

/-- Runs the sequence of an engine once. A cancellation from before does not reach the run. -/
def run (engine : Engine) (team : Collaborators ω) (lookup : Option (Lookup ω)) (slot : Nat)
    (sequence : Sequence) : StateM (Machine ω) Engine := do
  modify (fun machine => { machine with cancelled := false })
  let ending ← ExceptT.run (Run.runSequence team lookup (some slot) sequence)
  modify (·.see ((engine.notesOn ending).map .logged))
  return engine.start.finish ending

end DesktopMacro.Engine
