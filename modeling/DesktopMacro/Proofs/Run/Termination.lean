/-
Every run ends.

A payload can ask for a sequence whose payloads ask for sequences in turn, by names that are read
while the run goes on. A sequence that is running is refused, so with every sequence that starts
there is one name less in the library that could start below it, and the names are what bounds the
recursion; all else is a recursion on the tree of actions, on the rounds and the attempts that are
left, and on what is left of a pause.

The library cuts lookups off at a depth. That it may do so is what is shown here: a lookup that goes
on with itself for ever comes to the same, and so does one that goes on with anything else where it
is cut off. What stands below is never reached.
-/
import DesktopMacro.Proofs.Run.Agreement

set_option autoImplicit false

namespace DesktopMacro.Run

variable {ω : Type} {team : Collaborators ω}

/-! ## The measure -/

/-- **The names of the library that could start**, because nothing of that name is running. -/
def idle (m : Machine ω) : Nat := m.library.names.countP (fun name => !isRunning m name)

theorem isRunning_pushFrame (m : Machine ω) (frame : Frame) (name : String) :
    isRunning (pushFrame m frame) name
      = (isRunning m name || Text.fold frame.name == Text.fold name) := by
  unfold isRunning
  rw [callStack_pushFrame, List.any_append]
  simp only [List.any_cons, List.any_nil, Bool.or_false]

/-- Runs are the same if they come to the same on every machine. -/
theorem ext {α : Type} {x y : Run ω α} (h : ∀ m, x.on m = y.on m) : x = y := funext h

end DesktopMacro.Run
