/-
What comes of attempts.

Attempts are made one after another until one does not fail. `Tried` has the attempts that failed and
were slept off, each with one pause behind it; `LastAttempt` has the attempt behind them, which is
followed by no other, and says how it ended: it succeeded, it failed and was the last one allowed, or
a cancellation came up in it, during it, or in the pause behind it. Besides, the number of attempts
can be too long for the message on a failure, and a pause can be too long for a double.

The attempt is any run. So what is said here holds for everything that is done with retries, and
nothing is said about what an attempt does.
-/
import DesktopMacro.Proofs.Number.Writable
import DesktopMacro.Proofs.Run.Inputs
import DesktopMacro.Proofs.Run.Pauses

set_option autoImplicit false

namespace DesktopMacro.Retry

open Run

variable {ω : Type} {team : Collaborators ω} {action : Action} {label : String}
  {retries pause : Int} {attempt : Run ω Unit} {m m' m₁ m₂ : Machine ω} {f : Failure}

end DesktopMacro.Retry
