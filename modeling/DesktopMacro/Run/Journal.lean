/-
The journal of a run: what the run does, step by step.

What can be seen of a run from outside does not tell when an action was dispatched, when an attempt
or a round began, or that a check found the run cancelled. The journal does. Each step is written
down as it is taken, with two things that hold at that time: whether the run had been stopped, and
which sequences were running. Nothing in the library reads a journal; it is there for statements
about the order of things.
-/
import DesktopMacro.Run.Event
import DesktopMacro.Run.Failure

set_option autoImplicit false

namespace DesktopMacro

/-- The place of an action in a sequence: the numbers of the steps down to it, last one first. -/
abbrev Place := List Nat

/-- What a run asks a collaborator for. -/
inductive Request where
  | input (input : Input)
  | readClipboard
  | writeClipboard (text : String)
  | evaluate (script : String)
  /-- One slice of a pause. -/
  | pause (slice : Binary64)
  | lookup (name : String) (values : List (String × String))

/-- A step of a run. -/
inductive Step where
  /-- A collaborator is asked for something. -/
  | asked (request : Request)
  /-- The variables of a sequence change. -/
  | stored
  /-- An enabled action is dispatched. -/
  | dispatched (place : Place)
  /-- An attempt begins. -/
  | attempted (number : Nat)
  /-- A round of a loop begins. -/
  | rounded (number : Nat)
  /-- A sequence starts. -/
  | entered
  /-- A sequence has ended. -/
  | left
  /-- A failure comes up. -/
  | failed (failure : Failure)
  /-- A check finds that the run has been cancelled. -/
  | noticed

namespace Step

/-- A step that starts something which a cancelled run must not start: a slice of a pause, an
action, an attempt, or a round. -/
def isStart : Step → Bool
  | asked (.pause _) | dispatched _ | attempted _ | rounded _ => true
  | _ => false

/-- A step at which a check finds the run cancelled. -/
def isNotice : Step → Bool
  | noticed => true
  | _ => false

end Step

/-- A step in a journal: whether the run had been stopped when it was taken, and the names of the
sequences that were running, outermost first. -/
structure Mark where
  step : Step
  stopped : Bool
  callStack : List String

end DesktopMacro
