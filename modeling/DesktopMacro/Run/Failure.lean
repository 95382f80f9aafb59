/-
How a run can fail.

A cancellation is a failure of its own kind, which nothing may tolerate. Any other failure has a
cause, and when an action is at fault it also says which one. Retries that are used up keep the last
failure.
-/
import DesktopMacro.Action.Basic

set_option autoImplicit false

namespace DesktopMacro

/-- A failure of a run. -/
inductive Failure where
  /-- The run was cancelled. -/
  | cancelled (message : String)
  /-- Something went wrong, at an action if one is blamed. -/
  | failed (cause : Cause) (blamed : Option Action)
  /-- An action was attempted so often, and this was the last failure. -/
  | exhausted (label : String) (attempts : Nat) (last : Failure) (blamed : Option Action)

namespace Failure

/-- The failure of a run whose cancellation is noticed. -/
def stopped : Failure := cancelled "Execution was cancelled"

/-- An action is at fault, and it is this one. -/
def atAction (fault : ActionFault) (action : Action) : Failure :=
  failed (.action fault) (some action)

/-- The words for a failure. -/
def text : Failure → String
  | cancelled message => message
  | failed cause _ => cause.text
  | exhausted label attempts last _ => s!"{label} failed after {attempts} attempts: {last.text}"

/-- The cause of a failure; one that is not due to a single cause is one in its own words. -/
def cause : Failure → Cause
  | failed cause _ => cause
  | cancelled message => .stated "cancelled" message
  | exhausted label attempts last blamed =>
    .stated "exhausted" (exhausted label attempts last blamed).text

/-- Is it a cancellation? -/
def isCancelled : Failure → Bool
  | cancelled _ => true
  | _ => false

/-- Is an action at fault? -/
def isAction : Failure → Bool
  | cancelled _ => false
  | failed cause _ => cause.isAction
  | exhausted _ _ _ _ => true

/-- The action that is blamed. -/
def blamed? : Failure → Option Action
  | cancelled _ => none
  | failed _ blamed => blamed
  | exhausted _ _ _ blamed => blamed

/-- The failure with an action to blame, unless there is one already. -/
def blame (action : Action) : Failure → Failure
  | cancelled message => cancelled message
  | failed cause blamed => failed cause (some (blamed.getD action))
  | exhausted label attempts last blamed =>
    exhausted label attempts last (some (blamed.getD action))

end Failure
end DesktopMacro
