/-
Attempts with retries.

An attempt is made once and then up to so many times again, with a pause between two attempts and
none after the last. A cancellation, in an attempt or noticed after one, ends it all. When every
attempt has failed, an action that tolerates errors goes on without success, and any other fails
with the last failure.
-/
import DesktopMacro.Run.Pause

set_option autoImplicit false

namespace DesktopMacro.Retry

variable {ω : Type}

/-- How attempts are made: what they are called in messages, how often, and what happens between
two of them. -/
structure Plan (ω : Type) where
  label : String
  attempts : Nat
  backOff : Run ω Unit

/-- The message on a failed attempt, if the number of attempts can be written. -/
def attemptText (plan : Plan ω) (number : Nat) (failure : Failure) : Except Cause String := do
  let attempts ← (Json.int (Int.ofNat plan.attempts)).asText
  return s!"{plan.label} attempt {number}/{attempts} failed: {failure.text}"

/-- Makes an attempt with a number. The result is its failure, if it failed. -/
def attemptOnce (plan : Plan ω) (attempt : Run ω Unit) (number : Nat) :
    Run ω (Option Failure) := do
  Run.check
  Run.mark (.attempted number)
  match ← Run.outcome attempt with
  | .ok () => return none
  | .error failure =>
    if failure.isCancelled then throw failure
    Run.check
    Run.log (← Run.ofExcept (attemptText plan number failure)) .warning
    return some failure

/-- Makes an attempt with a number, and up to `left` more after it. The result is the last failure
if none succeeded. -/
def attemptFrom (plan : Plan ω) (attempt : Run ω Unit) :
    (left number : Nat) → Run ω (Option Failure)
  | 0, number => attemptOnce plan attempt number
  | left + 1, number => do
    match ← attemptOnce plan attempt number with
    | none => return none
    | some _ =>
      plan.backOff
      attemptFrom plan attempt left (number + 1)

/-- The number of attempts for a number of retries. -/
def attemptsFor (retries : Int) : Nat := retries.toNat + 1

/-- Makes attempts as an action wants them, and says whether one succeeded. -/
def run (team : Collaborators ω) (action : Action) (label : String) (retries pause : Int)
    (attempt : Run ω Unit) : Run ω Bool := do
  let plan : Plan ω := ⟨label, attemptsFor retries, team.sleep pause⟩
  match ← attemptFrom plan attempt (plan.attempts - 1) 1 with
  | none => return true
  | some last =>
    if action.header.continueOnError then
      Run.log s!"{label} failed after {plan.attempts} attempts, continuing: {last.text}" .warning
      return false
    else Run.fail (.exhausted label plan.attempts last (some action))

end DesktopMacro.Retry
