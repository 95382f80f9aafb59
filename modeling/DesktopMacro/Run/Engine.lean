/-
The engine: one run of a sequence after the other, and what came of the last.

A run that is started is active until it ends, and a start in between changes nothing. How it ends
decides the outcome and the report; the error and the action to blame are kept only for a failure.
A cancellation reaches the active run alone: a new run starts with everything forgotten.
-/
import DesktopMacro.Run.Failure
import DesktopMacro.Note

set_option autoImplicit false

namespace DesktopMacro

/-- What came of a run. -/
inductive RunOutcome where
  | completed
  | cancelled
  | failed
deriving DecidableEq, Repr

/-- The word for an outcome. -/
def RunOutcome.word : RunOutcome → String
  | completed => "completed"
  | cancelled => "cancelled"
  | failed => "failed"

/-- What an engine reports when a run has ended: whether it went well, and a message. -/
structure RunReport where
  ok : Bool
  message : String
deriving DecidableEq, Repr

/-- An engine for a sequence. -/
structure Engine where
  sequenceName : String
  isRunning : Bool
  /-- Has the active run been asked to stop? -/
  isCancelled : Bool
  outcome : Option RunOutcome
  lastError : Option Failure
  failedAction : Option Action
  /-- The reports so far, newest first. -/
  reports : List RunReport

namespace Engine

/-- An engine at rest. -/
def initial (sequenceName : String) : Engine :=
  { sequenceName, isRunning := false, isCancelled := false, outcome := none, lastError := none,
    failedAction := none, reports := [] }

/-- Starts a run, unless one is active. -/
def start (engine : Engine) : Engine :=
  if engine.isRunning then engine
  else
    { engine with
      isRunning := true, isCancelled := false, outcome := none, lastError := none,
      failedAction := none }

/-- Asks the active run to stop. -/
def requestCancel (engine : Engine) : Engine := { engine with isCancelled := true }

/-- The report on how a run ended; none if the action to blame cannot even be named. -/
def reportOn : Except Failure Unit → Option RunReport
  | .ok () => some ⟨true, "Completed"⟩
  | .error failure =>
    if failure.isCancelled then some ⟨false, "Cancelled"⟩
    else if failure.isAction then
      match failure.blamed? with
      | none => some ⟨false, s!"Error in '?': {failure.text}"⟩
      | some action =>
        match action.label? with
        | .ok label => some ⟨false, s!"Error in '{label}': {failure.text}"⟩
        | .error _ => none
    else some ⟨false, s!"Error: {failure.text}"⟩

/-- The note on a run that broke. -/
def notesOn (engine : Engine) : Except Failure Unit → List Note
  | .ok () => []
  | .error failure =>
    if failure.isCancelled || failure.isAction then []
    else [⟨.error, s!"Unexpected error while running '{engine.sequenceName}'"⟩]

/-- Ends the active run. -/
def finish (engine : Engine) (ending : Except Failure Unit) : Engine :=
  let reports := (reportOn ending).toList ++ engine.reports
  let ended := { engine with isRunning := false, reports }
  match ending with
  | .ok () => { ended with outcome := some .completed }
  | .error failure =>
    if failure.isCancelled then { ended with outcome := some .cancelled }
    else
      { ended with
        outcome := some .failed, lastError := some failure,
        failedAction := if failure.isAction then failure.blamed? else none }

end Engine
end DesktopMacro
