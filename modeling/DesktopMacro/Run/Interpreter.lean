/-
Running actions.

Actions run in their order. Before each one the run looks whether it has been cancelled; an action
that is disabled is passed over, and one with a delay waits first. A failure that is an action's
fault is blamed on the action if nothing else is blamed yet; an action that tolerates errors logs it
and the run goes on, and any other logs it and the run fails. What breaks in a collaborator becomes
a failure of the action before that, and a cancellation is never put up with.

Loops and choices run the actions inside in the same way, so all of it is one recursion on the tree.
-/
import DesktopMacro.Run.Task

set_option autoImplicit false

namespace DesktopMacro.Run

variable {ω : Type}

/-! ## Conditions -/

/-- The text of an operand. -/
def resolve (team : Collaborators ω) (operand : Operand) : Run ω String := do
  match operand.source with
  | .variable =>
    let store ← store
    if !store.contains operand.variableName then
      log s!"Variable '{operand.variableName}' not found, comparing as empty" .warning
    ofExcept (store.text operand.variableName "")
  | .clipboard => clipboardContent team
  | .text => return operand.literal

/-- Does a condition hold? -/
def evaluate (team : Collaborators ω) (condition : Condition) : Run ω Bool := do
  let left ← resolve team condition.left
  let right ← resolve team condition.right
  let result := condition.compare left right
  log (s!"Comparing '{left}' {Vocabulary.word condition.comparison} '{right}': "
    ++ (if result then "True" else "False"))
  return result

/-! ## Loops -/

/-- The items that a loop walks over, if it walks over a list: those of the variable as it is when
the loop starts. -/
def loopItems (spec : LoopSpec) : Run ω (Option (List String)) := do
  if spec.listName.isEmpty then return none
  else return some ((((← store).find? spec.listName).map Variable.items).getD [])

/-- The variable that holds the item of a round. -/
def itemName (spec : LoopSpec) : String := if spec.itemName.isEmpty then "item" else spec.itemName

/-- Runs up to `left` rounds of a loop from a round on, over the items that are left if it walks
over a list. -/
def runRounds (team : Collaborators ω) (spec : LoopSpec) (body : Run ω Unit) :
    (left round : Nat) → (items : Option (List String)) → Run ω Unit
  | 0, _, _ => pure ()
  | left + 1, round, items => do
    check
    match items with
    | some [] => return
    | some (item :: _) =>
      mark (.rounded round)
      setVariable (itemName spec) item none
    | none => mark (.rounded round)
    if spec.useCondition then
      if ← evaluate team spec.condition then
        log "Loop condition met, ending loop"
        return
    log s!"Loop iteration {round + 1}/{Integer.toText spec.maxIterations}"
    body
    runRounds team spec body left (round + 1) (items.map List.tail)

/-- Runs a loop with a body. -/
def runLoop (team : Collaborators ω) (spec : LoopSpec) (body : Run ω Unit) : Run ω Unit := do
  runRounds team spec body spec.maxIterations.toNat 0 (← loopItems spec)

/-- Runs a choice with its branches. -/
def runChoice (team : Collaborators ω) (spec : ChoiceSpec) (thenCount elseCount : Nat)
    (thenBody elseBody : Run ω Unit) : Run ω Unit := do
  if ← evaluate team spec.condition then
    log s!"Condition true, running THEN branch ({thenCount} actions)"
    thenBody
  else if spec.useElse then
    log s!"Condition false, running ELSE branch ({elseCount} actions)"
    elseBody

/-! ## Actions -/

/-- The action at a place as it is now. -/
def currentAction (place : Place) (action : Action) : Run ω Action := do
  match action with
  | .task header task =>
    let (header, task) ← current place header task
    return .task header task
  | action => return action

/-- Does the work of an action: what breaks in a collaborator fails in the name of the action. -/
def execute (place : Place) (action : Action) (work : Run ω Unit) : Run ω Unit := do
  let _ ← ofExcept action.describe?
  match ← outcome work with
  | .ok () => return
  | .error failure =>
    if failure.isAction || failure.isCancelled then throw failure
    else
      let action ← currentAction place action
      let shown ← ofExcept action.describe?
      fail (.atAction (.stated .injection s!"{shown}: {failure.text}") action)

/-- Settles how an action ended: what is its own fault is blamed on it, and is put up with if it
tolerates errors. -/
def settleAction (place : Place) (action : Action) : Except Failure Unit → Run ω Unit
  | .ok () => return
  | .error failure => do
    if failure.isAction then
      let action ← currentAction place action
      let failure := failure.blame action
      let label ← ofExcept action.label?
      if action.header.continueOnError then
        log s!"Error in '{label}' ignored: {failure.text}" .warning
      else
        log s!"Error in '{label}': {failure.text}" .error
        throw failure
    else throw failure

/-- Runs one action with its work, whatever kind it is. -/
def dispatch (team : Collaborators ω) (place : Place) (action : Action) (work : Run ω Unit) :
    Run ω Unit := do
  check
  if action.header.enabled then
    if 0 < action.header.delayBefore then team.sleep action.header.delayBefore
    mark (.dispatched place)
    settleAction place action (← outcome (execute place action work))

mutual

/-- Runs the action at a place. -/
def runAction (team : Collaborators ω) (lookup : Option (Lookup ω)) (place : Place) :
    Action → Run ω Unit
  | .task header task => do
    let (header, task) ← current place header task
    dispatch team place (.task header task) (runTask team lookup place header task)
  | .loop header spec actions =>
    dispatch team place (.loop header spec actions)
      (runLoop team spec (runActions team lookup (0 :: place) 0 actions))
  | .choice header spec thenActions elseActions =>
    dispatch team place (.choice header spec thenActions elseActions)
      (runChoice team spec thenActions.length elseActions.length
        (runActions team lookup (0 :: place) 0 thenActions)
        (runActions team lookup (1 :: place) 0 elseActions))

/-- Runs actions that stand side by side, from a number on. -/
def runActions (team : Collaborators ω) (lookup : Option (Lookup ω)) (place : Place) :
    (index : Nat) → List Action → Run ω Unit
  | _, [] => pure ()
  | index, action :: actions => do
    runAction team lookup (index :: place) action
    runActions team lookup place (index + 1) actions

end

end DesktopMacro.Run
