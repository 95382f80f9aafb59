/-
Control flow: the fields of loops and choices, apart from the actions inside them.

Reading takes the actions inside from whoever asks, because they stand between the other fields and
a fault in them has its turn there.
-/
import DesktopMacro.Action.Condition

set_option autoImplicit false

namespace DesktopMacro

/-! ## Loops -/

/-- How often a loop runs, over which items, and until when. -/
structure LoopSpec where
  maxIterations : Int
  useCondition : Bool
  condition : Condition
  listName : String
  itemName : String
deriving DecidableEq, Repr

namespace LoopSpec

def initial : LoopSpec := ⟨10, false, .initial, "", ""⟩

/-- The fields before the actions of the loop. -/
def membersBefore (spec : LoopSpec) : Members :=
  [("max_iterations", .int spec.maxIterations), ("use_condition", .bool spec.useCondition),
    ("condition", spec.condition.toJson)]

/-- The fields behind the actions of the loop. -/
def membersAfter (spec : LoopSpec) : Members :=
  [("list_variable_name", .text spec.listName), ("item_variable_name", .text spec.itemName)]

def read {α : Type} (source : Source) (inside : String → Except Cause α) (spec : LoopSpec) :
    Except Cause (LoopSpec × α) := do
  let maxIterations ← Field.integer source "max_iterations" spec.maxIterations
  let useCondition ← Field.bool source "use_condition" spec.useCondition
  let condition ← Condition.field source "condition" spec.condition
  let actions ← inside "actions"
  let listName ← Field.text source "list_variable_name" spec.listName
  let itemName ← Field.text source "item_variable_name" spec.itemName
  return ({ maxIterations, useCondition, condition, listName, itemName }, actions)

/-- A loop over so many actions, in words. -/
def describe (spec : LoopSpec) (count : Nat) : String :=
  s!"Loop: {count} actions, Max: {Integer.toText spec.maxIterations}"
    ++ (if spec.listName.isEmpty then "" else s!", over '{spec.listName}'")
    ++ (if spec.useCondition then ", with condition" else "")

end LoopSpec

/-! ## Choices -/

/-- What a choice depends on. -/
structure ChoiceSpec where
  condition : Condition
  useElse : Bool
deriving DecidableEq, Repr

namespace ChoiceSpec

def initial : ChoiceSpec := ⟨.initial, false⟩

/-- The fields before the branches. -/
def membersBefore (spec : ChoiceSpec) : Members := [("condition", spec.condition.toJson)]

/-- The fields behind the branches. -/
def membersAfter (spec : ChoiceSpec) : Members := [("use_else_branch", .bool spec.useElse)]

def read {α : Type} (source : Source) (inside : String → Except Cause α) (spec : ChoiceSpec) :
    Except Cause (ChoiceSpec × α × α) := do
  let condition ← Condition.field source "condition" spec.condition
  let thenActions ← inside "then_actions"
  let elseActions ← inside "else_actions"
  let useElse ← Field.bool source "use_else_branch" spec.useElse
  return ({ condition, useElse }, thenActions, elseActions)

/-- A choice between branches of so many actions, in words. -/
def describe (spec : ChoiceSpec) (thenCount elseCount : Nat) : String :=
  s!"If: {spec.condition.describe}, Then: {thenCount} actions"
    ++ (if spec.useElse then s!", Else: {elseCount} actions" else "")

end ChoiceSpec
end DesktopMacro
