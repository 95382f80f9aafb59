/-
Conditions: two operands and a comparison.

An operand is a literal text, the text of a variable, or what the clipboard holds; it keeps the name
and the literal even when its source is another. Comparison works on the texts as they are,
character by character.
-/
import DesktopMacro.Action.Field
import DesktopMacro.Action.FieldName

set_option autoImplicit false

namespace DesktopMacro

/-- One side of a comparison. -/
structure Operand where
  source : OperandSource
  variableName : String
  literal : String
deriving DecidableEq, Repr

/-- Two operands and how they are compared. -/
structure Condition where
  left : Operand
  comparison : Comparison
  right : Operand
deriving DecidableEq, Repr

namespace Condition

/-- An unnamed variable against the empty text. -/
def initial : Condition :=
  { left := ⟨.variable, "", ""⟩, comparison := .equals, right := ⟨.text, "", ""⟩ }

/-- Does the comparison hold between two texts? -/
def compare (condition : Condition) (left right : String) : Bool :=
  match condition.comparison with
  | .equals => left == right
  | .contains => Text.contains left right
  | .startsWith => Text.startsWith left right
  | .endsWith => Text.endsWith left right
  | .differs => left != right

/-- A condition as messages show it. -/
def describe (condition : Condition) : String :=
  s!"{Vocabulary.shown condition.left.source} {Vocabulary.shown condition.comparison} "
    ++ Vocabulary.shown condition.right.source

/-! ## Documents -/

/-- A condition as a document holds it. -/
def toJson (condition : Condition) : Json :=
  .object
    [("left_source", .text (Vocabulary.word condition.left.source)),
      ("left_variable", .text condition.left.variableName),
      ("left_text", .text condition.left.literal),
      ("operator", .text (Vocabulary.word condition.comparison)),
      ("right_source", .text (Vocabulary.word condition.right.source)),
      ("right_variable", .text condition.right.variableName),
      ("right_text", .text condition.right.literal)]

/-- The renamed fields of conditions. -/
def renamings : List (String × String) :=
  [("left_source_type", "left_source"), ("right_source_type", "right_source"),
    ("left_variable_name", "left_variable"), ("right_variable_name", "right_variable"),
    ("left_custom_text", "left_text"), ("right_custom_text", "right_text")]

/-- A text, where null stands for the empty one. -/
def operandText (raw : Json) : Except Cause String := if raw.isNull then .ok "" else raw.asText

/-- One field of a condition. Later fields win, and unknown ones say nothing. -/
def readField (condition : Condition) (name : String) (raw : Json) : Except Cause Condition :=
  match FieldName.renamed renamings (FieldName.normalize name) with
  | "left_source" => do return { condition with left.source := ← Vocabulary.read raw }
  | "left_variable" => do return { condition with left.variableName := ← operandText raw }
  | "left_text" => do return { condition with left.literal := ← operandText raw }
  | "operator" => do return { condition with comparison := ← Vocabulary.read raw }
  | "right_source" => do return { condition with right.source := ← Vocabulary.read raw }
  | "right_variable" => do return { condition with right.variableName := ← operandText raw }
  | "right_text" => do return { condition with right.literal := ← operandText raw }
  | _ => .ok condition

/-- Reads a condition from the members of an object. -/
def read (members : Members) : Except Cause Condition :=
  members.foldlM (fun condition entry => readField condition entry.1 entry.2) initial

/-- The condition in a field. -/
def field (source : Source) (name : String) (current : Condition) : Except Cause Condition :=
  Field.orElse source name current (fun
    | .object members => read members
    | raw => .error (Cause.showing raw (.action (.notMembers name raw))))

end Condition
end DesktopMacro
