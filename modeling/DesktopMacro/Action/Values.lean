/-
Actions on values: variables, the clipboard, and the contents of files.
-/
import DesktopMacro.Action.Devices

set_option autoImplicit false

namespace DesktopMacro

/-! ## Variables -/

/-- An operation on a variable. -/
structure VariableTask where
  name : String
  value : String
  step : Int
  index : Int
  operation : VariableOperation
deriving DecidableEq, Repr

namespace VariableTask

def initial : VariableTask := ⟨"", "", 1, 0, .setValue⟩

def members (task : VariableTask) : Members :=
  [("variable_name", .text task.name), ("value", .text task.value),
    ("increment_value", .int task.step), ("list_index", .int task.index),
    ("operation", .text (Vocabulary.word task.operation))]

def read (source : Source) (task : VariableTask) : Except Cause VariableTask := do
  let name ← Field.text source "variable_name" task.name
  let value ← Field.text source "value" task.value
  let step ← Field.integer source "increment_value" task.step
  let index ← Field.integer source "list_index" task.index
  let operation ← Field.word source "operation" task.operation
  return { name, value, step, index, operation }

def describe (task : VariableTask) : String :=
  let { name, value, step, index, operation } := task
  match operation with
  | .setValue => s!"Variable: Set '{name}' to '{value}'"
  | .increment => s!"Variable: Increase '{name}' by {Integer.toText step}"
  | .decrement => s!"Variable: Decrease '{name}' by {Integer.toText step}"
  | .appendText => s!"Variable: Append '{value}' to '{name}'"
  | .clearValue => s!"Variable: Clear '{name}'"
  | .addItem => s!"Variable: Add '{value}' to list '{name}'"
  | .removeItem => s!"Variable: Remove item {Integer.toText index} from '{name}'"
  | .clearList => s!"Variable: Clear list '{name}'"
  | .addRow => s!"Variable: Add row '{value}' to '{name}'"
  | .toggle => s!"Variable: Toggle '{name}'"

def shownNumbers (task : VariableTask) : List Int :=
  match task.operation with
  | .increment | .decrement => [task.step]
  | .removeItem => [task.index]
  | _ => []

end VariableTask

/-! ## The clipboard -/

/-- Writing a text or a variable to the clipboard, with retries. -/
structure ClipboardTask where
  text : String
  append : Bool
  useVariable : Bool
  variableName : String
  retries : Int
  retryPause : Int
deriving DecidableEq, Repr

namespace ClipboardTask

def initial : ClipboardTask := ⟨"", false, false, "", 3, 100⟩

def members (task : ClipboardTask) : Members :=
  [("text", .text task.text), ("append", .bool task.append),
    ("use_variable", .bool task.useVariable), ("variable_name", .text task.variableName),
    ("retry_count", .int task.retries), ("retry_wait_time", .int task.retryPause)]

def read (source : Source) (task : ClipboardTask) : Except Cause ClipboardTask := do
  let text ← Field.text source "text" task.text
  let append ← Field.bool source "append" task.append
  let useVariable ← Field.bool source "use_variable" task.useVariable
  let variableName ← Field.text source "variable_name" task.variableName
  let retries ← Field.integer source "retry_count" task.retries
  let retryPause ← Field.integer source "retry_wait_time" task.retryPause
  return { text, append, useVariable, variableName, retries, retryPause }

def describe (task : ClipboardTask) : String :=
  let shown :=
    if task.useVariable && !task.variableName.isEmpty then
      "Clipboard: Variable \"" ++ task.variableName ++ "\""
    else "Clipboard: \"" ++ preview task.text ++ "\""
  if task.append then shown ++ " (append)" else shown

end ClipboardTask

/-! ## Files -/

/-- Reading a file into a variable or the clipboard. -/
structure FileTask where
  source : PathSource
  path : String
  variableName : String
  destination : FileDestination
  target : String
  encoding : FileEncoding
  tolerant : Bool
deriving DecidableEq, Repr

namespace FileTask

def initial : FileTask := ⟨.text, "", "", .variable, "", .utf8, true⟩

def members (task : FileTask) : Members :=
  [("source", .text (Vocabulary.word task.source)), ("file_path", .text task.path),
    ("variable_name", .text task.variableName),
    ("destination", .text (Vocabulary.word task.destination)),
    ("destination_variable", .text task.target),
    ("encoding", .text (Vocabulary.word task.encoding)),
    ("handle_io_errors", .bool task.tolerant)]

def read (fields : Source) (task : FileTask) : Except Cause FileTask := do
  let source ← Field.word fields "source" task.source
  let path ← Field.text fields "file_path" task.path
  let variableName ← Field.text fields "variable_name" task.variableName
  let destination ← Field.word fields "destination" task.destination
  let target ← Field.text fields "destination_variable" task.target
  let encoding ← Field.word fields "encoding" task.encoding
  let tolerant ← Field.bool fields "handle_io_errors" task.tolerant
  return { source, path, variableName, destination, target, encoding, tolerant }

/-- The last part of a path, behind its last slash. -/
def baseName (path : String) : String :=
  String.ofList (path.toList.reverse.takeWhile (· != '/')).reverse

def describe (task : FileTask) : String :=
  let source :=
    match task.source with
    | .text => "File: " ++ (if task.path.isEmpty then "not specified" else baseName task.path)
    | .clipboard => "File from clipboard"
    | .variable => "File from variable: " ++ task.variableName
  let destination :=
    match task.destination with
    | .variable => "Variable: " ++ task.target
    | .clipboard => "Clipboard"
  s!"Read {source} into {destination}"

end FileTask
end DesktopMacro
