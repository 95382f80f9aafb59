/-
Editing an action field by field.

An editor holds values for the fields that may be edited: all but the identity and the actions
inside. The values are free until they are committed. A commit reads every value against the action
as it is; one that cannot be read leaves the action and the values alone, and otherwise the action
takes them all, with the name and the description that they call for, and the editor shows the
action again.
-/
import DesktopMacro.Action.Reading

set_option autoImplicit false

namespace DesktopMacro.Action

/-- The fields that may be edited, in order, with their values. -/
def editableMembers : Action → Members
  | task header spec => Members.drop header.members "id" ++ spec.members
  | loop header spec _ =>
    Members.drop header.members "id" ++ spec.membersBefore ++ spec.membersAfter
  | choice header spec _ _ =>
    Members.drop header.members "id" ++ spec.membersBefore ++ spec.membersAfter

/-- The action with fields read from a source; the identity and the actions inside stay. -/
def readFields (source : Source) (action : Action) : Except Cause Action := do
  let source := source.without "id"
  match action with
  | task header spec => do
    let header ← header.read source
    return task header (← spec.read source)
  | loop header spec actions => do
    let header ← header.read source
    let (spec, _) ← spec.read source (fun _ => .ok ())
    return loop header spec actions
  | choice header spec thenActions elseActions => do
    let header ← header.read source
    let (spec, _, _) ← spec.read source (fun _ => .ok ())
    return choice header spec thenActions elseActions

/-- The action with a value put into one of its fields. A whole number for the delay, a text for the
identity and texts for the keys are put there as they are, so the delay may be below zero and a key
spelled in any way until the field is next read; any other value is read. -/
def assign (action : Action) (field : String) (value : Json) : Except Cause Action :=
  match field, value, action with
  | "delay_before", .int n, action =>
    .ok (action.withHeader { action.header with delayBefore := n })
  | "id", .text id, action => .ok (action.withHeader { action.header with id })
  | "keys", .list keys, task header (.keyboard spec) =>
    .ok (task header (.keyboard { spec with keys := keys.map Json.display }))
  | field, value, action => action.readFields (fun name => if name == field then some value else none)

/-- An editor with its values. -/
structure Editor where
  values : Members

namespace Editor

/-- The editor that shows an action. -/
def ofAction (action : Action) : Editor := ⟨action.editableMembers⟩

/-- Gives a field that is shown another value. -/
def set (editor : Editor) (field : String) (value : Json) : Except Cause Editor :=
  if Members.has editor.values field then .ok ⟨Members.put editor.values field value⟩
  else .error (.missingKey s!"Unknown field '{field}'")

/-- Puts a value under any name. -/
def put (editor : Editor) (field : String) (value : Json) : Editor :=
  ⟨Members.put editor.values field value⟩

/-- The values as a source; null is a value here. -/
def source (editor : Editor) : Source := fun name => Members.get? editor.values name

/-- Commits the values to an action: the action afterwards, and the editor that shows it. A value
that cannot be read changes nothing. The words for an action are found last, so an action that
cannot be described has its new fields already. -/
def commit (editor : Editor) (action : Action) : Action × Except Cause Editor :=
  match action.readFields editor.source with
  | .error cause => (action, .error cause)
  | .ok changed =>
    match changed.withDisplay? with
    | .error cause => (changed, .error cause)
    | .ok shown => (shown, .ok (ofAction shown))

end Editor
end DesktopMacro.Action
