/-
Actions: the small building blocks of a sequence.

An action has a header, which is the same for every kind, and then either a task, which the actions
of the other kinds are, or further actions: a loop has one list of them and a choice has two. This
module holds the tree, the documents it is written to, the words for an action, and copies. Reading
is in `DesktopMacro.Action.Reading`.
-/
import DesktopMacro.Action.Flow
import DesktopMacro.Action.Scripts
import DesktopMacro.Action.Values

set_option autoImplicit false

namespace DesktopMacro

namespace Action

/-- What actions of every kind have. -/
structure Header where
  name : String
  description : String
  delayBefore : Int
  enabled : Bool
  continueOnError : Bool
  id : String
deriving DecidableEq, Repr

/-- The header of a new action. -/
def Header.initial (id : String) : Header := ⟨"", "", 0, true, false, id⟩

/-- The fields of a header. -/
def Header.members (header : Header) : Members :=
  [("name", .text header.name), ("description", .text header.description),
    ("delay_before", .int header.delayBefore), ("enabled", .bool header.enabled),
    ("continue_on_error", .bool header.continueOnError), ("id", .text header.id)]

/-- Reads the fields of a header; a delay is never negative. -/
def Header.read (source : Source) (header : Header) : Except Cause Header := do
  let name ← Field.text source "name" header.name
  let description ← Field.text source "description" header.description
  let delay ← Field.integer source "delay_before" header.delayBefore
  let enabled ← Field.bool source "enabled" header.enabled
  let continueOnError ← Field.bool source "continue_on_error" header.continueOnError
  let id ← Field.text source "id" header.id
  return { name, description, delayBefore := max 0 delay, enabled, continueOnError, id }

/-- The work of an action without further actions inside. -/
inductive Task where
  | mouse (task : MouseTask)
  | keyboard (task : KeyboardTask)
  | wait (task : WaitTask)
  | variable (task : VariableTask)
  | clipboard (task : ClipboardTask)
  | payload (task : PayloadTask)
  | browser (task : BrowserTask)
  | file (task : FileTask)
deriving DecidableEq, Repr

/-- The kinds of actions. -/
inductive Kind where
  | mouse
  | keyboard
  | wait
  | variable
  | clipboard
  | payload
  | browser
  | loop
  | choice
  | file
deriving DecidableEq, Repr

/-- The word for a kind. -/
def Kind.word : Kind → String
  | .mouse => "mouse"
  | .keyboard => "keyboard"
  | .wait => "wait"
  | .variable => "variable"
  | .clipboard => "clipboard"
  | .payload => "json"
  | .browser => "browser"
  | .loop => "loop"
  | .choice => "if"
  | .file => "file"

/-- Every kind. -/
def Kind.all : List Kind :=
  [.mouse, .keyboard, .wait, .variable, .clipboard, .payload, .browser, .loop, .choice, .file]

namespace Task

/-- The kind of a task. -/
def kind : Task → Kind
  | .mouse _ => .mouse
  | .keyboard _ => .keyboard
  | .wait _ => .wait
  | .variable _ => .variable
  | .clipboard _ => .clipboard
  | .payload _ => .payload
  | .browser _ => .browser
  | .file _ => .file

/-- The fields of a task. -/
def members : Task → Members
  | .mouse task => task.members
  | .keyboard task => task.members
  | .wait task => task.members
  | .variable task => task.members
  | .clipboard task => task.members
  | .payload task => task.members
  | .browser task => task.members
  | .file task => task.members

/-- Reads the fields of a task of the same kind. -/
def read (source : Source) : Task → Except Cause Task
  | .mouse task => return .mouse (← task.read source)
  | .keyboard task => return .keyboard (← task.read source)
  | .wait task => return .wait (← task.read source)
  | .variable task => return .variable (← task.read source)
  | .clipboard task => return .clipboard (← task.read source)
  | .payload task => return .payload (← task.read source)
  | .browser task => return .browser (← task.read source)
  | .file task => return .file (← FileTask.read source task)

/-- A task in words. -/
def describe : Task → String
  | .mouse task => task.describe
  | .keyboard task => task.describe
  | .wait task => task.describe
  | .variable task => task.describe
  | .clipboard task => task.describe
  | .payload task => task.describe
  | .browser task => task.describe
  | .file task => task.describe

/-- The numbers in the words for a task. -/
def shownNumbers : Task → List Int
  | .mouse task => task.shownNumbers
  | .wait task => [task.duration]
  | .variable task => task.shownNumbers
  | .browser task => task.shownNumbers
  | _ => []

end Task
end Action

/-- An action. -/
inductive Action where
  | task (header : Action.Header) (task : Action.Task)
  | loop (header : Action.Header) (spec : LoopSpec) (actions : List Action)
  | choice (header : Action.Header) (spec : ChoiceSpec) (thenActions elseActions : List Action)

namespace Action

instance : Inhabited Action := ⟨task (.initial "") (.wait .initial)⟩

def header : Action → Header
  | task header _ => header
  | loop header _ _ => header
  | choice header _ _ _ => header

/-- The action with another header. -/
def withHeader (action : Action) (header : Header) : Action :=
  match action with
  | task _ spec => task header spec
  | loop _ spec actions => loop header spec actions
  | choice _ spec thenActions elseActions => choice header spec thenActions elseActions

def kind : Action → Kind
  | task _ spec => spec.kind
  | loop _ _ _ => .loop
  | choice _ _ _ _ => .choice

/-- The actions directly inside. -/
def children : Action → List Action
  | task _ _ => []
  | loop _ _ actions => actions
  | choice _ _ thenActions elseActions => thenActions ++ elseActions

/-! ## Words -/

/-- An action in words. -/
def describe : Action → String
  | task _ spec => spec.describe
  | loop _ spec actions => spec.describe actions.length
  | choice _ spec thenActions elseActions => spec.describe thenActions.length elseActions.length

/-- The numbers in the words for an action. -/
def shownNumbers : Action → List Int
  | task _ spec => spec.shownNumbers
  | loop _ spec _ => [spec.maxIterations]
  | choice _ _ _ _ => []

/-- **An action that can be described**: its words show no number that is too long to be
written. -/
def IsDescribable (action : Action) : Prop := ∀ n ∈ action.shownNumbers, Integer.IsWritable n

instance (action : Action) : Decidable action.IsDescribable :=
  inferInstanceAs (Decidable (∀ n ∈ action.shownNumbers, Integer.IsWritable n))

/-- An action in words, if it can be described. -/
def describe? (action : Action) : Except Cause String :=
  if action.IsDescribable then .ok action.describe else .error .numberUnwritable

/-- The name of an action, or its description in words if it has none. -/
def label? (action : Action) : Except Cause String :=
  if action.header.name.isEmpty then action.describe? else .ok action.header.name

/-- The name and the description that the fields of an action call for: keyboard actions take both
from their fields, and any other keeps a name that it has. -/
def display? (action : Action) : Except Cause (String × String) :=
  match action with
  | task _ (.keyboard spec) => .ok (spec.derivedName, "Keyboard input: " ++ spec.describe)
  | _ => do return (← action.label?, action.header.description)

/-- The action with the name and the description that its fields call for. -/
def withDisplay? (action : Action) : Except Cause Action := do
  let (name, description) ← action.display?
  return action.withHeader { action.header with name, description }

/-! ## Documents -/

mutual

/-- An action as a document holds it. -/
def toJson : Action → Json
  | task header spec => .object (("type", .text spec.kind.word) :: (header.members ++ spec.members))
  | loop header spec actions =>
    .object (("type", .text Kind.loop.word) :: (header.members ++ spec.membersBefore
      ++ ("actions", .list (toJsons actions)) :: spec.membersAfter))
  | choice header spec thenActions elseActions =>
    .object (("type", .text Kind.choice.word) :: (header.members ++ spec.membersBefore
      ++ ("then_actions", .list (toJsons thenActions))
      :: ("else_actions", .list (toJsons elseActions)) :: spec.membersAfter))

/-- Actions as a document holds them. -/
def toJsons : List Action → List Json
  | [] => []
  | action :: actions => toJson action :: toJsons actions

end

/-! ## Identities and copies -/

/-- A supply of identities, one for each place in a tree. A place is a path from the root, innermost
step first. -/
abbrev Supply := List Nat → String

mutual

/-- A copy of the action at a place, with new identities for it and for the actions inside. -/
def copy (supply : Supply) (place : List Nat) : Action → Action
  | task header spec => task { header with id := supply place } spec
  | loop header spec actions =>
    loop { header with id := supply place } spec (copyAll supply (0 :: place) 0 actions)
  | choice header spec thenActions elseActions =>
    choice { header with id := supply place } spec (copyAll supply (0 :: place) 0 thenActions)
      (copyAll supply (1 :: place) 0 elseActions)

/-- Copies of actions that stand side by side, from a number on. -/
def copyAll (supply : Supply) (place : List Nat) : (index : Nat) → List Action → List Action
  | _, [] => []
  | index, action :: actions =>
    copy supply (index :: place) action :: copyAll supply place (index + 1) actions

end

mutual

/-- The identities of an action and of those inside. -/
def ids : Action → List String
  | task header _ => [header.id]
  | loop header _ actions => header.id :: allIds actions
  | choice header _ thenActions elseActions =>
    header.id :: (allIds thenActions ++ allIds elseActions)

/-- The identities of actions that stand side by side. -/
def allIds : List Action → List String
  | [] => []
  | action :: actions => ids action ++ allIds actions

end

end Action
end DesktopMacro
