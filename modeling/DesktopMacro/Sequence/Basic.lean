/-
Sequences: a named list of actions with variables of its own.
-/
import DesktopMacro.Action.Reading
import DesktopMacro.Variable.Store

set_option autoImplicit false

namespace DesktopMacro

/-- A sequence. -/
structure Sequence where
  name : String
  description : String
  actions : List Action
  store : Store
  id : String

namespace Sequence

/-- The name of a sequence that has none. -/
def unnamed : String := "Unnamed Sequence"

/-! ## Documents -/

/-- A sequence as a document holds it. -/
def toJson (sequence : Sequence) : Json :=
  .object [("id", .text sequence.id), ("name", .text sequence.name),
    ("description", .text sequence.description),
    ("actions", .list (Action.toJsons sequence.actions)),
    ("variables", sequence.store.toJson)]

/-- A value as text, or a text to go by where there is nothing. -/
def textOr (fallback : String) (raw : Option Json) : Noting String :=
  match raw with
  | none => pure fallback
  | some raw => if raw.isEmpty then pure fallback else Noting.lift (Json.asText raw)

/-- The objects of a list. -/
def objectsOf : Json → List Json
  | .list items => items.filter (fun
    | .object _ => true
    | _ => false)
  | _ => []

/-- Reads a sequence at a place; what is no object among its actions is left out. The places of the
actions are counted from the sequence on, so that they may be nested as deep as anywhere. -/
def read (supply : Action.Supply) (place : List Nat) (members : Members) : Noting Sequence := do
  let name ← textOr unnamed (members.get? "name")
  let actions ← Noting.lift
    (Action.readAll (fun inner => supply (inner ++ place)) [] 0
      (objectsOf ((members.get? "actions").getD .null)))
  let description ← textOr "" (members.get? "description")
  let store ← Store.read ((members.get? "variables").getD .null)
  let id ← textOr (supply place) (members.get? "id")
  return { name, description, actions, store, id }

/-! ## Copies -/

/-- A copy with new identities; its variables are its own. -/
def copy (supply : Action.Supply) (sequence : Sequence) : Sequence :=
  { sequence with
    actions := Action.copyAll supply [] 0 sequence.actions
    id := supply [] }

end Sequence
end DesktopMacro
