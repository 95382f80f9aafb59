/-
Reading actions.

The names of the members are brought to their present spelling first; of two members that end up
with one name the later counts. The kind comes from the type if there is one and is otherwise
guessed from the names. Then renamed fields are taken over, the fields of a condition that an older
document left lying on the action are gathered, and the fields are read in their order, each over
its initial value.

Reading goes down the document. Before an object is read, each of its members is paired with what it
gives when it is read as a list of actions, and the object picks the ones it needs.
-/
import DesktopMacro.Action.Basic

set_option autoImplicit false

namespace DesktopMacro.Action

/-! ## Kinds -/

/-- The letters of a spelling, in small letters. -/
def typeToken (spelling : String) : List Char :=
  (Text.lower spelling).toList.filter Char.isLower

/-- A token without the ending that says it is an action. -/
def stripEnding (token : List Char) : List Char :=
  let ending := "action".toList
  if ending.isSuffixOf token then token.take (token.length - ending.length) else token

/-- The kind that a type names. -/
def Kind.ofType? (spelling : String) : Option Kind :=
  Kind.all.find? (fun kind => kind.word.toList == stripEnding (typeToken spelling))

/-- The kind with the fields by which it is known, the surest kinds first: a kind is guessed if all
the fields of one of its groups are there. -/
def signatures : List (Kind × List (List String)) :=
  [(.choice, [["then_actions"], ["else_actions"], ["use_else_branch"]]),
    (.loop, [["max_iterations"], ["loop_actions"], ["actions"]]),
    (.payload, [["json_template"], ["check_clipboard"], ["offset_x"]]),
    (.browser, [["selector"], ["javascript"], ["java_script"], ["use_last_results"]]),
    (.file, [["file_path"], ["destination_type"], ["destination"]]),
    (.variable, [["increment_value"], ["variable_name", "operation"]]),
    (.clipboard, [["use_variable"], ["append"], ["append_to_clipboard"]]),
    (.keyboard, [["keys"], ["char_delay"], ["delay_between_chars"], ["use_clipboard"], ["text"]]),
    (.mouse, [["click_kind"], ["wheel_delta"], ["x", "y"]]),
    (.wait, [["wait_time"]])]

/-- The kind of an action from the names of its fields. -/
def Kind.guess (names : List String) : Except Cause Kind :=
  match signatures.find? (fun entry => entry.2.any (fun group => group.all names.contains)) with
  | some entry => .ok entry.1
  | none => .error (.action (.noKind (names.mergeSort (fun a b => decide (a ≤ b)))))

/-- The kind of an action from its type, or from the names of its fields if it has none. -/
def Kind.of (type : Json) (names : List String) : Except Cause Kind :=
  if type.isEmpty then Kind.guess names
  else if !type.isWritable then .error .numberUnwritable
  else
    match Kind.ofType? type.display with
    | some kind => .ok kind
    | none => .error (.action (.unknownKind type))

/-! ## Fields -/

/-- The former names of fields, with the present ones. -/
def renamings : Kind → List (String × String)
  | .mouse => [("action_type", "click_kind")]
  | .keyboard => [("action_type", "action_kind"), ("delay_between_chars", "char_delay")]
  | .variable => [("action_type", "operation")]
  | .clipboard => [("append_to_clipboard", "append")]
  | .browser => [("action_type", "operation"), ("java_script", "javascript")]
  | .loop => [("loop_actions", "actions")]
  | .file =>
    [("source_type", "source"), ("destination_type", "destination"),
      ("destination_variable_name", "destination_variable"), ("file_encoding", "encoding"),
      ("handle_io_exception", "handle_io_errors")]
  | _ => []

/-- A member of an object: what it holds, and what that gives as a list of actions. -/
structure Entry where
  name : String
  raw : Json
  actions : Except Cause (List Action)

namespace Entry

/-- Puts an entry in the place of the one with its name, or at the end. -/
def putInto : List Entry → Entry → List Entry
  | [], entry => [entry]
  | other :: others, entry =>
    if other.name == entry.name then entry :: others else other :: putInto others entry

/-- Entries under the present spelling of their names. -/
def normalizeAll (entries : List Entry) : List Entry :=
  entries.foldl (fun done entry =>
    putInto done { entry with name := FieldName.normalize entry.name })
    []

/-- The entry of a name. -/
def find? (entries : List Entry) (name : String) : Option Entry :=
  entries.find? (fun entry => entry.name == name)

/-- Takes over a renamed field, unless the present name is there too. -/
def rename (entries : List Entry) (former present : String) : List Entry :=
  match find? entries former with
  | some entry =>
    if (find? entries present).isSome then entries else entries ++ [{ entry with name := present }]
  | none => entries

/-- A name that belongs to a condition. -/
def isOfCondition (name : String) : Bool :=
  Text.startsWith name "left_" || Text.startsWith name "right_" || name == "operator"

/-- Gathers all entries into a condition, if there is none and one of them belongs to it. -/
def gatherCondition (entries : List Entry) : List Entry :=
  if (find? entries "condition").isNone && entries.any (fun entry => isOfCondition entry.name) then
    let gathered := Json.object (entries.map (fun entry => (entry.name, entry.raw)))
    entries ++ [⟨"condition", gathered, .error (.action (.notActions "condition"))⟩]
  else entries

/-- The entries as a source of fields; null stands for nothing. -/
def source (entries : List Entry) : Source := fun name =>
  match find? entries name with
  | some ⟨_, .null, _⟩ => none
  | some entry => some entry.raw
  | none => none

/-- The actions in a field: none if the field is not there. -/
def inside (entries : List Entry) (field : String) : Except Cause (List Action) :=
  match find? entries field with
  | none => .ok []
  | some ⟨_, .null, _⟩ => .ok []
  | some ⟨_, .list _, actions⟩ => actions
  | some _ => .error (.action (.notActions field))

end Entry

/-! ## Actions -/

/-- The initial task of a kind that has no actions inside. -/
def Task.initial? : Kind → Option Task
  | .mouse => some (.mouse .initial)
  | .keyboard => some (.keyboard .initial)
  | .wait => some (.wait .initial)
  | .variable => some (.variable .initial)
  | .clipboard => some (.clipboard .initial)
  | .payload => some (.payload .initial)
  | .browser => some (.browser .initial)
  | .file => some (.file .initial)
  | .loop | .choice => none

/-- Builds an action from the entries of its object. -/
def ofEntries (id : String) (entries : List Entry) : Except Cause Action := do
  let normalized := Entry.normalizeAll entries
  let type := ((Entry.find? normalized "type").map Entry.raw).getD .null
  let fields := normalized.filter (fun entry => entry.name != "type")
  let kind ← Kind.of type (fields.map Entry.name)
  let fields := (renamings kind).foldl (fun done pair => Entry.rename done pair.1 pair.2) fields
  let initial := Header.initial id
  match Task.initial? kind with
  | some spec =>
    let header ← initial.read (Entry.source fields)
    return task header (← spec.read (Entry.source fields))
  | none =>
    let fields := Entry.gatherCondition fields
    let header ← initial.read (Entry.source fields)
    if kind = .loop then
      let (spec, actions) ← LoopSpec.initial.read (Entry.source fields) (Entry.inside fields)
      return loop header spec actions
    else
      let (spec, thenActions, elseActions) ←
        ChoiceSpec.initial.read (Entry.source fields) (Entry.inside fields)
      return choice header spec thenActions elseActions

/-- The most actions that are read inside one another. -/
def deepest : Nat := 325

mutual

/-- Reads the action at a place. -/
def read (supply : Supply) (place : List Nat) : Json → Except Cause Action
  | .object members =>
    if 2 * deepest ≤ place.length then .error (.tooDeep none)
    else ofEntries (supply place) (readMembers supply place 0 members)
  | raw => .error (.action (.notObject raw))

/-- Reads actions that stand side by side, from a number on; the first fault ends it. -/
def readAll (supply : Supply) (place : List Nat) : (index : Nat) → List Json →
    Except Cause (List Action)
  | _, [] => .ok []
  | index, raw :: more => do
    let action ← read supply (index :: place) raw
    let actions ← readAll supply place (index + 1) more
    return action :: actions

/-- Pairs members with what they give as lists of actions. -/
def readMembers (supply : Supply) (place : List Nat) : (index : Nat) → List (String × Json) →
    List Entry
  | _, [] => []
  | index, (name, .list items) :: members =>
    ⟨name, .list items, readAll supply (index :: place) 0 items⟩
      :: readMembers supply place (index + 1) members
  | index, (name, raw) :: members =>
    ⟨name, raw, .error (.action (.notActions name))⟩
      :: readMembers supply place (index + 1) members

end

end DesktopMacro.Action
