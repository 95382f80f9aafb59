/-
The fields of an action by their types.

An action can be taken apart into its kind, its identity, the actions inside it, and the fields that
may be edited, and these make it up. A field has a name and a value of some type. What a source has
for the name is coerced to the type of the value, whatever the value is; a source that has nothing
leaves the value. Reading an action over is the same as coercing all its fields side by side: each
against the value that was there at first, and all of them before any is put into the action.
-/
import DesktopMacro.Action.Editor
import DesktopMacro.Proofs.Action.Conditions

set_option autoImplicit false

namespace DesktopMacro

/-! ## Words -/

namespace Vocabulary

/-- A vocabulary whose words are found again. -/
class Lawful (α : Type) [Vocabulary α] : Prop where
  finds : FindsWords α

instance : Lawful MouseGesture := ⟨allFindWords.gesture⟩
instance : Lawful KeyboardMode := ⟨allFindWords.mode⟩
instance : Lawful VariableOperation := ⟨allFindWords.variableOperation⟩
instance : Lawful BrowserOperation := ⟨allFindWords.browserOperation⟩
instance : Lawful OperandSource := ⟨allFindWords.operandSource⟩
instance : Lawful Comparison := ⟨allFindWords.comparison⟩
instance : Lawful PathSource := ⟨allFindWords.pathSource⟩
instance : Lawful FileDestination := ⟨allFindWords.destination⟩
instance : Lawful FileEncoding := ⟨allFindWords.encoding⟩

/-- Different members have different words. -/
theorem word_inj {α : Type} [Vocabulary α] [Lawful α] {member other : α} :
    word member = word other ↔ member = other := by
  constructor
  · intro h
    have hfound := Lawful.finds member
    rw [h, Lawful.finds other] at hfound
    exact (Option.some.inj hfound).symm
  · rintro rfl
    rfl

end Vocabulary

theorem Json.texts_inj {texts others : List String} :
    texts.map Json.text = others.map Json.text ↔ texts = others :=
  (List.map_injective_iff.2 fun _ _ h => Json.text.inj h).eq_iff

theorem Condition.toJson_inj {condition other : Condition} :
    condition.toJson = other.toJson ↔ condition = other := by
  obtain ⟨⟨_, _, _⟩, _, ⟨_, _, _⟩⟩ := condition
  obtain ⟨⟨_, _, _⟩, _, ⟨_, _, _⟩⟩ := other
  simp [toJson, Vocabulary.word_inj, and_assoc]

theorem Condition.isPlain_of_mem_names : ∀ name ∈ names, FieldName.IsPlain name.toList := by
  decide

/-! ## Values with a type -/

/-- The value of a field, by the type of the field. -/
inductive FieldValue where
  | text (s : String)
  | whole (n : Int)
  | truth (b : Bool)
  | word {α : Type} [Vocabulary α] [Vocabulary.Lawful α] (member : α)
  | keys (names : List String)
  | condition (current : Condition)

namespace FieldValue

/-- A value as an editor shows it. -/
def shown : FieldValue → Json
  | text s => .text s
  | whole n => .int n
  | truth b => .bool b
  | word member => .text (Vocabulary.word member)
  | keys names => .list (names.map .text)
  | condition current => current.toJson

/-- **Coercion**: another value, converted to the type of the one that a field has. -/
def coerce (name : String) (raw : Json) : FieldValue → Except Cause Json
  | text _ => .text <$> raw.asText
  | whole _ => .int <$> Field.integerOf name raw
  | truth _ => .ok (.bool (Field.boolOf raw))
  | @word α _ _ _ => (fun member : α => .text (Vocabulary.word member)) <$> Vocabulary.read raw
  | keys _ => (fun names : List String => .list (names.map .text)) <$> Field.keysOf raw
  | condition _ =>
    match raw with
    | .object members => Condition.toJson <$> Condition.read members
    | raw => .error (Cause.showing raw (.action (.notMembers name raw)))

/-- What a field takes from a source. -/
def take (source : Source) (name : String) (value : FieldValue) : Except Cause Json :=
  match source name with
  | none => .ok value.shown
  | some raw => value.coerce name raw

variable {source : Source} {name : String} {value : FieldValue}

theorem take_none (h : source name = none) : value.take source name = .ok value.shown := by
  unfold take
  rw [h]

theorem take_some {raw : Json} (h : source name = some raw) :
    value.take source name = value.coerce name raw := by
  unfold take
  rw [h]

/-- A field that takes nothing has been given something that cannot be coerced. -/
theorem coerce_of_take_error {cause : Cause} (h : value.take source name = .error cause) :
    ∃ raw, source name = some raw ∧ value.coerce name raw = .error cause := by
  cases hsource : source name with
  | none =>
    rw [take_none hsource] at h
    cases h
  | some raw => exact ⟨raw, rfl, take_some hsource ▸ h⟩

/-- **A settled value**: keys have their own names. -/
def Settled : FieldValue → Prop
  | keys names => ∀ name ∈ names, Key.normalize name = name
  | _ => True

/-- **Showing and coercing are inverse to each other**: what is shown of a settled value is coerced
to that value. -/
theorem coerce_shown (h : value.Settled) (name : String) :
    value.coerce name value.shown = .ok value.shown := by
  cases value with
  | text s => rfl
  | whole n => rfl
  | truth b =>
    change Except.ok (Json.bool (!!b)) = _
    rw [Bool.not_not]
    rfl
  | word member =>
    unfold coerce shown
    dsimp only
    rw [Vocabulary.read_word (Vocabulary.Lawful.finds member)]
    rfl
  | keys names =>
    unfold coerce shown
    dsimp only
    rw [Field.keysOf_texts h]
    rfl
  | condition condition =>
    have hread : Condition.read condition.members = .ok condition := by
      refine Condition.read_of_perm [] nofun ?_
      rw [List.append_nil]
      exact (Members.Spelt.refl condition.members).normalize Condition.isPlain_of_mem_names
    unfold coerce shown
    dsimp only
    rw [Condition.toJson_eq]
    dsimp only
    rw [hread]
    rfl

end FieldValue

/-- Fields by their names. -/
abbrev Fields := List (String × FieldValue)

namespace Fields

/-- Fields as an editor shows them. -/
def shown (fields : Fields) : Members := fields.map fun field => (field.1, field.2.shown)

/-- What a field takes from a source, under its name. -/
def taken (source : Source) (field : String × FieldValue) : Except Cause (String × Json) :=
  (field.1, ·) <$> field.2.take source field.1

section Types

variable {source : Source} {name : String}

/-- A field takes what a reader of its type reads, if coercion is what the reader does. -/
theorem taken_eq {α : Type} (value : FieldValue) {current : α} {convert : Json → Except Cause α}
    (show' : α → Json) (hshown : value.shown = show' current)
    (hcoerce : ∀ raw, value.coerce name raw = show' <$> convert raw) :
    taken source (name, value)
      = (fun read => (name, show' read)) <$> Field.orElse source name current convert := by
  unfold taken Field.orElse
  dsimp only
  cases hsource : source name with
  | none =>
    rw [FieldValue.take_none hsource, hshown]
    rfl
  | some raw =>
    rw [FieldValue.take_some hsource, hcoerce]
    exact Functor.map_map show' (name, ·) (convert raw)

@[simp] theorem taken_text (s : String) : taken source (name, .text s)
    = (fun s => (name, .text s)) <$> Field.text source name s :=
  taken_eq (.text s) Json.text rfl fun _ => rfl

@[simp] theorem taken_whole (n : Int) : taken source (name, .whole n)
    = (fun n => (name, .int n)) <$> Field.integer source name n :=
  taken_eq (.whole n) Json.int rfl fun _ => rfl

@[simp] theorem taken_truth (b : Bool) : taken source (name, .truth b)
    = (fun b => (name, .bool b)) <$> Field.bool source name b :=
  taken_eq (.truth b) Json.bool rfl fun _ => rfl

@[simp] theorem taken_word {α : Type} [Vocabulary α] [Vocabulary.Lawful α] (member : α) :
    taken source (name, .word member)
      = (fun member => (name, .text (Vocabulary.word member))) <$> Field.word source name member :=
  taken_eq (.word member) (fun member => .text (Vocabulary.word member)) rfl fun _ => rfl

@[simp] theorem taken_keys (names : List String) : taken source (name, .keys names)
    = (fun names => (name, .list (names.map .text))) <$> Field.keys source name names :=
  taken_eq (.keys names) (fun names : List String => .list (names.map .text)) rfl
    fun _ => rfl

@[simp] theorem taken_condition (condition : Condition) : taken source (name, .condition condition)
    = (fun condition => (name, condition.toJson)) <$> Condition.field source name condition := by
  refine taken_eq (.condition condition) Condition.toJson rfl fun raw => ?_
  cases raw <;> rfl

end Types

end Fields

open Fields

/-! ## Records -/

section Records

variable (source : Source)

def MouseTask.fields (task : MouseTask) : Fields :=
  [("x", .whole task.x), ("y", .whole task.y), ("wheel_delta", .whole task.wheel),
    ("click_kind", .word task.gesture)]

theorem MouseTask.members_read (task : MouseTask) :
    MouseTask.members <$> task.read source = task.fields.mapM (taken source) := by
  simp [fields, read, members]

def KeyboardTask.fields (task : KeyboardTask) : Fields :=
  [("action_kind", .word task.mode), ("text", .text task.text), ("keys", .keys task.keys),
    ("char_delay", .whole task.charDelay), ("use_clipboard", .truth task.useClipboard)]

theorem KeyboardTask.members_read (task : KeyboardTask) :
    KeyboardTask.members <$> task.read source = task.fields.mapM (taken source) := by
  simp [fields, read, members]

def WaitTask.fields (task : WaitTask) : Fields := [("wait_time", .whole task.duration)]

theorem WaitTask.members_read (task : WaitTask) :
    WaitTask.members <$> task.read source = task.fields.mapM (taken source) := by
  simp [fields, read, members]

def VariableTask.fields (task : VariableTask) : Fields :=
  [("variable_name", .text task.name), ("value", .text task.value),
    ("increment_value", .whole task.step), ("list_index", .whole task.index),
    ("operation", .word task.operation)]

theorem VariableTask.members_read (task : VariableTask) :
    VariableTask.members <$> task.read source = task.fields.mapM (taken source) := by
  simp [fields, read, members]

def ClipboardTask.fields (task : ClipboardTask) : Fields :=
  [("text", .text task.text), ("append", .truth task.append),
    ("use_variable", .truth task.useVariable), ("variable_name", .text task.variableName),
    ("retry_count", .whole task.retries), ("retry_wait_time", .whole task.retryPause)]

theorem ClipboardTask.members_read (task : ClipboardTask) :
    ClipboardTask.members <$> task.read source = task.fields.mapM (taken source) := by
  simp [fields, read, members]

def PayloadTask.fields (task : PayloadTask) : Fields :=
  [("check_clipboard", .truth task.fromClipboard), ("json_template", .text task.template),
    ("offset_x", .whole task.offsetX), ("offset_y", .whole task.offsetY),
    ("retry_count", .whole task.retries), ("retry_wait_time", .whole task.retryPause)]

theorem PayloadTask.members_read (task : PayloadTask) :
    PayloadTask.members <$> task.read source = task.fields.mapM (taken source) := by
  simp [fields, read, members]

def BrowserTask.fields (task : BrowserTask) : Fields :=
  [("operation", .word task.operation), ("selector", .text task.selector),
    ("javascript", .text task.script), ("x_result", .whole task.x), ("y_result", .whole task.y),
    ("use_last_results", .truth task.useLastPoint)]

theorem BrowserTask.members_read (task : BrowserTask) :
    BrowserTask.members <$> task.read source = task.fields.mapM (taken source) := by
  simp [fields, read, members]

def FileTask.fields (task : FileTask) : Fields :=
  [("source", .word task.source), ("file_path", .text task.path),
    ("variable_name", .text task.variableName), ("destination", .word task.destination),
    ("destination_variable", .text task.target), ("encoding", .word task.encoding),
    ("handle_io_errors", .truth task.tolerant)]

theorem FileTask.members_read (task : FileTask) :
    FileTask.members <$> FileTask.read source task = task.fields.mapM (taken source) := by
  simp [fields, read, members]

def LoopSpec.fields (spec : LoopSpec) : Fields :=
  [("max_iterations", .whole spec.maxIterations), ("use_condition", .truth spec.useCondition),
    ("condition", .condition spec.condition), ("list_variable_name", .text spec.listName),
    ("item_variable_name", .text spec.itemName)]

theorem LoopSpec.members_read (spec : LoopSpec) :
    (fun read => read.1.membersBefore ++ read.1.membersAfter)
        <$> spec.read source (fun _ => .ok ())
      = spec.fields.mapM (taken source) := by
  change _ <$> spec.read source (fun _ => pure ()) = _
  simp [fields, read, membersBefore, membersAfter]

def ChoiceSpec.fields (spec : ChoiceSpec) : Fields :=
  [("condition", .condition spec.condition), ("use_else_branch", .truth spec.useElse)]

theorem ChoiceSpec.members_read (spec : ChoiceSpec) :
    (fun read => read.1.membersBefore ++ read.1.membersAfter)
        <$> spec.read source (fun _ => .ok ())
      = spec.fields.mapM (taken source) := by
  change _ <$> spec.read source (fun _ => pure ()) = _
  simp [fields, read, membersBefore, membersAfter]

theorem LoopSpec.ext_of_members {spec other : LoopSpec}
    (h : spec.membersBefore ++ spec.membersAfter = other.membersBefore ++ other.membersAfter) :
    spec = other := by
  cases spec
  cases other
  simpa [membersBefore, membersAfter, Condition.toJson_inj] using h

theorem ChoiceSpec.ext_of_members {spec other : ChoiceSpec}
    (h : spec.membersBefore ++ spec.membersAfter = other.membersBefore ++ other.membersAfter) :
    spec = other := by
  cases spec
  cases other
  simpa [membersBefore, membersAfter, Condition.toJson_inj] using h

end Records

namespace Action

def Header.fields (header : Header) : Fields :=
  [("name", .text header.name), ("description", .text header.description),
    ("delay_before", .whole header.delayBefore), ("enabled", .truth header.enabled),
    ("continue_on_error", .truth header.continueOnError)]

/-- The fields of a header but for its identity. -/
theorem Header.drop_id (header : Header) : Members.drop header.members "id"
    = [("name", .text header.name), ("description", .text header.description),
      ("delay_before", .int header.delayBefore), ("enabled", .bool header.enabled),
      ("continue_on_error", .bool header.continueOnError)] := rfl

/-- A member as it is put into an action: a delay below zero is none. -/
def clampDelay (member : String × Json) : String × Json :=
  match member with
  | ("delay_before", .int n) => ("delay_before", .int (max 0 n))
  | member => member

theorem Header.members_read (source : Source) (header : Header) (hid : source "id" = none) :
    (fun read => Members.drop read.members "id") <$> header.read source
      = List.map clampDelay <$> header.fields.mapM (taken source) := by
  have hsame : Field.text source "id" header.id = pure header.id := by
    unfold Field.text Field.orElse
    rw [hid]
    rfl
  simp [fields, read, hsame, drop_id, clampDelay]

def Task.fields : Task → Fields
  | .mouse spec => spec.fields
  | .keyboard spec => spec.fields
  | .wait spec => spec.fields
  | .variable spec => spec.fields
  | .clipboard spec => spec.fields
  | .payload spec => spec.fields
  | .browser spec => spec.fields
  | .file spec => FileTask.fields spec

theorem Task.members_read (source : Source) (spec : Task) :
    Task.members <$> spec.read source = spec.fields.mapM (taken source) := by
  -- What is read over a task of one kind is a task of that kind.
  have hkind : ∀ {α : Type} (kind : α → Task) (result : Except Cause α),
      Task.members <$> (do return kind (← result))
        = (fun spec => (kind spec).members) <$> result := by
    intro α kind result
    simp
  cases spec with
  | mouse spec => exact (hkind .mouse _).trans (spec.members_read source)
  | keyboard spec => exact (hkind .keyboard _).trans (spec.members_read source)
  | wait spec => exact (hkind .wait _).trans (spec.members_read source)
  | «variable» spec => exact (hkind .variable _).trans (spec.members_read source)
  | clipboard spec => exact (hkind .clipboard _).trans (spec.members_read source)
  | payload spec => exact (hkind .payload _).trans (spec.members_read source)
  | browser spec => exact (hkind .browser _).trans (spec.members_read source)
  | file spec => exact (hkind .file _).trans (FileTask.members_read source spec)

/-! ## Actions -/

/-- The fields that actions of one kind have. -/
def ownFields : Action → Fields
  | task _ spec => spec.fields
  | loop _ spec _ => spec.fields
  | choice _ spec _ _ => spec.fields

/-- The fields of an action that may be edited. -/
def fields (action : Action) : Fields := action.header.fields ++ action.ownFields

/-- The lists of actions inside. -/
def branches : Action → List (List Action)
  | task _ _ => []
  | loop _ _ actions => [actions]
  | choice _ _ thenActions elseActions => [thenActions, elseActions]

theorem Task.shown_fields (spec : Task) : spec.fields.shown = spec.members := by
  cases spec <;> rfl

/-- The fields are what an editor shows: those of the header and then those of the kind. -/
theorem editableMembers_eq (action : Action) : action.editableMembers
    = Members.drop action.header.members "id" ++ action.ownFields.shown := by
  cases action with
  | task header spec =>
    rw [ownFields, Task.shown_fields]
    rfl
  | loop header spec actions => exact List.append_assoc ..
  | choice header spec thenActions elseActions => exact List.append_assoc ..

theorem shown_fields (action : Action) : action.fields.shown = action.editableMembers := by
  rw [editableMembers_eq, fields, shown, List.map_append]
  rfl

theorem own_names {action : Action} {field : String × FieldValue} (h : field ∈ action.ownFields) :
    field.1 ≠ "id" ∧ field.1 ≠ "delay_before" := by
  have hall : (action.ownFields.map Prod.fst).all
      (fun name => name != "id" && name != "delay_before") = true := by
    cases action with
    | task header spec => cases spec <;> rfl
    | loop header spec actions => rfl
    | choice header spec thenActions elseActions => rfl
  simpa using List.all_eq_true.1 hall field.1 (List.mem_map_of_mem h)

/-- The identity is no field of a header that may be edited. -/
theorem Header.names_fields {header : Header} {field : String × FieldValue}
    (h : field ∈ header.fields) : field.1 ≠ "id" := by
  have hall : (header.fields.map Prod.fst).all (fun name => name != "id") = true := rfl
  simpa using List.all_eq_true.1 hall field.1 (List.mem_map_of_mem h)

theorem nodup_names (action : Action) : (action.fields.map Prod.fst).Nodup := by
  cases action with
  | task header spec => cases spec <;> exact of_decide_eq_true rfl
  | loop header spec actions => exact of_decide_eq_true rfl
  | choice header spec thenActions elseActions => exact of_decide_eq_true rfl

/-! ## What an action is made of -/

theorem Header.ext_of_members {header other : Header} (hid : header.id = other.id)
    (h : Members.drop header.members "id" = Members.drop other.members "id") : header = other := by
  obtain ⟨name, description, delayBefore, enabled, continueOnError, id⟩ := header
  obtain ⟨_, _, _, _, _, _⟩ := other
  simp only [drop_id, List.cons.injEq, Prod.mk.injEq, true_and, and_true, Json.text.injEq,
    Json.int.injEq, Json.bool.injEq] at h
  obtain ⟨hname, hdescription, hdelay, henabled, htolerant⟩ := h
  exact Header.mk.injEq .. ▸ ⟨hname, hdescription, hdelay, henabled, htolerant, hid⟩

theorem Task.ext_of_members {spec other : Task} (hkind : spec.kind = other.kind)
    (h : spec.members = other.members) : spec = other := by
  cases spec <;> cases other <;> cases hkind
  -- What is left are two tasks of one kind, whose members show all that they have.
  all_goals
    rename_i spec other
    cases spec
    cases other
    simpa [members, MouseTask.members, KeyboardTask.members, WaitTask.members, VariableTask.members,
      ClipboardTask.members, PayloadTask.members, BrowserTask.members, FileTask.members,
      Vocabulary.word_inj, Json.texts_inj] using h

/-- **One action keeps the frame of another one**: kind, identity, and the actions inside. -/
structure KeepsFrame (action written : Action) : Prop where
  kind : written.kind = action.kind
  id : written.header.id = action.header.id
  branches : written.branches = action.branches

theorem KeepsFrame.trans {action written after : Action} (h : action.KeepsFrame written)
    (h' : written.KeepsFrame after) : action.KeepsFrame after :=
  ⟨h'.kind.trans h.kind, h'.id.trans h.id, h'.branches.trans h.branches⟩

/-- **An action is made of its frame and its fields that may be edited.** -/
theorem ext_of_keepsFrame {action other : Action} (h : action.KeepsFrame other)
    (hmembers : other.editableMembers = action.editableMembers) : other = action := by
  obtain ⟨hkind, hid, hbranches⟩ := h
  rw [editableMembers_eq, editableMembers_eq] at hmembers
  -- All headers have equally many fields, so the fields of the kind begin at the same place.
  obtain ⟨hheaders, hown⟩ := List.append_inj hmembers rfl
  have hheader : other.header = action.header := Header.ext_of_members hid hheaders
  cases action with
  | task header spec =>
    cases other with
    | task header' spec' =>
      have hspec : spec' = spec := Task.ext_of_members hkind
        ((Task.shown_fields spec').symm.trans (hown.trans (Task.shown_fields spec)))
      cases hheader
      rw [hspec]
    | loop | choice => cases hbranches
  | loop header spec actions =>
    cases other with
    | loop header' spec' actions' =>
      cases hheader
      cases hbranches
      rw [LoopSpec.ext_of_members hown]
    | task | choice => cases hbranches
  | choice header spec thenActions elseActions =>
    cases other with
    | choice header' spec' thenActions' elseActions' =>
      cases hheader
      cases hbranches
      rw [ChoiceSpec.ext_of_members hown]
    | task | loop => cases hbranches

end Action
end DesktopMacro
