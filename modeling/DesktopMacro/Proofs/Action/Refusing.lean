/-
Why actions are not read.

What reads an action refuses a document that it cannot use, and a refusal says which action, which
field or which word is at fault. Two causes are no refusals. An infinite double has no whole number,
so it is the cause where it stands for one; and actions that stand too deep inside one another are
the cause wherever they stand. Both are there to be seen in the document.
-/
import DesktopMacro.Proofs.Action.Settled
import DesktopMacro.Proofs.Files.Documents

set_option autoImplicit false

namespace DesktopMacro

variable {P : Cause → Prop}

/-- A fault whose words show a value is a refusal, whatever the value is. -/
theorem Cause.isRefusal_showing (raw : Json) (fault : ActionFault) :
    (Cause.showing raw (.action fault)).IsRefusal := by
  unfold Cause.showing
  split
  · trivial
  · trivial

/-- Among some causes are all for which the fields of a source may not be read: the refusals, and
that of an infinite double if one of the fields is one. -/
structure Source.Covered (source : Source) (P : Cause → Prop) : Prop where
  refusal : ∀ cause : Cause, cause.IsRefusal → P cause
  infinite : ∀ name raw, source name = some raw → raw.IsInfinite → P .infinityToWhole

/-! ## Fields -/

theorem Json.failsFor_asText (raw : Json) : FailsFor Cause.IsRefusal raw.asText := by
  unfold Json.asText
  split
  · exact failsFor_ok _ _
  · exact failsFor_error trivial

theorem Vocabulary.failsFor_read {α : Type} [Vocabulary α] (raw : Json) :
    FailsFor Cause.IsRefusal (Vocabulary.read (α := α) raw) := by
  unfold Vocabulary.read
  split
  · split
    · exact failsFor_ok _ _
    · exact failsFor_error trivial
  · exact failsFor_error trivial

namespace Field

variable {source : Source} {name : String}

theorem failsFor_orElse {α : Type} {convert : Json → Except Cause α}
    (h : ∀ raw, source name = some raw → FailsFor P (convert raw)) (current : α) :
    FailsFor P (orElse source name current convert) := by
  unfold orElse
  split
  · exact failsFor_ok P current
  · next raw hraw => exact h raw hraw

/-- What a value is refused for as a whole number, or it is infinite. -/
theorem failsFor_integerOf (name : String) (raw : Json) :
    FailsFor (fun cause => cause.IsRefusal ∨ (cause = .infinityToWhole ∧ raw.IsInfinite))
      (integerOf name raw) := by
  have hfault : (Cause.showing raw (.action (.notInteger name raw))).IsRefusal :=
    Cause.isRefusal_showing raw _
  unfold integerOf
  dsimp only
  split
  · exact failsFor_ok _ _
  · exact failsFor_ok _ _
  · next x =>
    split
    · exact failsFor_ok _ _
    · next htruncate =>
      exact failsFor_error (.inr ⟨rfl, x, rfl, Json.of_truncate_infinite htruncate⟩)
    · exact failsFor_error (.inl hfault)
  · split
    · exact failsFor_ok _ _
    · exact failsFor_error (.inl hfault)
  · exact failsFor_error (.inl hfault)

theorem failsFor_keysOf (raw : Json) : FailsFor Cause.IsRefusal (keysOf raw) := by
  unfold keysOf
  split
  · exact failsFor_ok _ _
  · exact FailsFor.mapM (fun item => (Json.failsFor_asText item).map Key.normalize) _
  · exact failsFor_error (Cause.isRefusal_showing raw _)

/-- A field whose values are only refused. -/
theorem failsFor_refusing {α : Type} (h : source.Covered P) {convert : Json → Except Cause α}
    (hconvert : ∀ raw, FailsFor Cause.IsRefusal (convert raw)) (current : α) :
    FailsFor P (orElse source name current convert) :=
  failsFor_orElse (fun raw _ => (hconvert raw).mono h.refusal) current

variable (h : source.Covered P) (name)

include h

theorem failsFor_text (current : String) : FailsFor P (text source name current) :=
  failsFor_refusing h Json.failsFor_asText current

theorem failsFor_integer (current : Int) : FailsFor P (integer source name current) := by
  refine failsFor_orElse (fun raw hraw => (failsFor_integerOf name raw).mono ?_) current
  rintro cause (hrefusal | ⟨rfl, hinfinite⟩)
  · exact h.refusal cause hrefusal
  · exact h.infinite name raw hraw hinfinite

theorem failsFor_bool (current : Bool) : FailsFor P (bool source name current) :=
  failsFor_refusing h (fun _ => failsFor_ok _ _) current

theorem failsFor_word {α : Type} [Vocabulary α] (current : α) :
    FailsFor P (word source name current) :=
  failsFor_refusing h Vocabulary.failsFor_read current

theorem failsFor_keys (current : List String) : FailsFor P (keys source name current) :=
  failsFor_refusing h failsFor_keysOf current

end Field

namespace Condition

theorem failsFor_operandText (raw : Json) : FailsFor Cause.IsRefusal (operandText raw) := by
  unfold operandText
  split
  · exact failsFor_ok _ _
  · exact Json.failsFor_asText raw

theorem failsFor_readField (condition : Condition) (name : String) (raw : Json) :
    FailsFor Cause.IsRefusal (readField condition name raw) := by
  unfold readField
  split
  case h_1 | h_4 | h_5 => exact (Vocabulary.failsFor_read raw).bind fun _ _ => failsFor_ok _ _
  case h_2 | h_3 | h_6 | h_7 => exact (failsFor_operandText raw).bind fun _ _ => failsFor_ok _ _
  case h_8 => exact failsFor_ok _ _

theorem failsFor_read (members : Members) : FailsFor Cause.IsRefusal (read members) := by
  unfold read
  refine FailsFor.foldlM (fun condition entry => ?_) members initial
  exact failsFor_readField condition entry.1 entry.2

theorem failsFor_field {source : Source} (h : source.Covered P) (name : String)
    (current : Condition) : FailsFor P (field source name current) := by
  refine Field.failsFor_refusing h (fun raw => ?_) current
  cases raw with
  | object members => exact failsFor_read members
  | _ => exact failsFor_error (Cause.isRefusal_showing _ _)

end Condition

/-! ## The fields of each kind -/

section Kinds

variable {source : Source} (h : source.Covered P)

include h

theorem MouseTask.failsFor_read (task : MouseTask) : FailsFor P (task.read source) := by
  refine (Field.failsFor_integer "x" h _).bind fun x _ => ?_
  refine (Field.failsFor_integer "y" h _).bind fun y _ => ?_
  refine (Field.failsFor_integer "wheel_delta" h _).bind fun wheel _ => ?_
  refine (Field.failsFor_word "click_kind" h _).bind fun gesture _ => ?_
  exact failsFor_ok P _

theorem KeyboardTask.failsFor_read (task : KeyboardTask) : FailsFor P (task.read source) := by
  refine (Field.failsFor_word "action_kind" h _).bind fun mode _ => ?_
  refine (Field.failsFor_text "text" h _).bind fun text _ => ?_
  refine (Field.failsFor_keys "keys" h _).bind fun keys _ => ?_
  refine (Field.failsFor_integer "char_delay" h _).bind fun charDelay _ => ?_
  refine (Field.failsFor_bool "use_clipboard" h _).bind fun useClipboard _ => ?_
  exact failsFor_ok P _

theorem WaitTask.failsFor_read (task : WaitTask) : FailsFor P (task.read source) := by
  refine (Field.failsFor_integer "wait_time" h _).bind fun duration _ => ?_
  exact failsFor_ok P _

theorem VariableTask.failsFor_read (task : VariableTask) : FailsFor P (task.read source) := by
  refine (Field.failsFor_text "variable_name" h _).bind fun name _ => ?_
  refine (Field.failsFor_text "value" h _).bind fun value _ => ?_
  refine (Field.failsFor_integer "increment_value" h _).bind fun step _ => ?_
  refine (Field.failsFor_integer "list_index" h _).bind fun index _ => ?_
  refine (Field.failsFor_word "operation" h _).bind fun operation _ => ?_
  exact failsFor_ok P _

theorem ClipboardTask.failsFor_read (task : ClipboardTask) : FailsFor P (task.read source) := by
  refine (Field.failsFor_text "text" h _).bind fun text _ => ?_
  refine (Field.failsFor_bool "append" h _).bind fun append _ => ?_
  refine (Field.failsFor_bool "use_variable" h _).bind fun useVariable _ => ?_
  refine (Field.failsFor_text "variable_name" h _).bind fun variableName _ => ?_
  refine (Field.failsFor_integer "retry_count" h _).bind fun retries _ => ?_
  refine (Field.failsFor_integer "retry_wait_time" h _).bind fun retryPause _ => ?_
  exact failsFor_ok P _

theorem PayloadTask.failsFor_read (task : PayloadTask) : FailsFor P (task.read source) := by
  refine (Field.failsFor_bool "check_clipboard" h _).bind fun fromClipboard _ => ?_
  refine (Field.failsFor_text "json_template" h _).bind fun template _ => ?_
  refine (Field.failsFor_integer "offset_x" h _).bind fun offsetX _ => ?_
  refine (Field.failsFor_integer "offset_y" h _).bind fun offsetY _ => ?_
  refine (Field.failsFor_integer "retry_count" h _).bind fun retries _ => ?_
  refine (Field.failsFor_integer "retry_wait_time" h _).bind fun retryPause _ => ?_
  exact failsFor_ok P _

theorem BrowserTask.failsFor_read (task : BrowserTask) : FailsFor P (task.read source) := by
  refine (Field.failsFor_word "operation" h _).bind fun operation _ => ?_
  refine (Field.failsFor_text "selector" h _).bind fun selector _ => ?_
  refine (Field.failsFor_text "javascript" h _).bind fun script _ => ?_
  refine (Field.failsFor_integer "x_result" h _).bind fun x _ => ?_
  refine (Field.failsFor_integer "y_result" h _).bind fun y _ => ?_
  refine (Field.failsFor_bool "use_last_results" h _).bind fun useLastPoint _ => ?_
  exact failsFor_ok P _

theorem FileTask.failsFor_read (task : FileTask) : FailsFor P (FileTask.read source task) := by
  refine (Field.failsFor_word "source" h _).bind fun origin _ => ?_
  refine (Field.failsFor_text "file_path" h _).bind fun path _ => ?_
  refine (Field.failsFor_text "variable_name" h _).bind fun variableName _ => ?_
  refine (Field.failsFor_word "destination" h _).bind fun destination _ => ?_
  refine (Field.failsFor_text "destination_variable" h _).bind fun target _ => ?_
  refine (Field.failsFor_word "encoding" h _).bind fun encoding _ => ?_
  refine (Field.failsFor_bool "handle_io_errors" h _).bind fun tolerant _ => ?_
  exact failsFor_ok P _

theorem Action.Task.failsFor_read (spec : Action.Task) : FailsFor P (spec.read source) := by
  cases spec with
  | mouse task => exact (task.failsFor_read h).bind fun _ _ => failsFor_ok P _
  | keyboard task => exact (task.failsFor_read h).bind fun _ _ => failsFor_ok P _
  | wait task => exact (task.failsFor_read h).bind fun _ _ => failsFor_ok P _
  | «variable» task => exact (task.failsFor_read h).bind fun _ _ => failsFor_ok P _
  | clipboard task => exact (task.failsFor_read h).bind fun _ _ => failsFor_ok P _
  | payload task => exact (task.failsFor_read h).bind fun _ _ => failsFor_ok P _
  | browser task => exact (task.failsFor_read h).bind fun _ _ => failsFor_ok P _
  | file task => exact (task.failsFor_read h).bind fun _ _ => failsFor_ok P _

theorem Action.Header.failsFor_read (header : Action.Header) :
    FailsFor P (header.read source) := by
  refine (Field.failsFor_text "name" h _).bind fun name _ => ?_
  refine (Field.failsFor_text "description" h _).bind fun description _ => ?_
  refine (Field.failsFor_integer "delay_before" h _).bind fun delay _ => ?_
  refine (Field.failsFor_bool "enabled" h _).bind fun enabled _ => ?_
  refine (Field.failsFor_bool "continue_on_error" h _).bind fun continueOnError _ => ?_
  refine (Field.failsFor_text "id" h _).bind fun id _ => ?_
  exact failsFor_ok P _

variable {α : Type} {inside : String → Except Cause α}
  (hinside : ∀ field, FailsFor P (inside field))

include hinside

theorem LoopSpec.failsFor_read (spec : LoopSpec) : FailsFor P (spec.read source inside) := by
  refine (Field.failsFor_integer "max_iterations" h _).bind fun maxIterations _ => ?_
  refine (Field.failsFor_bool "use_condition" h _).bind fun useCondition _ => ?_
  refine (Condition.failsFor_field h "condition" _).bind fun condition _ => ?_
  refine (hinside "actions").bind fun actions _ => ?_
  refine (Field.failsFor_text "list_variable_name" h _).bind fun listName _ => ?_
  refine (Field.failsFor_text "item_variable_name" h _).bind fun itemName _ => ?_
  exact failsFor_ok P _

theorem ChoiceSpec.failsFor_read (spec : ChoiceSpec) : FailsFor P (spec.read source inside) := by
  refine (Condition.failsFor_field h "condition" _).bind fun condition _ => ?_
  refine (hinside "then_actions").bind fun thenActions _ => ?_
  refine (hinside "else_actions").bind fun elseActions _ => ?_
  refine (Field.failsFor_bool "use_else_branch" h _).bind fun useElse _ => ?_
  exact failsFor_ok P _

end Kinds

/-! ## Actions -/

namespace Action

/-- An entry is covered by some causes: they are those for which what it gives may not be read, and
that of an infinite double if it is one. -/
def Covers (P : Cause → Prop) (raw : Json) (actions : Except Cause (List Action)) : Prop :=
  (raw.IsInfinite → P .infinityToWhole) ∧ FailsFor P actions

variable {entries : List Entry}

theorem Entry.covered_source (hrefusal : ∀ cause : Cause, cause.IsRefusal → P cause)
    (h : Entry.All (Covers P) entries) : (Entry.source entries).Covered P where
  refusal := hrefusal
  infinite name raw hraw hinfinite := by
    unfold Entry.source at hraw
    split at hraw
    · cases hraw
    · next hentry =>
      cases hraw
      exact (h.find? hentry).1 hinfinite
    · cases hraw

theorem Entry.failsFor_inside (hrefusal : ∀ cause : Cause, cause.IsRefusal → P cause)
    (h : Entry.All (Covers P) entries) (field : String) :
    FailsFor P (Entry.inside entries field) := by
  unfold Entry.inside
  split
  · exact failsFor_ok P []
  · exact failsFor_ok P []
  · next hentry => exact (h.find? hentry).2
  · exact failsFor_error (hrefusal _ trivial)

theorem Kind.failsFor_of (type : Json) (names : List String) :
    FailsFor Cause.IsRefusal (Kind.of type names) := by
  unfold Kind.of
  split
  · unfold Kind.guess
    split
    · exact failsFor_ok _ _
    · exact failsFor_error trivial
  · split
    · exact failsFor_error trivial
    · split
      · exact failsFor_ok _ _
      · exact failsFor_error trivial

/-- **An action is not built only for what its entries are covered by.** -/
theorem failsFor_ofEntries (hrefusal : ∀ cause : Cause, cause.IsRefusal → P cause)
    (h : Entry.All (Covers P) entries) (id : String) : FailsFor P (ofEntries id entries) := by
  unfold ofEntries
  dsimp only
  refine ((Kind.failsFor_of _ _).mono hrefusal).bind fun kind _ => ?_
  -- Renaming moves entries about but changes none, and what is gathered is an object.
  have hfields := (h.normalizeAll.filter fun entry => entry.name != "type").renameAll
    (renamings kind)
  split
  · have hsource := Entry.covered_source hrefusal hfields
    refine (Header.failsFor_read hsource _).bind fun header _ => ?_
    refine (Task.failsFor_read hsource _).bind fun spec _ => ?_
    exact failsFor_ok P _
  · have hgathered := hfields.gatherCondition fun members fault =>
      ⟨nofun, failsFor_error (hrefusal (.action fault) trivial)⟩
    have hsource := Entry.covered_source hrefusal hgathered
    have hinside := Entry.failsFor_inside hrefusal hgathered
    refine (Header.failsFor_read hsource _).bind fun header _ => ?_
    split
    · exact (LoopSpec.failsFor_read hsource hinside _).bind fun _ _ => failsFor_ok P _
    · exact (ChoiceSpec.failsFor_read hsource hinside _).bind fun _ _ => failsFor_ok P _

/-- An object stands so deep in a document that no action is read there; the document itself stands
at a depth. -/
def Exceeds (depth : Nat) (document : Json) : Prop :=
  ∃ members n, (Json.object members).StandsIn document n ∧ 2 * deepest ≤ depth + n

/-- **A cause that lies in a document at a depth**: it is a refusal, or it is that of an infinite
double, or of actions too deep, and there is such a thing in the document. -/
def LiesIn (document : Json) (depth : Nat) (cause : Cause) : Prop :=
  cause.IsRefusal ∨ (cause = .infinityToWhole ∧ document.HoldsInfinite)
    ∨ (cause = .tooDeep none ∧ Exceeds depth document)

variable {depth : Nat} {cause : Cause}

theorem LiesIn.item {items : List Json} {item : Json} (hitem : item ∈ items)
    (h : LiesIn item (depth + 1) cause) : LiesIn (.list items) depth cause := by
  rcases h with hrefusal | ⟨rfl, raw, n, hstands, hinfinite⟩ | ⟨rfl, members, n, hstands, hdeep⟩
  · exact .inl hrefusal
  · exact .inr (.inl ⟨rfl, raw, n + 1, .item hitem hstands, hinfinite⟩)
  · exact .inr (.inr ⟨rfl, members, n + 1, .item hitem hstands, by omega⟩)

theorem LiesIn.member {members : Members} {entry : String × Json} (hentry : entry ∈ members)
    (h : LiesIn entry.2 (depth + 1) cause) : LiesIn (.object members) depth cause := by
  rcases h with hrefusal | ⟨rfl, raw, n, hstands, hinfinite⟩ | ⟨rfl, inner, n, hstands, hdeep⟩
  · exact .inl hrefusal
  · exact .inr (.inl ⟨rfl, raw, n + 1, .member hentry hstands, hinfinite⟩)
  · exact .inr (.inr ⟨rfl, inner, n + 1, .member hentry hstands, by omega⟩)

theorem LiesIn.deeper {document : Json} (h : LiesIn document depth cause) {further : Nat}
    (hle : depth ≤ further) : LiesIn document further cause := by
  rcases h with hrefusal | hinfinite | ⟨rfl, members, n, hstands, hdeep⟩
  · exact .inl hrefusal
  · exact .inr (.inl hinfinite)
  · exact .inr (.inr ⟨rfl, members, n, hstands, by omega⟩)

/- The induction is on the document. A step down into a list or an object is a step further from the
document's root and from the outermost action alike, so what lies in a part lies in the whole. -/
mutual

/-- **An action is not read only for a cause that lies in its document.** -/
theorem failsFor_read (supply : Supply) (place : List Nat) (raw : Json) :
    FailsFor (LiesIn raw place.length) (read supply place raw) := by
  match raw with
  | .object members =>
    unfold read
    split
    · next hdeep => exact failsFor_error (.inr (.inr ⟨rfl, members, 0, .self, hdeep⟩))
    · exact failsFor_ofEntries (fun cause => .inl) (covers_readMembers supply place 0 members
        fun entry => id) _
  | .null | .bool _ | .int _ | .float _ | .text _ | .list _ =>
    unfold read
    exact failsFor_error (.inl trivial)

theorem failsFor_readAll (supply : Supply) (place : List Nat) (index : Nat) (items : List Json)
    {whole : List Json} (h : ∀ item ∈ items, item ∈ whole) :
    FailsFor (LiesIn (.list whole) place.length) (readAll supply place index items) := by
  match items with
  | [] =>
    unfold readAll
    exact failsFor_ok _ []
  | item :: more =>
    obtain ⟨hitem, hmore⟩ := List.forall_mem_cons.1 h
    unfold readAll
    refine ((failsFor_read supply (index :: place) item).mono fun cause => .item hitem).bind
      fun action _ => ?_
    refine (failsFor_readAll supply place (index + 1) more hmore).bind fun actions _ => ?_
    exact failsFor_ok _ _

theorem covers_readMembers (supply : Supply) (place : List Nat) (index : Nat) (members : Members)
    {whole : Members} (h : ∀ entry ∈ members, entry ∈ whole) :
    Entry.All (Covers (LiesIn (.object whole) place.length))
      (readMembers supply place index members) := by
  match members with
  | [] =>
    unfold readMembers
    exact fun entry hentry => absurd hentry List.not_mem_nil
  | (name, .list items) :: members =>
    obtain ⟨hentry, hmembers⟩ := List.forall_mem_cons.1 h
    unfold readMembers
    refine List.forall_mem_cons.2 ⟨⟨nofun, ?_⟩, covers_readMembers supply place _ members hmembers⟩
    exact (failsFor_readAll supply (index :: place) 0 items fun item => id).mono
      fun cause => .member hentry
  | (name, .null) :: members | (name, .bool _) :: members | (name, .int _) :: members
  | (name, .text _) :: members | (name, .object _) :: members =>
    obtain ⟨-, hmembers⟩ := List.forall_mem_cons.1 h
    unfold readMembers
    exact List.forall_mem_cons.2 ⟨⟨nofun, failsFor_error (.inl trivial)⟩,
      covers_readMembers supply place _ members hmembers⟩
  | (name, .float x) :: members =>
    obtain ⟨hentry, hmembers⟩ := List.forall_mem_cons.1 h
    unfold readMembers
    refine List.forall_mem_cons.2 ⟨⟨fun hinfinite => ?_, failsFor_error (.inl trivial)⟩,
      covers_readMembers supply place _ members hmembers⟩
    exact .inr (.inl ⟨rfl, .float x, 1, .member hentry .self, hinfinite⟩)

end

end Action
end DesktopMacro
