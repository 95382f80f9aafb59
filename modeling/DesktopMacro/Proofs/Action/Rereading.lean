/-
A task is read back from its members.

Every type of field reads what is written of it: a text, a whole number, a truth value, a word of a
vocabulary, and keys that have their own names. So whatever holds the members of a task gives the
task back, and the header in order, since delays are never negative. Tasks that were read are
settled: their keys have their own names.
-/
import DesktopMacro.Proofs.Action.Spellings
import DesktopMacro.Proofs.Computation
import DesktopMacro.Proofs.Key.Names

set_option autoImplicit false

namespace DesktopMacro

/-! ## Words -/

namespace Vocabulary

/-- A word is read back if it is found. -/
theorem read_word {α : Type} [Vocabulary α] {member : α} (h : find? (word member) = some member) :
    read (.text (word member)) = .ok member := by
  have hwritable : (Json.text (word member)).isWritable = true := rfl
  unfold read Json.display
  rw [if_pos hwritable]
  dsimp only
  rw [h]

/-- A vocabulary in which every word is found again. -/
def FindsWords (α : Type) [Vocabulary α] : Prop := ∀ member : α, find? (word member) = some member

/-- **Every vocabulary finds its words again.** One statement holds all of them, since the words of
one vocabulary are looked up like those of another. -/
structure AllFindWords : Prop where
  gesture : FindsWords MouseGesture
  mode : FindsWords KeyboardMode
  variableOperation : FindsWords VariableOperation
  browserOperation : FindsWords BrowserOperation
  operandSource : FindsWords OperandSource
  comparison : FindsWords Comparison
  pathSource : FindsWords PathSource
  destination : FindsWords FileDestination
  encoding : FindsWords FileEncoding

theorem allFindWords : AllFindWords := by
  constructor <;> rintro (_ | _) <;> decide +kernel

end Vocabulary

/-! ## Fields -/

namespace Field

variable {source : Source} {name : String}

theorem orElse_of_some {α : Type} {raw : Json} (h : source name = some raw) (current : α)
    (convert : Json → Except Cause α) : orElse source name current convert = convert raw := by
  unfold orElse
  rw [h]

theorem text_of_some {s : String} (h : source name = some (.text s)) (current : String) :
    text source name current = .ok s := orElse_of_some h _ _

theorem integer_of_some {n : Int} (h : source name = some (.int n)) (current : Int) :
    integer source name current = .ok n := orElse_of_some h _ _

theorem bool_of_some {b : Bool} (h : source name = some (.bool b)) (current : Bool) :
    bool source name current = .ok b := by
  unfold bool
  rw [orElse_of_some h]
  unfold boolOf Json.isEmpty
  dsimp only
  rw [Bool.not_not]

theorem word_of_some {α : Type} [Vocabulary α] {member : α}
    (h : source name = some (.text (Vocabulary.word member)))
    (hmember : Vocabulary.find? (Vocabulary.word member) = some member) (current : α) :
    word source name current = .ok member :=
  (orElse_of_some h _ _).trans (Vocabulary.read_word hmember)

/-- Keys that have their own names are read back. -/
theorem keysOf_texts {keys : List String} (h : ∀ key ∈ keys, Key.normalize key = key) :
    keysOf (.list (keys.map .text)) = .ok keys := by
  unfold keysOf
  dsimp only
  induction keys with
  | nil => rfl
  | cons key keys ih =>
    have hkey : (Json.asText (.text key)).map Key.normalize = .ok key := by
      change Except.ok (Key.normalize key) = _
      rw [h key List.mem_cons_self]
    rw [List.map_cons, List.mapM_cons, hkey, ih fun other hother => h other (.tail _ hother)]
    rfl

theorem keys_of_some {keys : List String} (h : source name = some (.list (keys.map .text)))
    (hkeys : ∀ key ∈ keys, Key.normalize key = key) (current : List String) :
    Field.keys source name current = .ok keys :=
  (orElse_of_some h _ _).trans (keysOf_texts hkeys)

end Field

/-! ## Records of fields -/

section Records

variable {source : Source}

/-- **A header in order**: a delay below zero is none. -/
def Action.Header.ordered (header : Header) : Header :=
  { header with delayBefore := max 0 header.delayBefore }

theorem Action.Header.ordered_eq_self {header : Header} (hdelay : 0 ≤ header.delayBefore) :
    header.ordered = header := by
  simp [ordered, Int.max_eq_right hdelay]

/-- **A header is read back in order.** -/
theorem Action.Header.read_of_holds {header : Header} (h : source.Holds header.members)
    (initial : Header) : initial.read source = .ok header.ordered := by
  unfold Header.members Source.Holds at h
  simp only [List.forall_mem_cons] at h
  obtain ⟨hname, hdescription, hbefore, henabled, htolerant, hid, -⟩ := h
  unfold Header.read
  rw [Field.text_of_some hname, Field.text_of_some hdescription, Field.integer_of_some hbefore,
    Field.bool_of_some henabled, Field.bool_of_some htolerant, Field.text_of_some hid]
  rfl

/-- **A mouse task is read back.** -/
theorem MouseTask.read_of_holds {task : MouseTask} (h : source.Holds task.members)
    (initial : MouseTask) : initial.read source = .ok task := by
  unfold MouseTask.members Source.Holds at h
  simp only [List.forall_mem_cons] at h
  obtain ⟨hx, hy, hwheel, hgesture, -⟩ := h
  unfold MouseTask.read
  rw [Field.integer_of_some hx, Field.integer_of_some hy, Field.integer_of_some hwheel,
    Field.word_of_some hgesture (Vocabulary.allFindWords.gesture _)]
  rfl

/-- **A keyboard task is read back** if its keys have their own names. -/
theorem KeyboardTask.read_of_holds {task : KeyboardTask}
    (hkeys : ∀ key ∈ task.keys, Key.normalize key = key) (h : source.Holds task.members)
    (initial : KeyboardTask) : initial.read source = .ok task := by
  unfold KeyboardTask.members Source.Holds at h
  simp only [List.forall_mem_cons] at h
  obtain ⟨hmode, htext, hlist, hdelay, hclipboard, -⟩ := h
  unfold KeyboardTask.read
  rw [Field.word_of_some hmode (Vocabulary.allFindWords.mode _), Field.text_of_some htext,
    Field.keys_of_some hlist hkeys, Field.integer_of_some hdelay, Field.bool_of_some hclipboard]
  rfl

/-- **A pause is read back.** -/
theorem WaitTask.read_of_holds {task : WaitTask} (h : source.Holds task.members)
    (initial : WaitTask) : initial.read source = .ok task := by
  unfold WaitTask.members Source.Holds at h
  simp only [List.forall_mem_cons] at h
  obtain ⟨hduration, -⟩ := h
  unfold WaitTask.read
  rw [Field.integer_of_some hduration]
  rfl

/-- **A task on a variable is read back.** -/
theorem VariableTask.read_of_holds {task : VariableTask} (h : source.Holds task.members)
    (initial : VariableTask) : initial.read source = .ok task := by
  unfold VariableTask.members Source.Holds at h
  simp only [List.forall_mem_cons] at h
  obtain ⟨hname, hvalue, hstep, hindex, hoperation, -⟩ := h
  unfold VariableTask.read
  rw [Field.text_of_some hname, Field.text_of_some hvalue, Field.integer_of_some hstep,
    Field.integer_of_some hindex,
    Field.word_of_some hoperation (Vocabulary.allFindWords.variableOperation _)]
  rfl

/-- **A task on the clipboard is read back.** -/
theorem ClipboardTask.read_of_holds {task : ClipboardTask} (h : source.Holds task.members)
    (initial : ClipboardTask) : initial.read source = .ok task := by
  unfold ClipboardTask.members Source.Holds at h
  simp only [List.forall_mem_cons] at h
  obtain ⟨htext, happend, huse, hvariable, hretries, hpause, -⟩ := h
  unfold ClipboardTask.read
  rw [Field.text_of_some htext, Field.bool_of_some happend, Field.bool_of_some huse,
    Field.text_of_some hvariable, Field.integer_of_some hretries, Field.integer_of_some hpause]
  rfl

/-- **A payload task is read back.** -/
theorem PayloadTask.read_of_holds {task : PayloadTask} (h : source.Holds task.members)
    (initial : PayloadTask) : initial.read source = .ok task := by
  unfold PayloadTask.members Source.Holds at h
  simp only [List.forall_mem_cons] at h
  obtain ⟨hclipboard, htemplate, hx, hy, hretries, hpause, -⟩ := h
  unfold PayloadTask.read
  rw [Field.bool_of_some hclipboard, Field.text_of_some htemplate, Field.integer_of_some hx,
    Field.integer_of_some hy, Field.integer_of_some hretries, Field.integer_of_some hpause]
  rfl

/-- **A task in the browser is read back.** -/
theorem BrowserTask.read_of_holds {task : BrowserTask} (h : source.Holds task.members)
    (initial : BrowserTask) : initial.read source = .ok task := by
  unfold BrowserTask.members Source.Holds at h
  simp only [List.forall_mem_cons] at h
  obtain ⟨hoperation, hselector, hscript, hx, hy, hlast, -⟩ := h
  unfold BrowserTask.read
  rw [Field.word_of_some hoperation (Vocabulary.allFindWords.browserOperation _),
    Field.text_of_some hselector, Field.text_of_some hscript, Field.integer_of_some hx,
    Field.integer_of_some hy, Field.bool_of_some hlast]
  rfl

/-- **A task on a file is read back.** -/
theorem FileTask.read_of_holds {task : FileTask} (h : source.Holds task.members)
    (initial : FileTask) : FileTask.read source initial = .ok task := by
  unfold FileTask.members Source.Holds at h
  simp only [List.forall_mem_cons] at h
  obtain ⟨hsource, hpath, hvariable, hdestination, htarget, hencoding, htolerant, -⟩ := h
  unfold FileTask.read
  rw [Field.word_of_some hsource (Vocabulary.allFindWords.pathSource _),
    Field.text_of_some hpath, Field.text_of_some hvariable,
    Field.word_of_some hdestination (Vocabulary.allFindWords.destination _),
    Field.text_of_some htarget, Field.word_of_some hencoding (Vocabulary.allFindWords.encoding _),
    Field.bool_of_some htolerant]
  rfl

end Records

namespace Action

/-! ## Settled tasks -/

/-- **A settled task**: its keys have their own names. -/
def Task.Settled : Task → Prop
  | .keyboard spec => ∀ key ∈ spec.keys, Key.normalize key = key
  | _ => True

/-- **A settled task is read back** from whatever holds its members. -/
theorem Task.Settled.read {spec : Task} (hspec : spec.Settled) {source : Source}
    (h : source.Holds spec.members) {initial : Task}
    (hinitial : Task.initial? spec.kind = some initial) : initial.read source = .ok spec := by
  cases spec with
  | mouse task =>
    cases hinitial
    exact bind_pure_ok Task.mouse (MouseTask.read_of_holds h _)
  | keyboard task =>
    cases hinitial
    exact bind_pure_ok Task.keyboard (KeyboardTask.read_of_holds hspec h _)
  | wait task =>
    cases hinitial
    exact bind_pure_ok Task.wait (WaitTask.read_of_holds h _)
  | «variable» task =>
    cases hinitial
    exact bind_pure_ok Task.variable (VariableTask.read_of_holds h _)
  | clipboard task =>
    cases hinitial
    exact bind_pure_ok Task.clipboard (ClipboardTask.read_of_holds h _)
  | payload task =>
    cases hinitial
    exact bind_pure_ok Task.payload (PayloadTask.read_of_holds h _)
  | browser task =>
    cases hinitial
    exact bind_pure_ok Task.browser (BrowserTask.read_of_holds h _)
  | file task =>
    cases hinitial
    exact bind_pure_ok Task.file (FileTask.read_of_holds h _)

/-! ## What is read -/

/-- Keys that are read have their own names. -/
theorem normalize_of_keysOf {raw : Json} {keys : List String} (h : Field.keysOf raw = .ok keys) :
    ∀ key ∈ keys, Key.normalize key = key := by
  unfold Field.keysOf at h
  split at h
  · cases h
    intro key hkey
    obtain ⟨part, -, rfl⟩ := List.mem_map.1 hkey
    exact Key.normalize_normalize part
  · next items =>
    induction items generalizing keys with
    | nil =>
      cases h
      simp
    | cons item items ih =>
      rw [List.mapM_cons] at h
      obtain ⟨key, hkey, h⟩ := of_bind h
      obtain ⟨others, hothers, h⟩ := of_bind h
      cases h
      have hfirst : Key.normalize key = key := by
        cases hitem : Json.asText item with
        | error cause =>
          rw [hitem] at hkey
          cases hkey
        | ok text =>
          rw [hitem] at hkey
          cases hkey
          exact Key.normalize_normalize text
      exact List.forall_mem_cons.2 ⟨hfirst, ih hothers⟩
  · cases h

/-- What a keyboard task reads for its keys are its keys afterwards. -/
theorem keys_of_readKeyboard {source : Source} {initial task : KeyboardTask}
    (h : initial.read source = .ok task) :
    Field.keys source "keys" initial.keys = .ok task.keys := by
  unfold KeyboardTask.read at h
  obtain ⟨mode, -, h⟩ := of_bind h
  obtain ⟨text, -, h⟩ := of_bind h
  obtain ⟨keys, hkeys, h⟩ := of_bind h
  obtain ⟨charDelay, -, h⟩ := of_bind h
  obtain ⟨useClipboard, -, h⟩ := of_bind h
  cases h
  exact hkeys

/-- The keys of a keyboard task that is read have their own names. -/
theorem normalize_of_readKeyboard {source : Source} {task : KeyboardTask}
    (h : KeyboardTask.initial.read source = .ok task) :
    ∀ key ∈ task.keys, Key.normalize key = key := by
  have hkeys := keys_of_readKeyboard h
  unfold Field.keys Field.orElse at hkeys
  split at hkeys
  · rw [← Except.ok.inj hkeys]
    exact fun key hkey => absurd hkey List.not_mem_nil
  · exact normalize_of_keysOf hkeys

/-- **A task that is read is settled.** -/
theorem Task.settled_of_read {kind : Kind} {initial spec : Task} {source : Source}
    (hinitial : Task.initial? kind = some initial) (h : initial.read source = .ok spec) :
    spec.Settled := by
  cases kind with
  | keyboard =>
    cases hinitial
    obtain ⟨task, htask, h⟩ := of_bind h
    cases h
    exact normalize_of_readKeyboard htask
  | loop | choice => cases hinitial
  | _ =>
    cases hinitial
    obtain ⟨task, -, h⟩ := of_bind h
    cases h
    trivial

/-- A delay that is read is not negative. -/
theorem Header.delay_of_read {source : Source} {initial header : Header}
    (h : initial.read source = .ok header) : 0 ≤ header.delayBefore := by
  unfold Header.read at h
  obtain ⟨name, -, h⟩ := of_bind h
  obtain ⟨description, -, h⟩ := of_bind h
  obtain ⟨delay, -, h⟩ := of_bind h
  obtain ⟨enabled, -, h⟩ := of_bind h
  obtain ⟨continueOnError, -, h⟩ := of_bind h
  obtain ⟨id, -, h⟩ := of_bind h
  cases h
  exact Int.le_max_left 0 delay

end Action
end DesktopMacro
