/-
Committing an editor.

A commit takes all values of the editor or none. It fails before anything is put into the action if
some value cannot be coerced; otherwise every field has what it took, the action has the name and
the description that its fields call for, and the editor shows the action. The words for the action
are found last of all, and only a number that is too long to be written keeps them from being found.
What an editor shows is taken back as it is, and the words for an action do not change when they are
found again, so whoever commits an editor without an edit changes nothing else.
-/
import DesktopMacro.Proofs.Action.Documents
import DesktopMacro.Proofs.Action.Overwriting
import DesktopMacro.Proofs.Json.Reading

set_option autoImplicit false

namespace DesktopMacro.Action

/-! ## The words for an action -/

section Words

variable {action : Action}

@[simp] theorem header_withHeader (action : Action) (header : Header) :
    (action.withHeader header).header = header := by
  cases action <;> rfl

@[simp] theorem kind_withHeader (action : Action) (header : Header) :
    (action.withHeader header).kind = action.kind := by
  cases action <;> rfl

@[simp] theorem withHeader_withHeader (action : Action) (header other : Header) :
    (action.withHeader header).withHeader other = action.withHeader other := by
  cases action <;> rfl

@[simp] theorem describe?_withHeader (action : Action) (header : Header) :
    (action.withHeader header).describe? = action.describe? := by
  cases action <;> rfl

/-- **An action that can be displayed**: its fields give it a name, or it has one, or it can be
described. -/
def IsDisplayable (action : Action) : Prop :=
  action.kind = .keyboard ∨ action.header.name ≠ "" ∨ action.IsDescribable

/-- Only a keyboard action takes its name and its description from its fields. -/
theorem display?_of_ne_keyboard (h : action.kind ≠ .keyboard) :
    action.display? = (do return (← action.label?, action.header.description)) := by
  cases action with
  | task header spec =>
    cases spec with
    | keyboard spec => exact absurd rfl h
    | _ => rfl
  | loop header spec actions => rfl
  | choice header spec thenActions elseActions => rfl

theorem display?_withHeader_of_keyboard (h : action.kind = .keyboard) (header : Header) :
    (action.withHeader header).display? = action.display? := by
  cases action with
  | task header' spec =>
    cases spec with
    | keyboard spec => rfl
    | _ => cases h
  | loop header' spec actions => cases h
  | choice header' spec thenActions elseActions => cases h

theorem label?_of_name (h : action.header.name ≠ "") : action.label? = .ok action.header.name := by
  unfold label?
  rw [if_neg (by simpa using h)]

theorem label?_of_no_name (h : action.header.name = "") : action.label? = action.describe? := by
  unfold label?
  rw [if_pos (by simpa using h)]

/-- **An action that can be displayed has words.** -/
theorem IsDisplayable.display? (h : action.IsDisplayable) :
    ∃ name description, action.display? = .ok (name, description) := by
  by_cases hkeyboard : action.kind = .keyboard
  · cases action with
    | task header spec =>
      cases spec with
      | keyboard spec => exact ⟨_, _, rfl⟩
      | _ => cases hkeyboard
    | loop header spec actions => cases hkeyboard
    | choice header spec thenActions elseActions => cases hkeyboard
  · rw [display?_of_ne_keyboard hkeyboard]
    by_cases hname : action.header.name = ""
    · have hdescribable : action.IsDescribable :=
        (h.resolve_left hkeyboard).resolve_left fun hne => hne hname
      rw [label?_of_no_name hname, describe?, if_pos hdescribable]
      exact ⟨_, _, rfl⟩
    · rw [label?_of_name hname]
      exact ⟨_, _, rfl⟩

/-- An action that cannot be displayed has a number that is too long to be written. -/
theorem display?_of_not_isDisplayable (h : ¬ action.IsDisplayable) :
    action.display? = .error .numberUnwritable := by
  unfold IsDisplayable at h
  push Not at h
  obtain ⟨hkeyboard, hname, hdescribable⟩ := h
  rw [display?_of_ne_keyboard hkeyboard, label?_of_no_name hname, describe?, if_neg hdescribable]
  rfl

/-- The action with a name and a description. -/
def displayedAs (action : Action) (name description : String) : Action :=
  action.withHeader { action.header with name, description }

@[simp] theorem header_displayedAs (action : Action) (name description : String) :
    (action.displayedAs name description).header = { action.header with name, description } :=
  header_withHeader action _

theorem displayedAs_displayedAs (action : Action) (name description : String) :
    (action.displayedAs name description).displayedAs name description
      = action.displayedAs name description := by
  unfold displayedAs
  rw [header_withHeader, withHeader_withHeader]

theorem displayedAs_self (action : Action) :
    action.displayedAs action.header.name action.header.description = action := by
  cases action <;> rfl

/-- A name and a description leave the frame of an action. -/
theorem keepsFrame_displayedAs (action : Action) (name description : String) :
    action.KeepsFrame (action.displayedAs name description) := by
  cases action <;> exact ⟨rfl, rfl, rfl⟩

theorem withDisplay?_of_display? {name description : String}
    (h : action.display? = .ok (name, description)) :
    action.withDisplay? = .ok (action.displayedAs name description) := by
  unfold withDisplay?
  rw [h]
  rfl

/-- **Words are found again**: the name and the description that an action has been given are those
that its fields call for. -/
theorem display?_displayedAs {name description : String}
    (h : action.display? = .ok (name, description)) :
    (action.displayedAs name description).display? = .ok (name, description) := by
  by_cases hkeyboard : action.kind = .keyboard
  · exact (display?_withHeader_of_keyboard hkeyboard _).trans h
  · rw [display?_of_ne_keyboard hkeyboard] at h
    obtain ⟨label, hlabel, hpair⟩ := of_bind h
    cases hpair
    have hagain : (action.displayedAs name action.header.description).label? = .ok name := by
      by_cases hempty : name = ""
      · -- The words for the action are empty, so they are asked for again.
        have hnone : action.header.name = "" := by
          by_contra hname
          rw [label?_of_name hname] at hlabel
          exact hname ((Except.ok.inj hlabel).trans hempty)
        rw [label?_of_no_name (by simpa using hempty), displayedAs, describe?_withHeader,
          ← label?_of_no_name hnone, hlabel]
      · rw [label?_of_name (by simpa using hempty), header_displayedAs]
    rw [display?_of_ne_keyboard (by simpa [displayedAs] using hkeyboard), hagain,
      header_displayedAs]
    rfl

end Words

/-! ## What a commit comes to -/

namespace Editor

variable {editor : Editor} {action written : Action}

/-- **The action and the editor after a commit.** One that fails leaves the values of the editor. -/
def afterCommit (editor : Editor) (action : Action) : Action × Editor :=
  ((editor.commit action).1, (editor.commit action).2.toOption.getD editor)

theorem commit_of_uncoerced {cause : Cause} (h : action.readFields editor.source = .error cause) :
    editor.commit action = (action, .error cause) := by
  unfold commit
  rw [h]

theorem commit_of_displayed (h : action.readFields editor.source = .ok written)
    {name description : String} (hdisplay : written.display? = .ok (name, description)) :
    editor.commit action = (written.displayedAs name description,
      .ok (ofAction (written.displayedAs name description))) := by
  unfold commit
  rw [h]
  dsimp only
  rw [withDisplay?_of_display? hdisplay]

/-- An action that cannot be displayed has its new fields already. -/
theorem commit_of_undisplayed (h : action.readFields editor.source = .ok written)
    {cause : Cause} (hdisplay : written.display? = .error cause) :
    editor.commit action = (written, .error cause) := by
  unfold commit
  rw [h]
  dsimp only
  unfold withDisplay?
  rw [hdisplay]
  rfl

/-- **What a commit leaves**: the action as it was if the commit fails, or what the action was read
over by, under some name and description. -/
theorem commit_cases (editor : Editor) (action : Action) :
    (∃ cause, editor.commit action = (action, .error cause))
      ∨ ∃ written name description, action.readFields editor.source = .ok written
        ∧ (editor.commit action).1 = written.displayedAs name description := by
  cases hread : action.readFields editor.source with
  | error cause =>
    left
    exact ⟨cause, commit_of_uncoerced hread⟩
  | ok written =>
    right
    cases hdisplay : written.display? with
    | error cause =>
      refine ⟨written, written.header.name, written.header.description, rfl, ?_⟩
      rw [commit_of_undisplayed hread hdisplay, displayedAs_self]
    | ok words =>
      obtain ⟨name, description⟩ := words
      refine ⟨written, name, description, rfl, ?_⟩
      rw [commit_of_displayed hread hdisplay]

end Editor

/-! ## Numbers -/

/-- The numbers in the words for a task are among its fields. -/
theorem Task.exists_member {spec : Task} {n : Int} (h : n ∈ spec.shownNumbers) :
    ∃ name, (name, Json.int n) ∈ spec.members := by
  cases spec with
  | mouse spec =>
    have hfield : n = spec.x ∨ n = spec.y ∨ n = spec.wheel := by
      unfold shownNumbers MouseTask.shownNumbers at h
      dsimp only at h
      split at h <;> simp at h <;> tauto
    rcases hfield with rfl | rfl | rfl
    · exact ⟨"x", by simp [members, MouseTask.members]⟩
    · exact ⟨"y", by simp [members, MouseTask.members]⟩
    · exact ⟨"wheel_delta", by simp [members, MouseTask.members]⟩
  | wait spec =>
    rw [List.mem_singleton.1 h]
    exact ⟨"wait_time", by simp [members, WaitTask.members]⟩
  | «variable» spec =>
    have hfield : n = spec.step ∨ n = spec.index := by
      unfold shownNumbers VariableTask.shownNumbers at h
      dsimp only at h
      split at h <;> simp at h <;> tauto
    rcases hfield with rfl | rfl
    · exact ⟨"increment_value", by simp [members, VariableTask.members]⟩
    · exact ⟨"list_index", by simp [members, VariableTask.members]⟩
  | browser spec =>
    have hfield : n = spec.x ∨ n = spec.y := by
      unfold shownNumbers BrowserTask.shownNumbers at h
      dsimp only at h
      split at h
      · simpa using h
      · cases h
    rcases hfield with rfl | rfl
    · exact ⟨"x_result", by simp [members, BrowserTask.members]⟩
    · exact ⟨"y_result", by simp [members, BrowserTask.members]⟩
  | keyboard spec | clipboard spec | payload spec | file spec => cases h

theorem exists_member {action : Action} {n : Int} (h : n ∈ action.shownNumbers) :
    ∃ name, (name, Json.int n) ∈ action.editableMembers := by
  cases action with
  | task header spec =>
    obtain ⟨name, hmem⟩ := Task.exists_member h
    exact ⟨name, List.mem_append_right _ hmem⟩
  | loop header spec actions =>
    rw [List.mem_singleton.1 h]
    refine ⟨"max_iterations", ?_⟩
    simp [editableMembers, LoopSpec.membersBefore]
  | choice header spec thenActions elseActions => cases h

/-- **What a value is coerced to can be written** if it is a number and the value can be written. -/
theorem isWritable_of_integerOf {name : String} {raw : Json} {n : Int}
    (hraw : raw.isWritable = true) (h : Field.integerOf name raw = .ok n) :
    Integer.IsWritable n := by
  unfold Field.integerOf at h
  dsimp only at h
  cases raw with
  | bool b =>
    cases h
    cases b <;> decide
  | int k =>
    cases h
    simpa [Json.isWritable] using hraw
  | float x =>
    dsimp only at h
    split at h
    · next htruncate =>
      cases h
      exact Binary64.isWritable_of_truncate htruncate
    · cases h
    · cases h
  | text s =>
    dsimp only at h
    split at h
    · next hread =>
      cases h
      exact Integer.isWritable_of_read hread
    · cases h
  | null | list _ | object _ => cases h

theorem isWritable_of_coerce {value : FieldValue} {name : String} {raw : Json} {n : Int}
    (hraw : raw.isWritable = true) (h : value.coerce name raw = .ok (.int n)) :
    Integer.IsWritable n := by
  unfold FieldValue.coerce at h
  cases value with
  | whole current =>
    obtain ⟨k, hk, hint⟩ := of_map h
    cases hint
    exact isWritable_of_integerOf hraw hk
  | truth b => cases h
  | text s =>
    obtain ⟨text, -, hint⟩ := of_map h
    cases hint
  | word member =>
    obtain ⟨other, -, hint⟩ := of_map h
    cases hint
  | keys names =>
    obtain ⟨others, -, hint⟩ := of_map h
    cases hint
  | condition current =>
    cases raw with
    | object members =>
      obtain ⟨other, -, hint⟩ := of_map h
      cases hint
    | _ => cases h

/-- A number that is put into an action is the one that was taken, or none in place of it. -/
theorem int_of_clampDelay {member : String × Json} {name : String} {n : Int}
    (h : (name, Json.int n) = clampDelay member) :
    ∃ k, member.2 = .int k ∧ (n = k ∨ n = max 0 k) := by
  unfold clampDelay at h
  split at h
  · next k =>
    cases h
    exact ⟨k, rfl, .inr rfl⟩
  · cases h
    exact ⟨n, rfl, .inl rfl⟩

/-- What a field takes of a source can be written if it is a number: the source's values can be
written, and so can the values of the fields that the source has nothing for. -/
theorem isWritable_of_takes {source : Source} {field : String × FieldValue} {name : String}
    {n : Int}
    (hsource : ∀ name raw, source name = some raw → raw.isWritable = true)
    (hleft : source field.1 = none → field.2.shown.isWritable = true)
    (h : Takes source field (name, .int n)) : Integer.IsWritable n := by
  obtain ⟨value, htake, hmember⟩ := h
  have hvalue : ∀ k, value = .int k → Integer.IsWritable k := by
    rintro k rfl
    cases hfield : source field.1 with
    | none =>
      rw [FieldValue.take_none hfield] at htake
      have hshown := hleft hfield
      rw [Except.ok.inj htake] at hshown
      simpa [Json.isWritable] using hshown
    | some raw =>
      rw [FieldValue.take_some hfield] at htake
      exact isWritable_of_coerce (hsource _ raw hfield) htake
  obtain ⟨k, hk, hn⟩ := int_of_clampDelay hmember
  rcases hn with rfl | rfl
  · exact hvalue _ hk
  · rcases Int.le_total 0 k with hpos | hneg
    · rw [Int.max_eq_right hpos]
      exact hvalue k hk
    · rw [Int.max_eq_left hneg]
      decide

/-! ## Commits -/

/-- **An action has taken a source over**: every field that may be edited has what it takes of the
source against the action as it was, the frame is the same, and then the name and the description
are those that the new fields call for. -/
def TakesOver (source : Source) (action after : Action) : Prop :=
  ∃ written name description, action.KeepsFrame written
    ∧ List.Forall₂ (Takes source) action.fields written.editableMembers
    ∧ written.display? = .ok (name, description)
    ∧ after = written.displayedAs name description

namespace Editor

variable {editor : Editor} {action : Action}

/-- Whatever is committed can be described, if the numbers can be written. -/
theorem isDescribable_of_readFields {written : Action}
    (hvalues : ∀ member ∈ editor.values, member.2.isWritable = true)
    (hleft : ∀ field ∈ action.fields,
      editor.source field.1 = none → field.2.shown.isWritable = true)
    (h : action.readFields editor.source = .ok written) : written.IsDescribable := by
  have hsource : ∀ name raw, editor.source name = some raw → raw.isWritable = true := by
    intro name raw hraw
    unfold source at hraw
    have hobject : (Json.object editor.values).isWritable = true := by
      rw [Json.isWritable]
      exact Json.membersWritable_iff.2 hvalues
    exact Json.isWritable_get? hobject hraw
  -- A number in the words for an action is in one of its fields, and so some field took it.
  intro n hn
  obtain ⟨name, hmember⟩ := exists_member hn
  obtain ⟨field, hfield, htakes⟩ := exists_of_forall₂ (takes_of_readFields h) _ hmember
  exact isWritable_of_takes hsource (hleft field hfield) htakes

/-- **The editor refuses to be committed**: a value cannot be coerced, and the action and the values
are as they were. -/
def Refuses (editor : Editor) (action : Action) : Prop :=
  ∃ cause, (editor.commit action).2 = .error cause
    ∧ editor.afterCommit action = (action, editor)
    ∧ ∃ field ∈ action.fields, ∃ raw,
      editor.source field.1 = some raw ∧ field.2.coerce field.1 raw = .error cause

/-- **The editor is committed**: the action takes the values over, in its old frame, and the editor
shows the action. -/
def Accepts (editor : Editor) (action : Action) : Prop :=
  ∃ after, editor.commit action = (after, .ok (ofAction after))
    ∧ editor.afterCommit action = (after, ofAction after)
    ∧ action.KeepsFrame after ∧ action.TakesOver editor.source after

/-- **A commit takes all values or none**, and names that are none of the fields of the action make
no difference. -/
theorem commit_takes_all_or_none
    (hvalues : ∀ member ∈ editor.values, member.2.isWritable = true)
    (hleft : ∀ field ∈ action.fields,
      editor.source field.1 = none → field.2.shown.isWritable = true) :
    (editor.Refuses action ∨ editor.Accepts action)
      ∧ ∀ other : Editor,
        (∀ field ∈ action.fields, other.source field.1 = editor.source field.1) →
        other.commit action = editor.commit action := by
  constructor
  · cases hread : action.readFields editor.source with
    | error cause =>
      have hcommit := commit_of_uncoerced hread
      refine .inl ⟨cause, by rw [hcommit], ?_, uncoerced_of_readFields hread⟩
      unfold afterCommit
      rw [hcommit]
      rfl
    | ok written =>
      have hframe := keepsFrame_of_readFields hread
      have hdisplayable : written.IsDisplayable :=
        .inr (.inr (isDescribable_of_readFields hvalues hleft hread))
      obtain ⟨name, description, hdisplay⟩ := hdisplayable.display?
      have hcommit := commit_of_displayed hread hdisplay
      refine .inr ⟨_, hcommit, ?_, hframe.trans (keepsFrame_displayedAs written name description),
        written, name, description, hframe, takes_of_readFields hread, hdisplay, rfl⟩
      unfold afterCommit
      rw [hcommit]
      rfl
  · intro other hother
    unfold commit
    rw [readFields_congr hother]

/-! ### A click that is edited -/

/-- An editor on a click with a text for a number, a delay below zero, and a name that is none. -/
def loosely : Editor :=
  ⟨[("x", .text " 12 "), ("delay_before", .int (-5)), ("colour", .null)]⟩

def clicking : Action := .task (.initial "") (.mouse .initial)

theorem commit_takes_loosely :
    (∀ member ∈ loosely.values, member.2.isWritable = true)
      ∧ (∀ field ∈ clicking.fields,
        loosely.source field.1 = none → field.2.shown.isWritable = true)
      ∧ (loosely.Refuses clicking ∨ loosely.Accepts clicking)
      ∧ (loosely.commit clicking).1 = .task { Header.initial "" with name := "LeftClick (12, 0)" }
        (.mouse { MouseTask.initial with x := 12 }) := by
  have hvalues : ∀ member ∈ loosely.values, member.2.isWritable = true := by decide
  have hleft : ∀ field ∈ clicking.fields,
      loosely.source field.1 = none → field.2.shown.isWritable = true := by decide
  exact ⟨hvalues, hleft, (commit_takes_all_or_none hvalues hleft).1, rfl⟩

end Editor

/-! ## Nothing edited -/

section Unedited

variable {action : Action}

/-- The keys of a settled task have their own names, and nothing else has to be in order. -/
theorem Task.settled_fields {spec : Task} (h : spec.Settled) :
    ∀ field ∈ spec.fields, field.2.Settled := by
  cases spec with
  | keyboard spec =>
    have hkeys : ∀ key ∈ spec.keys, Key.normalize key = key := h
    simpa [Task.fields, KeyboardTask.fields, FieldValue.Settled] using hkeys
  | _ =>
    simp [Task.fields, MouseTask.fields, WaitTask.fields, VariableTask.fields, ClipboardTask.fields,
      PayloadTask.fields, BrowserTask.fields, FileTask.fields, FieldValue.Settled]

/-- The values of a settled action are settled, and its delay is not negative. -/
theorem Settled.fields {depth : Nat} (h : action.Settled depth) :
    (∀ field ∈ action.fields, field.2.Settled) ∧ 0 ≤ action.header.delayBefore := by
  have hheader : ∀ field ∈ action.header.fields, field.2.Settled := by
    simp [Header.fields, FieldValue.Settled]
  cases action with
  | task header spec =>
    refine ⟨List.forall_mem_append.2 ⟨hheader, ?_⟩, h.2.1⟩
    exact Task.settled_fields h.2.2
  | loop header spec actions =>
    refine ⟨List.forall_mem_append.2 ⟨hheader, ?_⟩, h.2.1⟩
    simp [ownFields, LoopSpec.fields, FieldValue.Settled]
  | choice header spec thenActions elseActions =>
    refine ⟨List.forall_mem_append.2 ⟨hheader, ?_⟩, h.2.1⟩
    simp [ownFields, ChoiceSpec.fields, FieldValue.Settled]

theorem Settled.displayedAs {depth : Nat} (h : action.Settled depth) (name description : String) :
    (action.displayedAs name description).Settled depth := by
  cases action <;> exact h

/-- **A settled action takes back what an editor shows of it.** -/
theorem commit_ofAction {depth : Nat} (h : action.Settled depth) {name description : String}
    (hdisplay : action.display? = .ok (name, description)) :
    (Editor.ofAction action).commit action = (action.displayedAs name description,
      .ok (.ofAction (action.displayedAs name description))) := by
  obtain ⟨hvalues, hdelay⟩ := h.fields
  exact Editor.commit_of_displayed
    (readFields_self (fun field hfield => source_ofAction hfield) hvalues hdelay) hdisplay

/-- **Who edits nothing changes nothing but the display**, and who does it again changes nothing at
all. An action that was read is displayed, if it can be; else the commit fails for a number that is
too long to be written, and the action and the editor are as they were. -/
theorem commit_unedited {supply : Supply} {place : List Nat} {raw : Json}
    (h : read supply place raw = .ok action) :
    (action.IsDisplayable → ∃ name description,
      action.display? = .ok (name, description)
        ∧ (Editor.ofAction action).commit action = (action.displayedAs name description,
          .ok (.ofAction (action.displayedAs name description)))
        ∧ (Editor.ofAction (action.displayedAs name description)).commit
            (action.displayedAs name description) = (action.displayedAs name description,
          .ok (.ofAction (action.displayedAs name description))))
    ∧ (¬ action.IsDisplayable →
      ((Editor.ofAction action).commit action).2 = .error .numberUnwritable
        ∧ (Editor.ofAction action).afterCommit action = (action, .ofAction action)) := by
  have hsettled := settled_of_read h
  constructor
  · intro hdisplayable
    obtain ⟨name, description, hdisplay⟩ := hdisplayable.display?
    refine ⟨name, description, hdisplay, commit_ofAction hsettled hdisplay, ?_⟩
    rw [commit_ofAction (hsettled.displayedAs name description) (display?_displayedAs hdisplay),
      displayedAs_displayedAs]
  · intro hnot
    obtain ⟨hvalues, hdelay⟩ := hsettled.fields
    have hcommit := Editor.commit_of_undisplayed
      (readFields_self (fun field hfield => source_ofAction hfield) hvalues hdelay)
      (display?_of_not_isDisplayable hnot)
    unfold Editor.afterCommit
    rw [hcommit]
    exact ⟨rfl, rfl⟩

/-! ### A click without a name -/

def clickingAt (x : Int) : Action := .task (.initial "") (.mouse { MouseTask.initial with x })

theorem read_clickingAt (x : Int) :
    read (fun _ => "") [] (clickingAt x).toJson = .ok (clickingAt x) := by
  have hsettled : (clickingAt x).Settled 0 := by
    simp [clickingAt, Settled, Task.Settled, Header.initial, deepest]
  exact hsettled.read _ [] (writtenAs_toJson _)

theorem commit_unedited_near :
    read (fun _ => "") [] (clickingAt 12).toJson = .ok (clickingAt 12)
      ∧ ∃ name description, (clickingAt 12).display? = .ok (name, description)
        ∧ (Editor.ofAction (clickingAt 12)).commit (clickingAt 12)
          = ((clickingAt 12).displayedAs name description,
            .ok (.ofAction ((clickingAt 12).displayedAs name description)))
        ∧ (Editor.ofAction ((clickingAt 12).displayedAs name description)).commit
            ((clickingAt 12).displayedAs name description)
          = ((clickingAt 12).displayedAs name description,
            .ok (.ofAction ((clickingAt 12).displayedAs name description))) := by
  have hdescribable : (clickingAt 12).IsDescribable := by decide
  exact ⟨read_clickingAt 12, (commit_unedited (read_clickingAt 12)).1 (.inr (.inr hdescribable))⟩

/-- A click so far away that its place cannot be written has no words, and committing it fails. -/
theorem commit_unedited_far :
    read (fun _ => "") [] (clickingAt (10 ^ Integer.digitLimit)).toJson
        = .ok (clickingAt (10 ^ Integer.digitLimit))
      ∧ (clickingAt (10 ^ Integer.digitLimit)).display? = .error .numberUnwritable
      ∧ ((Editor.ofAction (clickingAt (10 ^ Integer.digitLimit))).commit
          (clickingAt (10 ^ Integer.digitLimit))).2 = .error .numberUnwritable := by
  have hread := read_clickingAt (10 ^ Integer.digitLimit)
  have hfar : ¬ (clickingAt (10 ^ Integer.digitLimit)).IsDisplayable := by
    rintro (hkeyboard | hname | hdescribable)
    · cases hkeyboard
    · exact hname rfl
    · exact Integer.not_isWritable_pow le_rfl (hdescribable _ List.mem_cons_self)
  obtain ⟨hvalues, hdelay⟩ := (settled_of_read hread).fields
  have hdisplay := display?_of_not_isDisplayable hfar
  have hcommit := Editor.commit_of_undisplayed
    (readFields_self (fun field hfield => source_ofAction hfield) hvalues hdelay) hdisplay
  exact ⟨hread, hdisplay, congrArg Prod.snd hcommit⟩

end Unedited

end DesktopMacro.Action
