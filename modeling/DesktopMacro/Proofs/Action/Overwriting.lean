/-
Reading over an action that is there.

All fields are taken from the source side by side, each against the value that was there at first,
and a field that cannot be coerced is the only reason to fail. What is read has the same kind, the
same identity and the same actions inside, and nothing is asked for but the fields that may be
edited. An action that is read over what it shows itself stays as it is.
-/
import DesktopMacro.Proofs.Action.Fields
import DesktopMacro.Proofs.Computation

set_option autoImplicit false

namespace DesktopMacro.Action

open Fields

/-! ## All fields at once -/

/-- **Reading over an action takes its fields side by side**, each over the value that was there at
first; only then a delay below zero is none. -/
theorem members_readFields (source : Source) (action : Action) :
    editableMembers <$> action.readFields source = (do
      let header ← List.map clampDelay <$> action.header.fields.mapM (taken (source.without "id"))
      let own ← action.ownFields.mapM (taken (source.without "id"))
      return header ++ own) := by
  -- The header is read first in every kind of action, and with the identity hidden.
  rw [← Header.members_read (source.without "id") action.header rfl]
  cases action with
  | task header spec =>
    rw [ownFields, ← Task.members_read]
    simp [readFields, editableMembers, Action.header]
  | loop header spec actions =>
    rw [ownFields, ← LoopSpec.members_read]
    simp [readFields, editableMembers, Action.header]
  | choice header spec thenActions elseActions =>
    rw [ownFields, ← ChoiceSpec.members_read]
    simp [readFields, editableMembers, Action.header]

section Read

variable {source : Source} {action written : Action}

/-- **What a member takes**: what its field takes, as it is put into an action. -/
def Takes (source : Source) (field : String × FieldValue) (member : String × Json) : Prop :=
  ∃ value, field.2.take source field.1 = .ok value ∧ member = clampDelay (field.1, value)

/-- The identity is hidden, and it is no field that may be edited. -/
theorem taken_without {field : String × FieldValue} (h : field.1 ≠ "id") :
    taken (source.without "id") field = taken source field := by
  have hsame : source.without "id" field.1 = source field.1 := if_neg (by simpa using h)
  unfold taken FieldValue.take
  rw [hsame]

theorem names_fields {field : String × FieldValue} (h : field ∈ action.fields) :
    field.1 ≠ "id" := by
  rcases List.mem_append.1 h with hheader | hown
  · exact Header.names_fields hheader
  · exact (own_names hown).1

theorem taken_eq_ok {field : String × FieldValue} {member : String × Json} :
    taken source field = .ok member
      ↔ ∃ value, field.2.take source field.1 = .ok value ∧ member = (field.1, value) := by
  unfold taken
  cases field.2.take source field.1 with
  | error cause => simp
  | ok value => simp [eq_comm]

theorem taken_eq_error {field : String × FieldValue} {cause : Cause} :
    taken source field = .error cause ↔ field.2.take source field.1 = .error cause := by
  unfold taken
  cases field.2.take source field.1 with
  | error cause' => simp
  | ok value => simp

/-- Only a delay is put into an action as another value. -/
theorem clampDelay_of_ne {member : String × Json} (h : member.1 ≠ "delay_before") :
    clampDelay member = member := by
  obtain ⟨name, value⟩ := member
  unfold clampDelay
  split
  · next heq =>
    cases heq
    exact absurd rfl h
  · rfl

/-- **Every field takes what the source has for it**, if an action can be read over. -/
theorem takes_of_readFields (h : action.readFields source = .ok written) :
    List.Forall₂ (Takes source) action.fields written.editableMembers := by
  have hmembers := members_readFields source action
  rw [h] at hmembers
  obtain ⟨header, hheader, hrest⟩ := of_bind hmembers.symm
  obtain ⟨own, hown, hall⟩ := of_bind hrest
  obtain ⟨members, hread, rfl⟩ := of_map hheader
  rw [← Except.ok.inj hall]
  refine List.rel_append (List.forall₂_map_right_iff.2 (forall₂_of_mapM hread ?_))
    (forall₂_of_mapM hown ?_)
  · intro field hfield member htaken
    rw [taken_without (Header.names_fields hfield)] at htaken
    obtain ⟨value, hvalue, rfl⟩ := taken_eq_ok.1 htaken
    exact ⟨value, hvalue, rfl⟩
  · intro field hfield member htaken
    rw [taken_without (own_names hfield).1] at htaken
    obtain ⟨value, hvalue, rfl⟩ := taken_eq_ok.1 htaken
    exact ⟨value, hvalue, (clampDelay_of_ne (own_names hfield).2).symm⟩

/-- **Some field has been given what cannot be coerced**, if an action cannot be read over. -/
theorem uncoerced_of_readFields {cause : Cause} (h : action.readFields source = .error cause) :
    ∃ field ∈ action.fields, ∃ raw,
      source field.1 = some raw ∧ field.2.coerce field.1 raw = .error cause := by
  have hmembers := members_readFields source action
  rw [h] at hmembers
  have hfails : ∃ field ∈ action.fields, taken (source.without "id") field = .error cause := by
    rcases error_of_bind hmembers.symm with hheader | ⟨header, -, hrest⟩
    · rw [map_eq_pure_bind] at hheader
      rcases error_of_bind hheader with hread | ⟨members, -, hpure⟩
      · obtain ⟨field, hfield, htaken⟩ := exists_of_mapM_error hread
        exact ⟨field, List.mem_append_left _ hfield, htaken⟩
      · cases hpure
    · rcases error_of_bind hrest with hown | ⟨own, -, hpure⟩
      · obtain ⟨field, hfield, htaken⟩ := exists_of_mapM_error hown
        exact ⟨field, List.mem_append_right _ hfield, htaken⟩
      · cases hpure
  obtain ⟨field, hfield, htaken⟩ := hfails
  rw [taken_without (names_fields hfield), taken_eq_error] at htaken
  exact ⟨field, hfield, FieldValue.coerce_of_take_error htaken⟩

/-! ## What stays -/

/-- A task is read over by one of the same kind. -/
theorem kind_of_readTask {spec read : Task} (h : spec.read source = .ok read) :
    read.kind = spec.kind := by
  cases spec <;>
    (obtain ⟨task, -, h⟩ := of_bind h
     cases h
     rfl)

theorem id_of_readHeader {header read : Header} (hid : source "id" = none)
    (h : header.read source = .ok read) : read.id = header.id := by
  unfold Header.read at h
  obtain ⟨name, -, h⟩ := of_bind h
  obtain ⟨description, -, h⟩ := of_bind h
  obtain ⟨delay, -, h⟩ := of_bind h
  obtain ⟨enabled, -, h⟩ := of_bind h
  obtain ⟨continueOnError, -, h⟩ := of_bind h
  obtain ⟨id, hread, h⟩ := of_bind h
  cases h
  unfold Field.text Field.orElse at hread
  rw [hid] at hread
  cases hread
  rfl

/-- **Reading over keeps the frame of an action.** -/
theorem keepsFrame_of_readFields (h : action.readFields source = .ok written) :
    action.KeepsFrame written := by
  unfold readFields at h
  cases action with
  | task header spec =>
    obtain ⟨header', hheader, h⟩ := of_bind h
    obtain ⟨spec', hspec, h⟩ := of_bind h
    cases h
    exact ⟨kind_of_readTask hspec, id_of_readHeader rfl hheader, rfl⟩
  | loop header spec actions =>
    obtain ⟨header', hheader, h⟩ := of_bind h
    obtain ⟨⟨spec', inside⟩, -, h⟩ := of_bind h
    cases h
    exact ⟨rfl, id_of_readHeader rfl hheader, rfl⟩
  | choice header spec thenActions elseActions =>
    obtain ⟨header', hheader, h⟩ := of_bind h
    obtain ⟨⟨spec', inside⟩, -, h⟩ := of_bind h
    cases h
    exact ⟨rfl, id_of_readHeader rfl hheader, rfl⟩

/-- A source with some of its names only. -/
def only (source : Source) (names : List String) : Source := fun name =>
  if names.contains name then source name else none

/-- **Nothing but the fields that may be edited is asked for.** -/
theorem readFields_only (source : Source) (action : Action) :
    action.readFields (only source (action.fields.map Prod.fst)) = action.readFields source := by
  -- The readers of each kind ask for names that are written out, and all of them are in the list.
  cases action with
  | task header spec => cases spec <;> rfl
  | loop header spec actions => rfl
  | choice header spec thenActions elseActions => rfl

/-- Sources that have the same for the fields of an action are read alike. -/
theorem readFields_congr {other : Source}
    (h : ∀ field ∈ action.fields, other field.1 = source field.1) :
    action.readFields other = action.readFields source := by
  have hsame : only other (action.fields.map Prod.fst)
      = only source (action.fields.map Prod.fst) := by
    funext name
    unfold only
    by_cases hname : (action.fields.map Prod.fst).contains name
    · rw [if_pos hname, if_pos hname]
      obtain ⟨field, hfield, rfl⟩ := List.mem_map.1 (List.contains_iff_mem.1 hname)
      exact h field hfield
    · rw [if_neg hname, if_neg hname]
  rw [← readFields_only other, hsame, readFields_only]

end Read

/-! ## Reading an action over itself -/

/-- **An editor on an action holds what the fields of the action show.** -/
theorem source_ofAction {action : Action} {field : String × FieldValue}
    (h : field ∈ action.fields) :
    (Editor.ofAction action).source field.1 = some field.2.shown := by
  have hnodup := action.nodup_names
  unfold Editor.source Editor.ofAction Members.get?
  dsimp only
  rw [← shown_fields]
  -- The first field of a name is the one that is found, and no name comes twice.
  generalize action.fields = fields at h hnodup
  induction fields with
  | nil => cases h
  | cons first fields ih =>
    rw [List.map_cons, List.nodup_cons] at hnodup
    rcases List.mem_cons.1 h with rfl | hmem
    · simp [shown]
    · have hne : first.1 ≠ field.1 := fun heq => hnodup.1 (heq ▸ List.mem_map_of_mem hmem)
      have hrest := ih hmem hnodup.2
      simpa [shown, hne] using hrest

/-- **An action that is read over itself stays the same**, if its values are settled and its delay
is not negative. -/
theorem readFields_self {source : Source} {action : Action}
    (hsource : ∀ field ∈ action.fields, source field.1 = some field.2.shown)
    (hsettled : ∀ field ∈ action.fields, field.2.Settled) (hdelay : 0 ≤ action.header.delayBefore) :
    action.readFields source = .ok action := by
  have htaken : ∀ field ∈ action.fields,
      taken (source.without "id") field = .ok (field.1, field.2.shown) := by
    intro field hfield
    rw [taken_without (names_fields hfield)]
    refine taken_eq_ok.2 ⟨_, ?_, rfl⟩
    rw [FieldValue.take_some (hsource field hfield)]
    exact FieldValue.coerce_shown (hsettled field hfield) field.1
  obtain ⟨hheader, hown⟩ := List.forall_mem_append.1 htaken
  have hclamp : action.header.fields.shown.map clampDelay = action.header.fields.shown := by
    simp [shown, Header.fields, FieldValue.shown, clampDelay, Int.max_eq_right hdelay]
  have hmembers := members_readFields source action
  rw [mapM_eq_ok_map hheader, mapM_eq_ok_map hown] at hmembers
  change _ = Except.ok (action.header.fields.shown.map clampDelay ++ action.ownFields.shown)
    at hmembers
  rw [hclamp] at hmembers
  -- So the action that is read shows what this one shows, and it has the same frame.
  cases hread : action.readFields source with
  | error cause =>
    rw [hread] at hmembers
    cases hmembers
  | ok written =>
    rw [hread] at hmembers
    have hsame : written.editableMembers = action.editableMembers := by
      rw [editableMembers_eq action]
      exact Except.ok.inj hmembers
    rw [ext_of_keepsFrame (keepsFrame_of_readFields hread) hsame]

end DesktopMacro.Action
