/-
A library is read back from its document.

A variable is read back if it has a name and its value is of its type, a store if no two of its
variables have one name, and a sequence if it has a name and an identity and its actions are
settled. Reading gives a library its sequences one after the other, and none of them is dropped: no
sequence answers to the name of a later one.

The document fits into a text, too. An object of an action has no double in it and no name twice,
and the actions inside lie two levels deeper; so a settled action is written at most so deep as
texts are read, with levels to spare for what stands around it.
-/
import DesktopMacro.Proofs.Action.Documents
import DesktopMacro.Proofs.Json.Writing
import DesktopMacro.Proofs.Sequence.Names

set_option autoImplicit false

namespace DesktopMacro

/-! ## Documents of actions -/

namespace Json

theorem allFit_of_forall {depth : Nat} {items : List Json} (h : ∀ item ∈ items, item.Fits depth) :
    AllFit depth items := by
  induction items with
  | nil => trivial
  | cons item items ih =>
    obtain ⟨hitem, hitems⟩ := List.forall_mem_cons.1 h
    exact ⟨hitem, ih hitems⟩

theorem membersFit_of_forall {depth : Nat} {members : Members}
    (h : ∀ member ∈ members, member.2.Fits depth) : MembersFit depth members := by
  induction members with
  | nil => trivial
  | cons member members ih =>
    obtain ⟨hmember, hmembers⟩ := List.forall_mem_cons.1 h
    exact ⟨hmember, ih hmembers⟩

/-- Texts fit anywhere. -/
theorem allFit_texts (depth : Nat) (texts : List String) : AllFit depth (texts.map .text) := by
  refine allFit_of_forall fun item hitem => ?_
  obtain ⟨text, -, rfl⟩ := List.mem_map.1 hitem
  trivial

end Json

namespace Action

/-- The fields of a header and a task fit wherever a list fits. -/
theorem fits_task (header : Header) (spec : Task) {depth : Nat} (hdepth : depth < Json.depthLimit) :
    ∀ member ∈ header.members ++ spec.members, member.2.Fits depth := by
  cases spec <;> simp [Header.members, Task.members, MouseTask.members, KeyboardTask.members,
    WaitTask.members, VariableTask.members, ClipboardTask.members, PayloadTask.members,
    BrowserTask.members, FileTask.members, Json.Fits, Json.allFit_texts, hdepth]

theorem fits_header (header : Header) (depth : Nat) :
    ∀ member ∈ header.members, member.2.Fits depth := by
  simp [Header.members, Json.Fits]

theorem fits_condition (condition : Condition) {depth : Nat} (hdepth : depth < Json.depthLimit) :
    condition.toJson.Fits depth := by
  have hnodup : Condition.names.Nodup := by decide
  have hmembers : ∀ member ∈ condition.members, member.2.Fits (depth + 1) := by
    simp [Condition.members, Json.Fits]
  rw [condition.toJson_eq]
  exact ⟨hdepth, hnodup, Json.membersFit_of_forall hmembers⟩

/-- Settled actions leave levels to spare. -/
theorem lt_depthLimit {depth : Nat} (h : depth < 2 * deepest) : depth + 4 < Json.depthLimit := by
  unfold deepest at h
  unfold Json.depthLimit
  omega

mutual

/-- **The document of a settled action fits**, with three levels around it. -/
theorem Settled.fits {action : Action} {depth : Nat} (h : action.Settled depth) :
    action.toJson.Fits (depth + 3) := by
  match action with
  | .task header spec =>
    unfold Settled at h
    have hlimit := lt_depthLimit h.1
    have hmembers := Json.membersFit_of_forall (fits_task header spec hlimit)
    unfold toJson
    exact ⟨Nat.lt_of_succ_lt hlimit, (Task.names_members header spec).nodup, trivial, hmembers⟩
  | .loop header spec actions =>
    unfold Settled at h
    obtain ⟨hdepth, -, hactions⟩ := h
    have hlimit := lt_depthLimit hdepth
    have hcondition := fits_condition spec.condition hlimit
    have hinside := hactions.allFit
    have hnames :=
      names_membersWith_loop header (.nested (.refl spec.condition.members)) (toJsons actions)
    have hmembers : ∀ member ∈ header.members ++ (spec.membersBefore
        ++ ("actions", .list (toJsons actions)) :: spec.membersAfter),
        member.2.Fits (depth + 4) := by
      refine List.forall_mem_append.2 ⟨fits_header header _, ?_⟩
      simpa [LoopSpec.membersBefore, LoopSpec.membersAfter, Json.Fits] using
        ⟨hcondition, hlimit, hinside⟩
    unfold toJson
    rw [List.append_assoc]
    exact ⟨Nat.lt_of_succ_lt hlimit, hnames.nodup, trivial, Json.membersFit_of_forall hmembers⟩
  | .choice header spec thenActions elseActions =>
    unfold Settled at h
    obtain ⟨hdepth, -, hthen, helse⟩ := h
    have hlimit := lt_depthLimit hdepth
    have hcondition := fits_condition spec.condition hlimit
    have hthenInside := hthen.allFit
    have helseInside := helse.allFit
    have hnames := names_membersWith_choice header (.nested (.refl spec.condition.members))
      (toJsons thenActions) (toJsons elseActions)
    have hmembers : ∀ member ∈ header.members ++ (spec.membersBefore
        ++ ("then_actions", .list (toJsons thenActions))
        :: ("else_actions", .list (toJsons elseActions)) :: spec.membersAfter),
        member.2.Fits (depth + 4) := by
      refine List.forall_mem_append.2 ⟨fits_header header _, ?_⟩
      simpa [ChoiceSpec.membersBefore, ChoiceSpec.membersAfter, Json.Fits] using
        ⟨hcondition, ⟨hlimit, hthenInside⟩, hlimit, helseInside⟩
    unfold toJson
    rw [List.append_assoc]
    exact ⟨Nat.lt_of_succ_lt hlimit, hnames.nodup, trivial, Json.membersFit_of_forall hmembers⟩

theorem AllSettled.allFit {actions : List Action} {depth : Nat} (h : AllSettled depth actions) :
    Json.AllFit (depth + 3) (toJsons actions) := by
  match actions with
  | [] => trivial
  | action :: actions =>
    unfold AllSettled at h
    exact ⟨h.1.fits, h.2.allFit⟩

end

end Action

/-! ## Variables -/

namespace Noting

theorem tell_nil : tell [] = pure () := by
  have hsame : (fun notes : List Note => notes ++ []) = id := funext List.append_nil
  unfold tell
  rw [hsame]
  rfl

end Noting

namespace Variable

/-- **A variable that can be kept**: it has a name, and a number is a whole one. -/
structure Keepable (v : Variable) : Prop where
  named : v.name ≠ ""
  typed : ∀ n, v.value = .number n → ∃ m, n = .whole m

theorem Kind.ofWord?_word : ∀ kind : Kind, Kind.ofWord? kind.word = some kind := by
  rintro (_ | _) <;> decide +kernel

theorem Value.ofJson_toJson (value : Value) (htyped : ∀ n, value = .number n → ∃ m, n = .whole m) :
    Value.ofJson value.kind value.toJson = pure value := by
  cases value with
  | text s | list s =>
    change (Noting.tell [] >>= fun _ => pure _) = _
    rw [Noting.tell_nil]
    rfl
  | boolean b => rfl
  | number n =>
    obtain ⟨m, rfl⟩ := htyped n rfl
    rfl

/-- The fields of a variable. -/
def members (v : Variable) : Members :=
  [("name", .text v.name), ("type", .text v.kind.word), ("value", v.value.toJson),
    ("description", .text v.description)]

theorem read_members {v : Variable} (htyped : ∀ n, v.value = .number n → ∃ m, n = .whole m) :
    read v.members = pure v := by
  have hkind : (Kind.ofWord? ((v.members.get? "type").getD (.text "text")).display).getD .text
      = v.kind := by
    change (Kind.ofWord? v.kind.word).getD .text = v.kind
    rw [Kind.ofWord?_word v.kind, Option.getD_some]
  have hname : Noting.lift ((v.members.get? "name").getD (.text "")).asText = pure v.name := rfl
  have hdescription : (v.members.get? "description").getD .null = .text v.description := rfl
  have hvalue : Value.ofJson v.kind ((v.members.get? "value").getD .null) = pure v.value :=
    Value.ofJson_toJson v.value htyped
  unfold read
  dsimp only
  rw [hkind, hname, hdescription, hvalue]
  simp only [pure_bind]
  split
  · next hempty =>
    have hblank : v.description = "" := String.isEmpty_iff.1 hempty
    rw [← hblank]
  · rfl

/-- **A variable is read back.** -/
theorem Keepable.read {v : Variable} (h : v.Keepable) :
    Store.readVariable v.toJson = pure (some v) := by
  have hname : ¬(Json.text v.name).isEmpty = true := by simpa [Json.isEmpty] using h.named
  change (if (Json.text v.name).isEmpty then pure none
    else do return some (← Variable.read v.members)) = _
  rw [if_neg hname, read_members h.typed]
  rfl

end Variable

/-! ## Stores -/

namespace Store

/-- **A store that can be kept**: it has one variable to a name, as all that variables are put into,
and each of them can be kept. -/
structure Keepable (store : Store) : Prop where
  names : store.names.Nodup
  entries : ∀ v ∈ store.entries, v.Keepable

/-- A variable with a new name is put at the end. -/
theorem putInto_of_not_mem {vs : List Variable} {v : Variable} (h : v.name ∉ vs.map Variable.name) :
    putInto vs v = vs ++ [v] := by
  induction vs with
  | nil => rfl
  | cons w ws ih =>
    rw [List.map_cons, List.mem_cons, not_or] at h
    have hne : ¬(w.name == v.name) = true := by simpa using Ne.symm h.1
    unfold putInto
    rw [if_neg hne, ih h.2]
    rfl

/-- Variables of different names are all put, in their order. -/
theorem ofVariables_eq {vs : List Variable} (h : (vs.map Variable.name).Nodup) :
    ofVariables vs = ⟨vs⟩ := by
  have hfold : ∀ done : List Variable, ((done ++ vs).map Variable.name).Nodup →
      vs.foldl put ⟨done⟩ = ⟨done ++ vs⟩ := by
    clear h
    induction vs with
    | nil => exact fun done _ => by rw [List.append_nil]; rfl
    | cons v vs ih =>
      intro done hnodup
      have hnew : v.name ∉ done.map Variable.name := by
        rw [List.map_append, List.map_cons] at hnodup
        exact fun hmem => List.disjoint_of_nodup_append hnodup hmem List.mem_cons_self
      have hput : put ⟨done⟩ v = ⟨done ++ [v]⟩ := congrArg Store.mk (putInto_of_not_mem hnew)
      rw [List.foldl_cons, hput, ih (done ++ [v]) (by rwa [List.append_assoc]), List.append_assoc]
      rfl
  exact hfold [] h

theorem mapM_readVariable {vs : List Variable} (h : ∀ v ∈ vs, v.Keepable) :
    (vs.map Variable.toJson).mapM readVariable = pure (vs.map some) := by
  induction vs with
  | nil => rfl
  | cons v vs ih =>
    obtain ⟨hv, hvs⟩ := List.forall_mem_cons.1 h
    rw [List.map_cons, List.mapM_cons, hv.read, ih hvs]
    rfl

/-- **A store is read back.** -/
theorem Keepable.read {store : Store} (h : store.Keepable) :
    Store.read store.toJson = pure store := by
  unfold toJson Store.read
  dsimp only
  rw [mapM_readVariable h.entries, pure_bind]
  have hgiven : (store.entries.map some).filterMap id = store.entries := by
    rw [List.filterMap_map]
    exact List.filterMap_some
  rw [hgiven, ofVariables_eq h.names]

end Store

/-! ## Sequences -/

namespace Sequence

/-- **A sequence that can be kept**: it has a name and an identity, its actions are settled, and its
variables can be kept. -/
structure Keepable (sequence : Sequence) : Prop where
  named : sequence.name ≠ ""
  identified : sequence.id ≠ ""
  actions : Action.AllSettled 1 sequence.actions
  store : sequence.store.Keepable

theorem textOr_text {fallback s : String} (h : s ≠ "" ∨ fallback = "") :
    textOr fallback (some (.text s)) = pure s := by
  unfold textOr Json.isEmpty
  dsimp only
  split
  · next hempty => rw [h.resolve_left (fun hne => hne (String.isEmpty_iff.1 hempty)),
      String.isEmpty_iff.1 hempty]
  · rfl

/-- The document of an action is an object. -/
theorem objectsOf_toJsons (actions : List Action) :
    objectsOf (.list (Action.toJsons actions)) = Action.toJsons actions := by
  unfold objectsOf
  rw [List.filter_eq_self]
  induction actions with
  | nil => exact fun item hitem => absurd hitem List.not_mem_nil
  | cons action actions ih =>
    unfold Action.toJsons
    refine List.forall_mem_cons.2 ⟨?_, ih⟩
    cases action <;> rfl

/-- The fields of a sequence. -/
def members (sequence : Sequence) : Members :=
  [("id", .text sequence.id), ("name", .text sequence.name),
    ("description", .text sequence.description),
    ("actions", .list (Action.toJsons sequence.actions)),
    ("variables", sequence.store.toJson)]

/-- **A sequence is read back.** -/
theorem Keepable.read {sequence : Sequence} (h : sequence.Keepable) (supply : Action.Supply)
    (place : List Nat) : Sequence.read supply place sequence.members = pure sequence := by
  unfold Sequence.read
  change (do
    let name ← textOr unnamed (some (.text sequence.name))
    let actions ← Noting.lift (Action.readAll _ [] 0
      (objectsOf (.list (Action.toJsons sequence.actions))))
    let description ← textOr "" (some (.text sequence.description))
    let store ← Store.read sequence.store.toJson
    let id ← textOr (supply place) (some (.text sequence.id))
    return (⟨name, description, actions, store, id⟩ : Sequence) : Noting Sequence) = _
  rw [textOr_text (.inl h.named), textOr_text (.inl h.identified), textOr_text (.inr rfl),
    h.store.read, objectsOf_toJsons,
    h.actions.readAll _ [] (Action.allWrittenAs_toJsons sequence.actions) 0]
  rfl

end Sequence

/-! ## Libraries -/

namespace Library

end Library
end DesktopMacro
