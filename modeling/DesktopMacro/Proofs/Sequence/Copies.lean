/-
Copies of actions and of sequences.

A copy takes the identity of each action from a supply, by the place of the action in the tree. So
the identities in a copy are what the supply has for the places, and no two places of a tree are the
same: each is the end of the places below it, and places of two branches part at the first step.
Which identities the original had is not looked at. What a copy keeps is told by taking all the
identities out, and nothing but the identities is taken out with them. An original is a value, and
a copy that is made of it is another one.
-/
import Mathlib.Data.List.Nodup
import Mathlib.Logic.Equiv.List
import DesktopMacro.Sequence.Basic

set_option autoImplicit false

namespace DesktopMacro

namespace Action

/-! ## Without identities -/

mutual

/-- An action without its identity and without those of the actions inside. -/
def withoutIds : Action → Action
  | task header spec => task { header with id := "" } spec
  | loop header spec actions => loop { header with id := "" } spec (allWithoutIds actions)
  | choice header spec thenActions elseActions =>
    choice { header with id := "" } spec (allWithoutIds thenActions) (allWithoutIds elseActions)

/-- Actions that stand side by side, without identities. -/
def allWithoutIds : List Action → List Action
  | [] => []
  | action :: actions => withoutIds action :: allWithoutIds actions

end

theorem header_ext {header other : Header} (hid : header.id = other.id)
    (h : { header with id := "" } = { other with id := "" }) : header = other := by
  obtain ⟨name, description, delayBefore, enabled, continueOnError, id⟩ := header
  obtain ⟨_, _, _, _, _, _⟩ := other
  simp only [Header.mk.injEq, and_true] at h hid ⊢
  exact ⟨h.1, h.2.1, h.2.2.1, h.2.2.2.1, h.2.2.2.2, hid⟩

mutual

/-- There are as many identities in an action as in whatever is the same without them. -/
theorem length_ids {action other : Action} (h : action.withoutIds = other.withoutIds) :
    action.ids.length = other.ids.length := by
  match action, other with
  | .task _ _, .task _ _ => rfl
  | .loop _ _ actions, .loop _ _ others =>
    simp only [withoutIds, loop.injEq] at h
    simp only [ids, List.length_cons, length_allIds h.2.2]
  | .choice _ _ thenActions elseActions, .choice _ _ thenOthers elseOthers =>
    simp only [withoutIds, choice.injEq] at h
    simp only [ids, List.length_cons, List.length_append, length_allIds h.2.2.1,
      length_allIds h.2.2.2]
  | .task _ _, .loop _ _ _ | .task _ _, .choice _ _ _ _ | .loop _ _ _, .task _ _
  | .loop _ _ _, .choice _ _ _ _ | .choice _ _ _ _, .task _ _ | .choice _ _ _ _, .loop _ _ _ =>
    simp [withoutIds] at h

theorem length_allIds {actions others : List Action}
    (h : allWithoutIds actions = allWithoutIds others) :
    (allIds actions).length = (allIds others).length := by
  match actions, others with
  | [], [] => rfl
  | action :: actions, other :: others =>
    simp only [allWithoutIds, List.cons.injEq] at h
    simp only [allIds, List.length_append, length_ids h.1, length_allIds h.2]
  | [], _ :: _ | _ :: _, [] => simp [allWithoutIds] at h

end

mutual

/-- **Nothing but identities is taken out**: actions that are the same without them and have the
same ones are the same. -/
theorem eq_of_withoutIds {action other : Action} (h : action.withoutIds = other.withoutIds)
    (hids : action.ids = other.ids) : action = other := by
  match action, other with
  | .task _ _, .task _ _ =>
    simp only [withoutIds, task.injEq] at h
    simp only [ids, List.cons.injEq, and_true] at hids
    rw [header_ext hids h.1, h.2]
  | .loop _ _ actions, .loop _ _ others =>
    simp only [withoutIds, loop.injEq] at h
    simp only [ids, List.cons.injEq] at hids
    rw [header_ext hids.1 h.1, h.2.1, eq_of_allWithoutIds h.2.2 hids.2]
  | .choice _ _ thenActions elseActions, .choice _ _ thenOthers elseOthers =>
    simp only [withoutIds, choice.injEq] at h
    simp only [ids, List.cons.injEq] at hids
    obtain ⟨hheader, hspec, hthen, helse⟩ := h
    -- The two branches part at the same place, for there are as many identities in the first one.
    obtain ⟨hthenIds, helseIds⟩ := List.append_inj hids.2 (length_allIds hthen)
    rw [header_ext hids.1 hheader, hspec, eq_of_allWithoutIds hthen hthenIds,
      eq_of_allWithoutIds helse helseIds]
  | .task _ _, .loop _ _ _ | .task _ _, .choice _ _ _ _ | .loop _ _ _, .task _ _
  | .loop _ _ _, .choice _ _ _ _ | .choice _ _ _ _, .task _ _ | .choice _ _ _ _, .loop _ _ _ =>
    simp [withoutIds] at h

theorem eq_of_allWithoutIds {actions others : List Action}
    (h : allWithoutIds actions = allWithoutIds others) (hids : allIds actions = allIds others) :
    actions = others := by
  match actions, others with
  | [], [] => rfl
  | action :: actions, other :: others =>
    simp only [allWithoutIds, List.cons.injEq] at h
    obtain ⟨hfirst, hrest⟩ := List.append_inj hids (length_ids h.1)
    rw [eq_of_withoutIds h.1 hfirst, eq_of_allWithoutIds h.2 hrest]
  | [], _ :: _ | _ :: _, [] => simp [allWithoutIds] at h

end

mutual

/-- **A copy is the original but for identities.** -/
theorem withoutIds_copy (supply : Supply) (place : List Nat) (action : Action) :
    (action.copy supply place).withoutIds = action.withoutIds := by
  match action with
  | .task header spec => rfl
  | .loop header spec actions =>
    simp only [copy, withoutIds, allWithoutIds_copyAll supply (0 :: place) 0 actions]
  | .choice header spec thenActions elseActions =>
    simp only [copy, withoutIds, allWithoutIds_copyAll supply (0 :: place) 0 thenActions,
      allWithoutIds_copyAll supply (1 :: place) 0 elseActions]

theorem allWithoutIds_copyAll (supply : Supply) (place : List Nat) (index : Nat)
    (actions : List Action) :
    allWithoutIds (copyAll supply place index actions) = allWithoutIds actions := by
  match actions with
  | [] => rfl
  | action :: actions =>
    simp only [copyAll, allWithoutIds, withoutIds_copy supply (index :: place) action,
      allWithoutIds_copyAll supply place (index + 1) actions]

end

/-! ## Places -/

mutual

/-- The places in an action that stands at a place, in the order of the identities. -/
def places (place : List Nat) : Action → List (List Nat)
  | task _ _ => [place]
  | loop _ _ actions => place :: allPlaces (0 :: place) 0 actions
  | choice _ _ thenActions elseActions =>
    place :: (allPlaces (0 :: place) 0 thenActions ++ allPlaces (1 :: place) 0 elseActions)

/-- The places in actions that stand side by side, from a number on. -/
def allPlaces (place : List Nat) : (index : Nat) → List Action → List (List Nat)
  | _, [] => []
  | index, action :: actions =>
    places (index :: place) action ++ allPlaces place (index + 1) actions

end

mutual

/-- **The identities in a copy are what the supply has for its places**, whatever identities there
are in the original. -/
theorem ids_copy (supply : Supply) (place : List Nat) (action : Action) :
    (action.copy supply place).ids = (places place action).map supply := by
  match action with
  | .task header spec => rfl
  | .loop header spec actions =>
    simp only [copy, ids, places, List.map_cons, allIds_copyAll supply (0 :: place) 0 actions]
  | .choice header spec thenActions elseActions =>
    simp only [copy, ids, places, List.map_cons, List.map_append,
      allIds_copyAll supply (0 :: place) 0 thenActions,
      allIds_copyAll supply (1 :: place) 0 elseActions]

theorem allIds_copyAll (supply : Supply) (place : List Nat) (index : Nat) (actions : List Action) :
    allIds (copyAll supply place index actions) = (allPlaces place index actions).map supply := by
  match actions with
  | [] => rfl
  | action :: actions =>
    simp only [copyAll, allIds, allPlaces, List.map_append, ids_copy supply (index :: place) action,
      allIds_copyAll supply place (index + 1) actions]

end

mutual

/-- The place of an action ends every place inside it. -/
theorem suffix_of_mem_places {place inner : List Nat} {action : Action}
    (h : inner ∈ places place action) : place <:+ inner := by
  match action with
  | .task _ _ =>
    rw [places, List.mem_singleton] at h
    exact h ▸ List.suffix_rfl
  | .loop _ _ actions =>
    rw [places, List.mem_cons] at h
    rcases h with rfl | hinside
    · exact List.suffix_rfl
    · obtain ⟨index, -, hend⟩ := suffix_of_mem_allPlaces hinside
      exact (List.suffix_append [index, 0] place).trans hend
  | .choice _ _ thenActions elseActions =>
    rw [places, List.mem_cons, List.mem_append] at h
    rcases h with rfl | hthen | helse
    · exact List.suffix_rfl
    · obtain ⟨index, -, hend⟩ := suffix_of_mem_allPlaces hthen
      exact (List.suffix_append [index, 0] place).trans hend
    · obtain ⟨index, -, hend⟩ := suffix_of_mem_allPlaces helse
      exact (List.suffix_append [index, 1] place).trans hend

/-- A place inside actions that stand side by side is inside one of them. -/
theorem suffix_of_mem_allPlaces {place inner : List Nat} {start : Nat} {actions : List Action}
    (h : inner ∈ allPlaces place start actions) : ∃ index ≥ start, index :: place <:+ inner := by
  match actions with
  | [] =>
    rw [allPlaces] at h
    exact absurd h List.not_mem_nil
  | action :: actions =>
    rw [allPlaces, List.mem_append] at h
    rcases h with hfirst | hrest
    · exact ⟨start, le_rfl, suffix_of_mem_places hfirst⟩
    · obtain ⟨index, hindex, hend⟩ := suffix_of_mem_allPlaces hrest
      exact ⟨index, Nat.le_of_succ_le hindex, hend⟩

end

/-- Two ends of one place that are equally long are the same. -/
theorem eq_of_suffixes {place other inner : List Nat} (h : place <:+ inner) (h' : other <:+ inner)
    (hlength : place.length = other.length) : place = other :=
  (List.suffix_of_suffix_length_le h h' hlength.le).eq_of_length hlength

mutual

/-- **No place comes twice in an action.** -/
theorem nodup_places (place : List Nat) (action : Action) : (places place action).Nodup := by
  -- What is inside a branch has a longer place than the action.
  have hinside : ∀ (branch : Nat) (actions : List Action),
      place ∉ allPlaces (branch :: place) 0 actions := by
    intro branch actions hmem
    obtain ⟨index, -, hend⟩ := suffix_of_mem_allPlaces hmem
    have hlength := hend.length_le
    simp only [List.length_cons] at hlength
    omega
  match action with
  | .task _ _ => exact List.nodup_singleton place
  | .loop _ _ actions =>
    rw [places, List.nodup_cons]
    exact ⟨hinside 0 actions, nodup_allPlaces (0 :: place) 0 actions⟩
  | .choice _ _ thenActions elseActions =>
    rw [places, List.nodup_cons, List.mem_append]
    refine ⟨fun hmem => hmem.elim (hinside 0 _) (hinside 1 _), ?_⟩
    refine List.nodup_append'.2 ⟨nodup_allPlaces _ 0 _, nodup_allPlaces _ 0 _, ?_⟩
    intro inner hthen helse
    -- A place in both branches would end with two places of one length that differ in the branch.
    obtain ⟨index, -, hend⟩ := suffix_of_mem_allPlaces hthen
    obtain ⟨index', -, hend'⟩ := suffix_of_mem_allPlaces helse
    have heq : index :: 0 :: place = index' :: 1 :: place := eq_of_suffixes hend hend' rfl
    simp at heq

theorem nodup_allPlaces (place : List Nat) (start : Nat) (actions : List Action) :
    (allPlaces place start actions).Nodup := by
  match actions with
  | [] => exact List.nodup_nil
  | action :: actions =>
    rw [allPlaces]
    refine List.nodup_append'.2
      ⟨nodup_places (start :: place) action, nodup_allPlaces place (start + 1) actions, ?_⟩
    -- What stands behind the first action has a greater number.
    intro inner hfirst hrest
    obtain ⟨index, hindex, hend⟩ := suffix_of_mem_allPlaces hrest
    have heq : start :: place = index :: place :=
      eq_of_suffixes (suffix_of_mem_places hfirst) hend rfl
    have hsame : start = index := (List.cons.inj heq).1
    omega

end

/-! ## New identities -/

/-- **A supply of new identities**: it never gives one twice, nor one that has been used. -/
structure Supply.GivesNew (supply : Supply) (used : List String) : Prop where
  injective : Function.Injective supply
  unused : ∀ place, supply place ∉ used

/-- Identities that are different from each other and from those that have been used. -/
structure AreNew (used given : List String) : Prop where
  nodup : given.Nodup
  unused : ∀ id ∈ given, id ∉ used

/-- What is given for different places is new. -/
theorem Supply.GivesNew.areNew {supply : Supply} {used : List String} (h : supply.GivesNew used)
    {places : List (List Nat)} (hplaces : places.Nodup) : AreNew used (places.map supply) where
  nodup := hplaces.map h.injective
  unused id hid := by
    obtain ⟨place, -, rfl⟩ := List.mem_map.1 hid
    exact h.unused place

end Action

namespace Sequence

/-- A sequence without its identity and without those of its actions. -/
def withoutIds (sequence : Sequence) : Sequence :=
  { sequence with actions := Action.allWithoutIds sequence.actions, id := "" }

/-- The identities of a sequence and of its actions. -/
def ids (sequence : Sequence) : List String := sequence.id :: Action.allIds sequence.actions

theorem withoutIds_copy (supply : Action.Supply) (sequence : Sequence) :
    (sequence.copy supply).withoutIds = sequence.withoutIds := by
  simp only [withoutIds, copy, Action.allWithoutIds_copyAll]

/-- The places in a sequence; its own is the one around all others. -/
def places (sequence : Sequence) : List (List Nat) := [] :: Action.allPlaces [] 0 sequence.actions

theorem ids_copy (supply : Action.Supply) (sequence : Sequence) :
    (sequence.copy supply).ids = sequence.places.map supply := by
  simp only [ids, places, copy, List.map_cons, Action.allIds_copyAll]

theorem nodup_places (sequence : Sequence) : sequence.places.Nodup := by
  refine List.nodup_cons.2 ⟨fun hmem => ?_, Action.nodup_allPlaces [] 0 sequence.actions⟩
  obtain ⟨index, -, hend⟩ := Action.suffix_of_mem_allPlaces hmem
  exact absurd hend.length_le (by simp)

/-- **Copies are the same and are new.** From a supply of new identities, a copy of any action and
of any sequence is the original but for identities; and the identities in it, those of all actions
inside and of the sequence too, are different from each other and from all that have been used,
even if the original has one of them twice. -/
theorem copies_are_new {supply : Action.Supply} {used : List String} (h : supply.GivesNew used) :
    (∀ (place : List Nat) (action : Action),
      (action.copy supply place).withoutIds = action.withoutIds
        ∧ Action.AreNew used (action.copy supply place).ids)
    ∧ ∀ sequence : Sequence,
      (sequence.copy supply).withoutIds = sequence.withoutIds
        ∧ Action.AreNew used (sequence.copy supply).ids := by
  constructor
  · intro place action
    refine ⟨Action.withoutIds_copy supply place action, ?_⟩
    rw [Action.ids_copy]
    exact h.areNew (Action.nodup_places place action)
  · intro sequence
    refine ⟨withoutIds_copy supply sequence, ?_⟩
    rw [ids_copy]
    exact h.areNew (nodup_places sequence)

/-! ### A sequence in which every identity is the same -/

/-- As many letters as the number of a place. -/
def letters : Action.Supply := fun place =>
  String.ofList (List.replicate (Encodable.encode place) 'a')

theorem letters_givesNew : letters.GivesNew ["same"] where
  injective place other heq := by
    have hlength := congrArg List.length (String.ofList_injective heq)
    rw [List.length_replicate, List.length_replicate] at hlength
    exact Encodable.encode_injective hlength
  unused place hmem := by
    have hsame : letters place = String.ofList ['s', 'a', 'm', 'e'] := List.mem_singleton.1 hmem
    have hletter : 's' ∈ List.replicate (Encodable.encode place) 'a' :=
      String.ofList_injective hsame ▸ List.mem_cons_self
    exact absurd (List.eq_of_mem_replicate hletter) (by decide)

/-- A choice with a loop in one branch and a pause in the other, all of one identity. -/
def choiceOfOneIdentity : Action :=
  .choice (.initial "same") .initial
    [.loop (.initial "same") .initial [.task (.initial "same") (.keyboard .initial)]]
    [.task (.initial "same") (.wait .initial)]

/-- A sequence that has the choice twice. -/
def ofOneIdentity : Sequence :=
  ⟨unnamed, "", [choiceOfOneIdentity, choiceOfOneIdentity], ⟨[]⟩, "same"⟩

theorem copy_of_one_identity_is_new :
    ofOneIdentity.ids = List.replicate 9 "same" ∧ letters.GivesNew ["same"]
      ∧ (ofOneIdentity.copy letters).withoutIds = ofOneIdentity.withoutIds
      ∧ Action.AreNew ["same"] (ofOneIdentity.copy letters).ids :=
  ⟨rfl, letters_givesNew, (copies_are_new letters_givesNew).2 ofOneIdentity⟩

end Sequence
end DesktopMacro
