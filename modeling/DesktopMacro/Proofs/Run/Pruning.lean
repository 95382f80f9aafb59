/-
Scripts without their disabled actions.

Pruning takes the disabled actions out of a tree, at every depth, with whatever is inside them. What
is left stands in the same order but not at the same places: an action moves forward by as many
numbers as disabled ones stood before it. Every action that is left has moved from one place to one
place, so what a frame has changed at the old places can be looked up at the new ones, and a
sequence is left the same whether it is pruned before its run or after it.
-/
import DesktopMacro.Proofs.Run.Habits

set_option autoImplicit false

namespace DesktopMacro

/-! ## Pruning -/

namespace Action

mutual

/-- An action without the disabled ones inside. -/
def pruned : Action → Action
  | .task header work => .task header work
  | .loop header spec actions => .loop header spec (prunedAll actions)
  | .choice header spec thenActions elseActions =>
    .choice header spec (prunedAll thenActions) (prunedAll elseActions)

/-- **Actions side by side without the disabled ones**, and without those inside of the others. -/
def prunedAll : List Action → List Action
  | [] => []
  | action :: actions =>
    if action.header.enabled then pruned action :: prunedAll actions else prunedAll actions

end

variable {action : Action} {actions : List Action}

@[simp] theorem header_pruned (action : Action) : action.pruned.header = action.header := by
  cases action <;> rfl

@[simp] theorem shownNumbers_pruned (action : Action) :
    action.pruned.shownNumbers = action.shownNumbers := by
  cases action <;> rfl

@[simp] theorem pruned_task (header : Header) (work : Task) :
    (Action.task header work).pruned = .task header work := rfl

theorem prunedAll_enabled (h : action.header.enabled = true) :
    prunedAll (action :: actions) = action.pruned :: prunedAll actions := if_pos h

theorem prunedAll_disabled (h : action.header.enabled = false) :
    prunedAll (action :: actions) = prunedAll actions := if_neg (by simp [h])

/-- What is left are the enabled actions, each of them pruned. -/
theorem prunedAll_eq (actions : List Action) :
    prunedAll actions = (actions.filter (·.header.enabled)).map pruned := by
  induction actions with
  | nil => rfl
  | cons action actions ih =>
    cases h : action.header.enabled with
    | true => simp [prunedAll_enabled h, ih, h]
    | false => simp [prunedAll_disabled h, ih, h]

/-- **No disabled action is left**, wherever one stood. -/
theorem enabled_of_standsAt_pruned {root : List Action} {place : Place} {action : Action}
    (h : action.StandsAt (prunedAll root) place) :
    action.header.enabled = true ∧ ∃ before, pruned before = action := by
  have hmem : ∀ {actions : List Action} {index : Nat} {action : Action},
      (prunedAll actions)[index]? = some action →
        action.header.enabled = true ∧ ∃ before, pruned before = action := by
    intro actions index action hfound
    rw [prunedAll_eq] at hfound
    obtain ⟨before, hbefore, rfl⟩ := List.mem_map.1 (List.mem_of_getElem? hfound)
    rw [header_pruned]
    exact ⟨(List.mem_filter.1 hbefore).2, before, rfl⟩
  -- The actions around are pruned themselves, so what is inside of them is what pruning has left.
  induction h with
  | outer hfound => exact hmem hfound
  | inLoop _ hfound ih =>
    obtain ⟨-, before, hbefore⟩ := ih
    cases before <;> cases hbefore
    exact hmem hfound
  | inThen _ hfound ih =>
    obtain ⟨-, before, hbefore⟩ := ih
    cases before <;> cases hbefore
    exact hmem hfound
  | inElse _ hfound ih =>
    obtain ⟨-, before, hbefore⟩ := ih
    cases before <;> cases hbefore
    exact hmem hfound

/-! ## From place to place -/

/-- **An enabled action is kept**: it stands at a number among actions, and at another one among
those that are left. -/
inductive Kept : List Action → Nat → Nat → Action → Prop where
  | here {action : Action} {actions : List Action} (enabled : action.header.enabled = true) :
    Kept (action :: actions) 0 0 action
  | later {before action : Action} {actions : List Action} {old new : Nat}
    (enabled : before.header.enabled = true) (h : Kept actions old new action) :
    Kept (before :: actions) (old + 1) (new + 1) action
  | past {before action : Action} {actions : List Action} {old new : Nat}
    (disabled : before.header.enabled = false) (h : Kept actions old new action) :
    Kept (before :: actions) (old + 1) new action

namespace Kept

variable {actions : List Action} {old old' new new' : Nat} {action other : Action}

theorem enabled (h : Kept actions old new action) : action.header.enabled = true := by
  induction h with
  | here enabled => exact enabled
  | later _ _ ih => exact ih
  | past _ _ ih => exact ih

/-- An action is kept at one number. -/
theorem unique_new (h : Kept actions old new action) (h' : Kept actions old new' other) :
    new = new' ∧ action = other := by
  induction h generalizing new' with
  | here enabled =>
    cases h' with
    | here _ => exact ⟨rfl, rfl⟩
  | later enabled _ ih =>
    cases h' with
    | later _ h' =>
      obtain ⟨rfl, rfl⟩ := ih h'
      exact ⟨rfl, rfl⟩
    | past disabled _ => cases enabled.symm.trans disabled
  | past disabled _ ih =>
    cases h' with
    | later enabled _ => cases enabled.symm.trans disabled
    | past _ h' => exact ih h'

/-- No two actions are kept at the same number. -/
theorem unique_old (h : Kept actions old new action) (h' : Kept actions old' new other) :
    old = old' ∧ action = other := by
  induction h generalizing old' with
  | here enabled =>
    cases h' with
    | here _ => exact ⟨rfl, rfl⟩
    | past disabled _ => cases enabled.symm.trans disabled
  | later enabled _ ih =>
    cases h' with
    | later _ h' =>
      obtain ⟨rfl, rfl⟩ := ih h'
      exact ⟨rfl, rfl⟩
    | past disabled _ => cases enabled.symm.trans disabled
  | past disabled _ ih =>
    cases h' with
    | here enabled => cases enabled.symm.trans disabled
    | later enabled _ => cases enabled.symm.trans disabled
    | past _ h' =>
      obtain ⟨rfl, rfl⟩ := ih h'
      exact ⟨rfl, rfl⟩

end Kept

/-- **An action has moved**, when a tree was pruned, from a place to a place. -/
inductive Moved (root : List Action) : Place → Place → Action → Prop where
  | outer {old new : Nat} {action : Action} (h : Kept root old new action) :
    Moved root [old] [new] action
  | inLoop {place place' : Place} {header : Header} {spec : LoopSpec} {actions : List Action}
    {old new : Nat} {action : Action} (around : Moved root place place' (.loop header spec actions))
    (h : Kept actions old new action) : Moved root (old :: 0 :: place) (new :: 0 :: place') action
  | inThen {place place' : Place} {header : Header} {spec : ChoiceSpec}
    {thenActions elseActions : List Action} {old new : Nat} {action : Action}
    (around : Moved root place place' (.choice header spec thenActions elseActions))
    (h : Kept thenActions old new action) :
    Moved root (old :: 0 :: place) (new :: 0 :: place') action
  | inElse {place place' : Place} {header : Header} {spec : ChoiceSpec}
    {thenActions elseActions : List Action} {old new : Nat} {action : Action}
    (around : Moved root place place' (.choice header spec thenActions elseActions))
    (h : Kept elseActions old new action) :
    Moved root (old :: 1 :: place) (new :: 1 :: place') action

namespace Moved

variable {root : List Action} {p q p' q' : Place} {action other : Action}

/-- From one place an action moves to one place. The induction goes up the places. -/
theorem unique_new (h : Moved root p q action) (h' : Moved root p q' other) :
    q = q' ∧ action = other := by
  induction h generalizing q' other with
  | outer hkept =>
    cases h' with
    | outer hkept' =>
      obtain ⟨rfl, rfl⟩ := hkept.unique_new hkept'
      exact ⟨rfl, rfl⟩
  | inLoop _ hkept ih =>
    cases h' with
    | inLoop around' hkept' =>
      obtain ⟨rfl, hsame⟩ := ih around'
      cases hsame
      obtain ⟨rfl, rfl⟩ := hkept.unique_new hkept'
      exact ⟨rfl, rfl⟩
    | inThen around' _ => cases (ih around').2
  | inThen _ hkept ih =>
    cases h' with
    | inLoop around' _ => cases (ih around').2
    | inThen around' hkept' =>
      obtain ⟨rfl, hsame⟩ := ih around'
      cases hsame
      obtain ⟨rfl, rfl⟩ := hkept.unique_new hkept'
      exact ⟨rfl, rfl⟩
  | inElse _ hkept ih =>
    cases h' with
    | inElse around' hkept' =>
      obtain ⟨rfl, hsame⟩ := ih around'
      cases hsame
      obtain ⟨rfl, rfl⟩ := hkept.unique_new hkept'
      exact ⟨rfl, rfl⟩

/-- No two actions move to the same place. -/
theorem unique_old (h : Moved root p q action) (h' : Moved root p' q other) :
    p = p' ∧ action = other := by
  induction h generalizing p' other with
  | outer hkept =>
    cases h' with
    | outer hkept' =>
      obtain ⟨rfl, rfl⟩ := hkept.unique_old hkept'
      exact ⟨rfl, rfl⟩
  | inLoop _ hkept ih =>
    cases h' with
    | inLoop around' hkept' =>
      obtain ⟨rfl, hsame⟩ := ih around'
      cases hsame
      obtain ⟨rfl, rfl⟩ := hkept.unique_old hkept'
      exact ⟨rfl, rfl⟩
    | inThen around' _ => cases (ih around').2
  | inThen _ hkept ih =>
    cases h' with
    | inLoop around' _ => cases (ih around').2
    | inThen around' hkept' =>
      obtain ⟨rfl, hsame⟩ := ih around'
      cases hsame
      obtain ⟨rfl, rfl⟩ := hkept.unique_old hkept'
      exact ⟨rfl, rfl⟩
  | inElse _ hkept ih =>
    cases h' with
    | inElse around' hkept' =>
      obtain ⟨rfl, hsame⟩ := ih around'
      cases hsame
      obtain ⟨rfl, rfl⟩ := hkept.unique_old hkept'
      exact ⟨rfl, rfl⟩

/-- **Two actions stand at one place if and only if they have moved to one place.** -/
theorem place_iff (h : Moved root p q action) (h' : Moved root p' q' other) :
    p = p' ↔ q = q' := by
  constructor
  · rintro rfl
    exact (h.unique_new h').1
  · rintro rfl
    exact (h.unique_old h').1

end Moved

/-- The kept ones of actions side by side have moved from the places below a place, from a number
on, to those below another place, from another number on. -/
def AllMoved (root : List Action) (place place' : Place) (index index' : Nat)
    (actions : List Action) : Prop :=
  ∀ old new action, Kept actions old new action →
    Moved root ((index + old) :: place) ((index' + new) :: place') action

namespace AllMoved

variable {root : List Action} {place place' : Place} {index index' : Nat}

theorem head (h : AllMoved root place place' index index' (action :: actions))
    (enabled : action.header.enabled = true) :
    Moved root (index :: place) (index' :: place') action :=
  h 0 0 action (.here enabled)

theorem tail (h : AllMoved root place place' index index' (action :: actions))
    (enabled : action.header.enabled = true) :
    AllMoved root place place' (index + 1) (index' + 1) actions := fun old new later hkept => by
  rw [Nat.add_assoc, Nat.add_assoc, Nat.add_comm 1, Nat.add_comm 1]
  exact h (old + 1) (new + 1) later (.later enabled hkept)

/-- Behind a disabled action the numbers move apart. -/
theorem tail_disabled (h : AllMoved root place place' index index' (action :: actions))
    (disabled : action.header.enabled = false) :
    AllMoved root place place' (index + 1) index' actions := fun old new later hkept => by
  rw [Nat.add_assoc, Nat.add_comm 1]
  exact h (old + 1) new later (.past disabled hkept)

theorem all (root : List Action) : AllMoved root [] [] 0 0 root := fun old new _ hkept => by
  rw [Nat.zero_add, Nat.zero_add]
  exact .outer hkept

theorem inLoop {header : Header} {spec : LoopSpec}
    (h : Moved root place place' (.loop header spec actions)) :
    AllMoved root (0 :: place) (0 :: place') 0 0 actions := fun old new _ hkept => by
  rw [Nat.zero_add, Nat.zero_add]
  exact .inLoop h hkept

theorem inThen {header : Header} {spec : ChoiceSpec} {thenActions elseActions : List Action}
    (h : Moved root place place' (.choice header spec thenActions elseActions)) :
    AllMoved root (0 :: place) (0 :: place') 0 0 thenActions := fun old new _ hkept => by
  rw [Nat.zero_add, Nat.zero_add]
  exact .inThen h hkept

theorem inElse {header : Header} {spec : ChoiceSpec} {thenActions elseActions : List Action}
    (h : Moved root place place' (.choice header spec thenActions elseActions)) :
    AllMoved root (1 :: place) (1 :: place') 0 0 elseActions := fun old new _ hkept => by
  rw [Nat.zero_add, Nat.zero_add]
  exact .inElse h hkept

end AllMoved
end Action

/-! ## Frames -/

namespace Frame

/-- **A frame mirrors another one** whose sequence has a tree: it has the same variables, and it has
changed at the new place of an action what the other has changed at the old one. -/
structure Mirrors (root : List Action) (frame frame' : Frame) : Prop where
  store : frame'.store = frame.store
  current : ∀ {p q : Place} {action : Action}, Action.Moved root p q action →
    ∀ header task, frame'.current q header task = frame.current p header task

theorem enabled_current (frame : Frame) (place : Place) (header : Action.Header)
    (task : Action.Task) : (frame.current place header task).1.enabled = header.enabled := by
  obtain hsame | ⟨edit, hedited⟩ := frame.current_cases place header task
  · rw [hsame]
  · rw [hedited]
    rfl

theorem edited_task (frame : Frame) (place : Place) (header : Action.Header)
    (task : Action.Task) :
    frame.edited place (.task header task)
      = .task (frame.current place header task).1 (frame.current place header task).2 := rfl

theorem editedAll_cons (frame : Frame) (place : Place) (index : Nat) (action : Action)
    (actions : List Action) :
    frame.editedAll place index (action :: actions)
      = frame.edited (index :: place) action :: frame.editedAll place (index + 1) actions := rfl

theorem enabled_edited (frame : Frame) (place : Place) (action : Action) :
    (frame.edited place action).header.enabled = action.header.enabled := by
  cases action with
  | task header task => exact frame.enabled_current place header task
  | loop | choice => rfl

namespace Mirrors

variable {root : List Action} {frame frame' : Frame}

/-- Two sequences are entered with no changes. -/
theorem enter (root : List Action) {sequence sequence' : Sequence}
    (h : sequence'.store = sequence.store) (slot slot' : Option Nat) :
    Mirrors root (.enter sequence slot) (.enter sequence' slot') :=
  ⟨h, fun _ _ _ => rfl⟩

theorem putStore (h : Mirrors root frame frame') (store : Store) :
    Mirrors root { frame with store } { frame' with store } :=
  ⟨rfl, h.current⟩

/-- A change at the place of an action is one at its new place. -/
theorem putEdit (h : Mirrors root frame frame') {p q : Place} {action : Action}
    (hmoved : Action.Moved root p q action) (change : Change) (name description : String) :
    Mirrors root { frame with edits := ⟨p, change, name, description⟩ :: frame.edits }
      { frame' with edits := ⟨q, change, name, description⟩ :: frame'.edits } := by
  refine ⟨h.store, fun {p' q'} _ hmoved' header task => ?_⟩
  have hplaces : (p == p') = (q == q') := by
    rw [Bool.eq_iff_iff, beq_iff_eq, beq_iff_eq]
    exact hmoved.place_iff hmoved'
  have hbefore := h.current hmoved' header task
  unfold Frame.current at hbefore ⊢
  simp only [List.find?_cons, hplaces]
  cases q == q' with
  | true => rfl
  | false => exact hbefore

mutual

/-- **What a frame leaves, pruned**, is what its mirror leaves of the pruned action. -/
theorem pruned_edited (h : Mirrors root frame frame') {p q : Place} (action : Action)
    (hmoved : Action.Moved root p q action) :
    (frame.edited p action).pruned = frame'.edited q action.pruned := by
  match action with
  | .task header task =>
    rw [edited_task, Action.pruned_task, Action.pruned_task, edited_task, h.current hmoved]
  | .loop header spec actions =>
    simp only [edited, Action.pruned]
    rw [prunedAll_editedAll h actions (.inLoop hmoved)]
  | .choice header spec thenActions elseActions =>
    simp only [edited, Action.pruned]
    rw [prunedAll_editedAll h thenActions (.inThen hmoved),
      prunedAll_editedAll h elseActions (.inElse hmoved)]

theorem prunedAll_editedAll (h : Mirrors root frame frame') {place place' : Place}
    {index index' : Nat} (actions : List Action)
    (hmoved : Action.AllMoved root place place' index index' actions) :
    Action.prunedAll (frame.editedAll place index actions)
      = frame'.editedAll place' index' (Action.prunedAll actions) := by
  match actions with
  | [] => rfl
  | action :: actions =>
    have henabled := frame.enabled_edited (index :: place) action
    rw [editedAll_cons]
    cases enabled : action.header.enabled with
    | true =>
      rw [Action.prunedAll_enabled enabled, Action.prunedAll_enabled (henabled.trans enabled),
        editedAll_cons, pruned_edited h action (hmoved.head enabled),
        prunedAll_editedAll h actions (hmoved.tail enabled)]
    | false =>
      rw [Action.prunedAll_disabled enabled, Action.prunedAll_disabled (henabled.trans enabled)]
      exact prunedAll_editedAll h actions (hmoved.tail_disabled enabled)

end

end Mirrors
end Frame

/-! ## Sequences and libraries -/

/-- A sequence without its disabled actions. -/
def Sequence.pruned (sequence : Sequence) : Sequence :=
  { sequence with actions := Action.prunedAll sequence.actions }

/-- **A sequence is left the same** whether it is pruned before its run or after it. -/
theorem Frame.Mirrors.pruned_leave {frame frame' : Frame} {sequence : Sequence}
    (h : Mirrors sequence.actions frame frame') :
    (frame.leave sequence).pruned = frame'.leave sequence.pruned := by
  unfold leave Sequence.pruned
  simp only [h.prunedAll_editedAll sequence.actions (.all _), h.store]

namespace Library

/-- A library whose sequences have no disabled actions. -/
def pruned (library : Library) : Library := ⟨library.sequences.map Sequence.pruned⟩

theorem getElem?_pruned (library : Library) (slot : Nat) :
    library.pruned.sequences[slot]? = library.sequences[slot]?.map Sequence.pruned :=
  List.getElem?_map ..

/-- Pruning changes no names. -/
theorem indexOf?_pruned (library : Library) (name : String) :
    library.pruned.indexOf? name = library.indexOf? name := by
  unfold indexOf? pruned
  rw [List.findIdx?_map]
  rfl

/-- A sequence is changed before it is pruned or after, if the two changes go together. -/
theorem pruned_modify {library : Library} {slot : Nat} {change change' : Sequence → Sequence}
    (h : ∀ sequence, library.sequences[slot]? = some sequence →
      (change sequence).pruned = change' sequence.pruned) :
    (library.modify slot change).pruned = library.pruned.modify slot change' := by
  unfold modify pruned
  congr 1
  refine List.ext_getElem? fun other => ?_
  by_cases hslot : slot = other
  · subst hslot
    rw [List.getElem?_map, List.getElem?_modify_eq, List.getElem?_modify_eq, List.getElem?_map]
    cases hfound : library.sequences[slot]? with
    | none => rfl
    | some sequence => exact congrArg some (h sequence hfound)
  · rw [List.getElem?_map, List.getElem?_modify_ne _ _ hslot, List.getElem?_modify_ne _ _ hslot,
      List.getElem?_map]

end Library
end DesktopMacro
