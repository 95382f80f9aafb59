/-
What is read is settled.

Reading puts an action in order: delays are not negative, keys have their own names, and no action
lies too deep. So whatever is read is a settled action. These are three things that can be said of
any tree of actions one by one: it is in order, its lists of keys are lists of names, and it is
shallow.

The fields reach an action through entries, and what holds of all entries whatever their names are
still holds once they have their present names.
-/
import DesktopMacro.Proofs.Action.Rereading

set_option autoImplicit false

namespace DesktopMacro

/-- **Keys that have their own names**: normalising changes none of them. -/
def Key.AreNames (keys : List String) : Prop := ∀ key ∈ keys, Key.normalize key = key

namespace Action

/-! ## Settled actions -/

mutual

/-- **A settled action**: no delay is negative, keys have their own names, and nothing lies too
deep. -/
def Settled (depth : Nat) : Action → Prop
  | task header spec => depth < 2 * deepest ∧ 0 ≤ header.delayBefore ∧ spec.Settled
  | loop header _ actions =>
    depth < 2 * deepest ∧ 0 ≤ header.delayBefore ∧ AllSettled (depth + 2) actions
  | choice header _ thenActions elseActions =>
    depth < 2 * deepest ∧ 0 ≤ header.delayBefore
      ∧ AllSettled (depth + 2) thenActions ∧ AllSettled (depth + 2) elseActions

/-- Actions that stand side by side and are all settled. -/
def AllSettled (depth : Nat) : List Action → Prop
  | [] => True
  | action :: actions => Settled depth action ∧ AllSettled depth actions

end

theorem allSettled_of_forall {depth : Nat} {actions : List Action}
    (h : ∀ action ∈ actions, action.Settled depth) : AllSettled depth actions := by
  induction actions with
  | nil => trivial
  | cons action actions ih =>
    obtain ⟨haction, hactions⟩ := List.forall_mem_cons.1 h
    exact ⟨haction, ih hactions⟩

mutual

/-- What is settled is settled further out too. -/
theorem Settled.mono {action : Action} {depth outer : Nat} (h : action.Settled depth)
    (houter : outer ≤ depth) : action.Settled outer := by
  match action with
  | .task header spec =>
    unfold Settled at h ⊢
    obtain ⟨hdepth, hdelay, hspec⟩ := h
    exact ⟨by omega, hdelay, hspec⟩
  | .loop header spec actions =>
    unfold Settled at h ⊢
    obtain ⟨hdepth, hdelay, hactions⟩ := h
    exact ⟨by omega, hdelay, hactions.mono (by omega)⟩
  | .choice header spec thenActions elseActions =>
    unfold Settled at h ⊢
    obtain ⟨hdepth, hdelay, hthen, helse⟩ := h
    exact ⟨by omega, hdelay, hthen.mono (by omega), helse.mono (by omega)⟩

theorem AllSettled.mono {actions : List Action} {depth outer : Nat} (h : AllSettled depth actions)
    (houter : outer ≤ depth) : AllSettled outer actions := by
  match actions with
  | [] => trivial
  | action :: actions =>
    unfold AllSettled at h ⊢
    exact ⟨h.1.mono houter, h.2.mono houter⟩

end

mutual

/-- The limit is even and every action lies two places deeper than the one around it, so there is
one more place around an action that is settled at an even depth. -/
theorem Settled.succ {action : Action} {depth : Nat} (h : action.Settled depth)
    (heven : depth % 2 = 0) : action.Settled (depth + 1) := by
  have hlimit : depth < 2 * deepest → depth + 1 < 2 * deepest := by omega
  match action with
  | .task header spec =>
    unfold Settled at h ⊢
    exact ⟨hlimit h.1, h.2⟩
  | .loop header spec actions =>
    unfold Settled at h ⊢
    obtain ⟨hdepth, hdelay, hactions⟩ := h
    exact ⟨hlimit hdepth, hdelay, hactions.succ (by omega)⟩
  | .choice header spec thenActions elseActions =>
    unfold Settled at h ⊢
    obtain ⟨hdepth, hdelay, hthen, helse⟩ := h
    exact ⟨hlimit hdepth, hdelay, hthen.succ (by omega), helse.succ (by omega)⟩

theorem AllSettled.succ {actions : List Action} {depth : Nat} (h : AllSettled depth actions)
    (heven : depth % 2 = 0) : AllSettled (depth + 1) actions := by
  match actions with
  | [] => trivial
  | action :: actions =>
    unfold AllSettled at h ⊢
    exact ⟨h.1.succ heven, h.2.succ heven⟩

end

/-! ## Lists of keys -/

def Task.keyLists : Task → List (List String)
  | .keyboard spec => [spec.keys]
  | _ => []

mutual

/-- **The lists of keys in an action** and in the actions inside, in order. -/
def keyLists : Action → List (List String)
  | task _ spec => spec.keyLists
  | loop _ _ actions => allKeyLists actions
  | choice _ _ thenActions elseActions => allKeyLists thenActions ++ allKeyLists elseActions

/-- The lists of keys in actions that stand side by side. -/
def allKeyLists : List Action → List (List String)
  | [] => []
  | action :: actions => keyLists action ++ allKeyLists actions

end

/-- **An action whose keys have their own names**, and so have those of the actions inside. -/
def KeysNamed (action : Action) : Prop := ∀ keys ∈ action.keyLists, Key.AreNames keys

def AllKeysNamed (actions : List Action) : Prop := ∀ keys ∈ allKeyLists actions, Key.AreNames keys

section Inside

variable {header : Header} {actions : List Action}

theorem keysNamed_task {spec : Task} : (task header spec).KeysNamed ↔ spec.Settled := by
  cases spec <;> simp [KeysNamed, keyLists, Task.keyLists, Task.Settled, Key.AreNames]

theorem keysNamed_loop {spec : LoopSpec} :
    (loop header spec actions).KeysNamed ↔ AllKeysNamed actions := by
  simp [KeysNamed, AllKeysNamed, keyLists]

theorem keysNamed_choice {spec : ChoiceSpec} {thenActions elseActions : List Action} :
    (choice header spec thenActions elseActions).KeysNamed
      ↔ AllKeysNamed thenActions ∧ AllKeysNamed elseActions := by
  simp [KeysNamed, AllKeysNamed, keyLists, or_imp, forall_and]

theorem allKeysNamed_cons {action : Action} :
    AllKeysNamed (action :: actions) ↔ action.KeysNamed ∧ AllKeysNamed actions := by
  simp [KeysNamed, AllKeysNamed, allKeyLists, or_imp, forall_and]

theorem allKeyLists_append (actions more : List Action) :
    allKeyLists (actions ++ more) = allKeyLists actions ++ allKeyLists more := by
  induction actions with
  | nil => simp [allKeyLists]
  | cons action actions ih => simp [allKeyLists, ih]

theorem AllKeysNamed.of_mem (h : AllKeysNamed actions) {action : Action} (hmem : action ∈ actions) :
    action.KeysNamed := by
  obtain ⟨before, behind, rfl⟩ := List.append_of_mem hmem
  intro keys hkeys
  apply h
  simp [allKeyLists_append, allKeyLists, hkeys]

end Inside

/-! ## Actions in order -/

mutual

/-- **An action in order**: a delay below zero is none, and so in the actions inside. -/
def ordered : Action → Action
  | task header spec => task header.ordered spec
  | loop header spec actions => loop header.ordered spec (allOrdered actions)
  | choice header spec thenActions elseActions =>
    choice header.ordered spec (allOrdered thenActions) (allOrdered elseActions)

def allOrdered : List Action → List Action
  | [] => []
  | action :: actions => ordered action :: allOrdered actions

end

mutual

/-- **Delays are none of the keys' business.** -/
theorem keyLists_ordered (action : Action) : action.ordered.keyLists = action.keyLists := by
  match action with
  | .task header spec => simp [ordered, keyLists]
  | .loop header spec actions => simp [ordered, keyLists, allKeyLists_allOrdered actions]
  | .choice header spec thenActions elseActions =>
    simp [ordered, keyLists, allKeyLists_allOrdered thenActions,
      allKeyLists_allOrdered elseActions]

theorem allKeyLists_allOrdered (actions : List Action) :
    allKeyLists (allOrdered actions) = allKeyLists actions := by
  match actions with
  | [] => simp [allOrdered]
  | action :: actions =>
    simp [allOrdered, allKeyLists, keyLists_ordered action, allKeyLists_allOrdered actions]

end

/-! ## Actions that are not too deep -/

mutual

/-- **Does nothing in an action lie too deep?** -/
def isShallow (depth : Nat) : Action → Bool
  | task _ _ => decide (depth < 2 * deepest)
  | loop _ _ actions => decide (depth < 2 * deepest) && areShallow (depth + 2) actions
  | choice _ _ thenActions elseActions =>
    decide (depth < 2 * deepest)
      && (areShallow (depth + 2) thenActions && areShallow (depth + 2) elseActions)

def areShallow (depth : Nat) : List Action → Bool
  | [] => true
  | action :: actions => isShallow depth action && areShallow depth actions

end

mutual

/-- **A settled action is not too deep, its keys have their own names, and it is in order.** -/
theorem Settled.parts {action : Action} {depth : Nat} (h : action.Settled depth) :
    action.isShallow depth = true ∧ action.KeysNamed ∧ action.ordered = action := by
  match action with
  | .task header spec =>
    obtain ⟨hdepth, hdelay, hspec⟩ := h
    exact ⟨by simpa [isShallow] using hdepth, keysNamed_task.2 hspec,
      by simp [ordered, Header.ordered_eq_self hdelay]⟩
  | .loop header spec actions =>
    unfold Settled at h
    obtain ⟨hdepth, hdelay, hactions⟩ := h
    obtain ⟨hshallow, hnamed, hordered⟩ := hactions.parts
    exact ⟨by simp [isShallow, hdepth, hshallow], keysNamed_loop.2 hnamed,
      by simp [ordered, Header.ordered_eq_self hdelay, hordered]⟩
  | .choice header spec thenActions elseActions =>
    unfold Settled at h
    obtain ⟨hdepth, hdelay, hthen, helse⟩ := h
    obtain ⟨hshallow, hnamed, hordered⟩ := hthen.parts
    obtain ⟨hshallow', hnamed', hordered'⟩ := helse.parts
    exact ⟨by simp [isShallow, hdepth, hshallow, hshallow'], keysNamed_choice.2 ⟨hnamed, hnamed'⟩,
      by simp [ordered, Header.ordered_eq_self hdelay, hordered, hordered']⟩

theorem AllSettled.parts {actions : List Action} {depth : Nat} (h : AllSettled depth actions) :
    areShallow depth actions = true ∧ AllKeysNamed actions ∧ allOrdered actions = actions := by
  match actions with
  | [] => simp [areShallow, AllKeysNamed, allKeyLists, allOrdered]
  | action :: actions =>
    unfold AllSettled at h
    obtain ⟨hshallow, hnamed, hordered⟩ := h.1.parts
    obtain ⟨hshallow', hnamed', hordered'⟩ := h.2.parts
    exact ⟨by simp [areShallow, hshallow, hshallow'], allKeysNamed_cons.2 ⟨hnamed, hnamed'⟩,
      by simp [allOrdered, hordered, hordered']⟩

end

/-! ## Entries -/

namespace Entry

/-- What holds of the entries whatever their names are. -/
def All (P : Json → Except Cause (List Action) → Prop) (entries : List Entry) : Prop :=
  ∀ entry ∈ entries, P entry.raw entry.actions

variable {P : Json → Except Cause (List Action) → Prop} {entries : List Entry}

theorem All.putInto {entry : Entry} (h : All P entries) (hentry : P entry.raw entry.actions) :
    All P (putInto entries entry) := by
  induction entries with
  | nil => exact List.forall_mem_singleton.2 hentry
  | cons other others ih =>
    obtain ⟨hother, hothers⟩ := List.forall_mem_cons.1 h
    unfold Entry.putInto
    split
    · exact List.forall_mem_cons.2 ⟨hentry, hothers⟩
    · exact List.forall_mem_cons.2 ⟨hother, ih hothers⟩

theorem All.normalizeAll (h : All P entries) : All P (normalizeAll entries) := by
  have hfold : ∀ done : List Entry, All P done → All P (entries.foldl (fun done entry =>
      Entry.putInto done { entry with name := FieldName.normalize entry.name }) done) := by
    induction entries with
    | nil => exact fun done hdone => hdone
    | cons entry entries ih =>
      obtain ⟨hentry, hentries⟩ := List.forall_mem_cons.1 h
      exact fun done hdone => ih hentries _ (hdone.putInto hentry)
  exact hfold [] fun entry hentry => absurd hentry List.not_mem_nil

theorem All.filter (h : All P entries) (keep : Entry → Bool) : All P (entries.filter keep) :=
  fun entry hentry => h entry (List.mem_of_mem_filter hentry)

theorem All.find? (h : All P entries) {name : String} {entry : Entry}
    (hentry : Entry.find? entries name = some entry) : P entry.raw entry.actions :=
  h entry (List.mem_of_find?_eq_some hentry)

theorem All.append (h : All P entries) (entry : Entry) (hentry : P entry.raw entry.actions) :
    All P (entries ++ [entry]) :=
  List.forall_mem_append.2 ⟨h, List.forall_mem_singleton.2 hentry⟩

theorem All.rename (h : All P entries) (former present : String) :
    All P (rename entries former present) := by
  unfold Entry.rename
  split
  · next entry hentry =>
    split
    · exact h
    · have hheld : P entry.raw entry.actions := h.find? hentry
      exact h.append { entry with name := present } hheld
  · exact h

theorem All.renameAll (h : All P entries) (table : List (String × String)) :
    All P (table.foldl (fun done pair => Entry.rename done pair.1 pair.2) entries) := by
  induction table generalizing entries with
  | nil => exact h
  | cons pair table ih => exact ih (h.rename pair.1 pair.2)

theorem All.gatherCondition (h : All P entries)
    (hgathered : ∀ members fault, P (.object members) (.error (.action fault))) :
    All P (gatherCondition entries) := by
  unfold Entry.gatherCondition
  dsimp only
  split
  · exact h.append _ (hgathered _ _)
  · exact h

end Entry

/-! ## What is read is settled -/

/-- The actions that an entry gives are settled. -/
def Gives (depth : Nat) (_raw : Json) (actions : Except Cause (List Action)) : Prop :=
  ∀ given, actions = .ok given → AllSettled depth given

theorem settled_of_inside {entries : List Entry} {depth : Nat} (h : Entry.All (Gives depth) entries)
    {field : String} {actions : List Action} (hinside : Entry.inside entries field = .ok actions) :
    AllSettled depth actions := by
  unfold Entry.inside at hinside
  split at hinside
  · cases hinside
    trivial
  · cases hinside
    trivial
  · next hentry => exact h.find? hentry _ hinside
  · cases hinside

theorem inside_of_readLoop {source : Source} {inside : String → Except Cause (List Action)}
    {initial spec : LoopSpec} {actions : List Action}
    (h : initial.read source inside = .ok (spec, actions)) : inside "actions" = .ok actions := by
  unfold LoopSpec.read at h
  obtain ⟨maxIterations, -, h⟩ := of_bind h
  obtain ⟨useCondition, -, h⟩ := of_bind h
  obtain ⟨condition, -, h⟩ := of_bind h
  obtain ⟨given, hgiven, h⟩ := of_bind h
  obtain ⟨listName, -, h⟩ := of_bind h
  obtain ⟨itemName, -, h⟩ := of_bind h
  cases h
  exact hgiven

theorem inside_of_readChoice {source : Source} {inside : String → Except Cause (List Action)}
    {initial spec : ChoiceSpec} {thenActions elseActions : List Action}
    (h : initial.read source inside = .ok (spec, thenActions, elseActions)) :
    inside "then_actions" = .ok thenActions ∧ inside "else_actions" = .ok elseActions := by
  unfold ChoiceSpec.read at h
  obtain ⟨condition, -, h⟩ := of_bind h
  obtain ⟨thenGiven, hthen, h⟩ := of_bind h
  obtain ⟨elseGiven, helse, h⟩ := of_bind h
  obtain ⟨useElse, -, h⟩ := of_bind h
  cases h
  exact ⟨hthen, helse⟩

/-- **What is read from entries is settled** if the actions inside are. -/
theorem settled_of_ofEntries {id : String} {entries : List Entry} {depth : Nat}
    (hdepth : depth < 2 * deepest) (h : Entry.All (Gives (depth + 2)) entries) {action : Action}
    (hread : ofEntries id entries = .ok action) : action.Settled depth := by
  unfold ofEntries at hread
  dsimp only at hread
  obtain ⟨kind, -, hread⟩ := of_bind hread
  have hfields := ((h.normalizeAll.filter fun entry => entry.name != "type").renameAll
    (renamings kind)).gatherCondition fun members cause given hgiven => nomatch hgiven
  split at hread
  · next initial hinitial =>
    obtain ⟨header, hheader, hread⟩ := of_bind hread
    obtain ⟨spec, hspec, hread⟩ := of_bind hread
    cases hread
    exact ⟨hdepth, Header.delay_of_read hheader, Task.settled_of_read hinitial hspec⟩
  · obtain ⟨header, hheader, hread⟩ := of_bind hread
    split at hread
    · obtain ⟨⟨spec, actions⟩, hspec, hread⟩ := of_bind hread
      cases hread
      exact ⟨hdepth, Header.delay_of_read hheader,
        settled_of_inside hfields (inside_of_readLoop hspec)⟩
    · obtain ⟨⟨spec, thenActions, elseActions⟩, hspec, hread⟩ := of_bind hread
      cases hread
      obtain ⟨hthen, helse⟩ := inside_of_readChoice hspec
      exact ⟨hdepth, Header.delay_of_read hheader, settled_of_inside hfields hthen,
        settled_of_inside hfields helse⟩

mutual

/-- **An action that is read is settled.** -/
theorem settled_of_read {supply : Supply} {place : List Nat} {raw : Json} {action : Action}
    (h : read supply place raw = .ok action) : action.Settled place.length := by
  match raw with
  | .object members =>
    unfold read at h
    split at h
    · cases h
    · next hdepth =>
      exact settled_of_ofEntries (Nat.lt_of_not_le hdepth) (gives_of_readMembers members) h
  | .null | .bool _ | .int _ | .float _ | .text _ | .list _ =>
    unfold read at h
    cases h

theorem allSettled_of_readAll {supply : Supply} {place : List Nat} {index : Nat}
    {items : List Json} {actions : List Action}
    (h : readAll supply place index items = .ok actions) :
    AllSettled (place.length + 1) actions := by
  match items with
  | [] =>
    unfold readAll at h
    cases h
    trivial
  | item :: items =>
    unfold readAll at h
    obtain ⟨action, haction, h⟩ := of_bind h
    obtain ⟨others, hothers, h⟩ := of_bind h
    cases h
    exact ⟨settled_of_read haction, allSettled_of_readAll hothers⟩

theorem gives_of_readMembers {supply : Supply} {place : List Nat} {index : Nat}
    (members : Members) :
    Entry.All (Gives (place.length + 2)) (readMembers supply place index members) := by
  match members with
  | [] =>
    unfold readMembers
    exact fun entry hentry => absurd hentry List.not_mem_nil
  | (name, .list items) :: members =>
    unfold readMembers
    exact List.forall_mem_cons.2
      ⟨fun given hgiven => allSettled_of_readAll hgiven, gives_of_readMembers members⟩
  | (name, .null) :: members | (name, .bool _) :: members | (name, .int _) :: members
  | (name, .float _) :: members | (name, .text _) :: members | (name, .object _) :: members =>
    unfold readMembers
    exact List.forall_mem_cons.2 ⟨nofun, gives_of_readMembers members⟩

end

/-- An action that is read at any place is settled in a sequence too. -/
theorem settled_in_sequence {supply : Supply} {place : List Nat} {raw : Json} {action : Action}
    (h : read supply place raw = .ok action) : action.Settled 1 := by
  have hsettled := settled_of_read h
  by_cases hplace : place.length = 0
  · rw [hplace] at hsettled
    exact hsettled.succ rfl
  · exact hsettled.mono (Nat.one_le_iff_ne_zero.2 hplace)

end Action
end DesktopMacro
