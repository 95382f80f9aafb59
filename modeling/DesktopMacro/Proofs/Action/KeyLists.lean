/-
Lists of keys that have been normalised stay as they are.

The name of a key is its own name, so whoever reads a list of names has that list. Reading a document
of an action puts the action in order and leaves its lists of keys, if they are lists of names. A
commit reads one list over, and that list stays too, unless it is edited. So whatever is loaded and
committed later, and however often, the lists stay what the first normalisation made of them.
-/
import Mathlib.Logic.Relation
import DesktopMacro.Proofs.Action.Editing
import DesktopMacro.Proofs.Sequence.Persistence

set_option autoImplicit false

namespace DesktopMacro.Action

/-! ## Commits -/

theorem keyLists_displayedAs (action : Action) (name description : String) :
    (action.displayedAs name description).keyLists = action.keyLists := by
  cases action <;> simp [displayedAs, withHeader, keyLists]

namespace Editor

variable {editor : Editor} {action : Action}

/-- **An editor that leaves the keys of an action alone**: if it holds any, they are those that the
action has. Its other values are free. -/
def LeavesKeys (editor : Editor) : Action → Prop
  | task _ (.keyboard spec) =>
    ∀ raw, editor.source "keys" = some raw → raw = .list (spec.keys.map .text)
  | _ => True

/-- An editor that was opened on an action leaves its keys alone. -/
theorem leavesKeys_ofAction (action : Action) : (ofAction action).LeavesKeys action := by
  unfold LeavesKeys
  split
  · rintro raw hraw
    exact (Option.some.inj hraw).symm
  · trivial

/-- Other values do not matter. -/
theorem LeavesKeys.put (h : editor.LeavesKeys action) {field : String} (hfield : field ≠ "keys")
    (value : Json) : (editor.put field value).LeavesKeys action := by
  have hsame : (editor.put field value).source "keys" = editor.source "keys" :=
    Json.get?_put_of_ne hfield value
  unfold LeavesKeys at h ⊢
  split
  · rw [hsame]
    exact h
  · trivial

/-- A keyboard action is read over by another one, whose keys are what is read for them. -/
theorem keyboard_of_readFields {header : Header} {spec : KeyboardTask} {source : Source}
    {written : Action} (h : (task header (.keyboard spec)).readFields source = .ok written) :
    ∃ header' read, written = task header' (.keyboard read)
      ∧ Field.keys source "keys" spec.keys = .ok read.keys := by
  obtain ⟨header', -, h⟩ := of_bind h
  obtain ⟨spec', hspec, h⟩ := of_bind h
  obtain ⟨read, hread, hspec⟩ := of_bind hspec
  cases hspec
  cases h
  -- The identity is hidden from the reader, and the keys are not.
  have hkeys : Field.keys (source.without "id") "keys" spec.keys = .ok read.keys :=
    keys_of_readKeyboard hread
  exact ⟨header', read, rfl, hkeys⟩

/-- Keys that are names and are left alone are read over by themselves. -/
theorem keys_of_leavesKeys {header : Header} {spec read : KeyboardTask}
    (hnames : Key.AreNames spec.keys) (hkeys : editor.LeavesKeys (task header (.keyboard spec)))
    (hread : Field.keys editor.source "keys" spec.keys = .ok read.keys) :
    read.keys = spec.keys := by
  cases hraw : editor.source "keys" with
  | none =>
    unfold Field.keys Field.orElse at hread
    rw [hraw] at hread
    exact (Except.ok.inj hread).symm
  | some raw =>
    rw [hkeys raw hraw] at hraw
    rw [Field.keys_of_some hraw hnames] at hread
    exact (Except.ok.inj hread).symm

/-- **An action that is read over keeps its lists of keys**, if they are names and are left alone. -/
theorem keyLists_of_readFields {written : Action} (hnamed : action.KeysNamed)
    (hkeys : editor.LeavesKeys action) (h : action.readFields editor.source = .ok written) :
    written.keyLists = action.keyLists := by
  cases action with
  | task header spec =>
    cases spec with
    | keyboard spec =>
      have hnames : Key.AreNames spec.keys := keysNamed_task.1 hnamed
      obtain ⟨header', read, rfl, hread⟩ := keyboard_of_readFields h
      simp [keyLists, Task.keyLists, keys_of_leavesKeys hnames hkeys hread]
    | _ =>
      -- No other task asks for keys, and it is read over by one of its own kind.
      obtain ⟨header', -, h⟩ := of_bind h
      obtain ⟨spec', hspec, h⟩ := of_bind h
      obtain ⟨read, -, hspec⟩ := of_bind hspec
      cases hspec
      cases h
      rfl
  | loop header spec actions =>
    obtain ⟨header', -, h⟩ := of_bind h
    obtain ⟨read, -, h⟩ := of_bind h
    cases h
    rfl
  | choice header spec thenActions elseActions =>
    obtain ⟨header', -, h⟩ := of_bind h
    obtain ⟨read, -, h⟩ := of_bind h
    cases h
    rfl

/-- **A commit that leaves the keys alone leaves all lists of keys**, whatever else it does. -/
theorem keyLists_commit (hnamed : action.KeysNamed) (hkeys : editor.LeavesKeys action) :
    (editor.commit action).1.keyLists = action.keyLists := by
  rcases editor.commit_cases action with
    ⟨cause, hfailed⟩ | ⟨written, name, description, hread, hwritten⟩
  · rw [hfailed]
  · rw [hwritten, keyLists_displayedAs, keyLists_of_readFields hnamed hkeys hread]

/-- The keys that a keyboard action takes from an editor are names. -/
theorem areNames_of_commit {header after : Header} {spec taken : KeyboardTask} {shown : Editor}
    {raw : Json} (hraw : editor.source "keys" = some raw)
    (hcommit : editor.commit (task header (.keyboard spec))
      = (task after (.keyboard taken), .ok shown)) : Key.AreNames taken.keys := by
  rcases editor.commit_cases (task header (.keyboard spec)) with
    ⟨cause, hfailed⟩ | ⟨written, name, description, hread, hwritten⟩
  · rw [hcommit] at hfailed
    cases hfailed
  · obtain ⟨header', read, rfl, hkeys⟩ := keyboard_of_readFields hread
    rw [hcommit] at hwritten
    cases hwritten
    rw [Field.keys, Field.orElse_of_some hraw] at hkeys
    exact normalize_of_keysOf hkeys

end Editor

/-! ## Normalised once and for all -/

/-- **Lists of keys that have been normalised**: those of an action that was read or recorded, and
the one that a keyboard action took from an editor. -/
inductive Normalized : List String → Prop
  | given {action : Action} {keys : List String} (haction : action.Given)
      (hkeys : keys ∈ action.keyLists) : Normalized keys
  | committed {editor shown : Editor} {header after : Header} {spec taken : KeyboardTask}
      {raw : Json} (hraw : editor.source "keys" = some raw)
      (hcommit : editor.commit (task header (.keyboard spec))
        = (task after (.keyboard taken), .ok shown)) : Normalized taken.keys

theorem Normalized.areNames {keys : List String} (h : Normalized keys) : Key.AreNames keys := by
  cases h with
  | given haction hkeys => exact haction.settled.parts.2.1 keys hkeys
  | committed hraw hcommit => exact Editor.areNames_of_commit hraw hcommit

/-- **What may happen to an action later**: one of its documents is read, an editor that leaves its
keys alone is committed to it, or something of the kind happens to an action inside. -/
inductive Later : Action → Action → Prop
  | load {supply : Supply} {place : List Nat} {document : Json} {action after : Action}
      (hdocument : action.WrittenAs document) (hread : read supply place document = .ok after) :
      Later action after
  | commit {editor : Editor} {action : Action} (hkeys : editor.LeavesKeys action) :
      Later action (editor.commit action).1
  | inLoop {header : Header} {spec : LoopSpec} {before behind : List Action} {action after : Action}
      (h : Later action after) :
      Later (loop header spec (before ++ action :: behind))
        (loop header spec (before ++ after :: behind))
  | inThen {header : Header} {spec : ChoiceSpec} {before behind elseActions : List Action}
      {action after : Action} (h : Later action after) :
      Later (choice header spec (before ++ action :: behind) elseActions)
        (choice header spec (before ++ after :: behind) elseActions)
  | inElse {header : Header} {spec : ChoiceSpec} {before behind thenActions : List Action}
      {action after : Action} (h : Later action after) :
      Later (choice header spec thenActions (before ++ action :: behind))
        (choice header spec thenActions (before ++ after :: behind))

variable {action after : Action}

/-- **One thing that happens later leaves the lists of keys.** -/
theorem Later.keyLists (h : Later action after) (hnamed : action.KeysNamed) :
    after.keyLists = action.keyLists := by
  -- What happens to an action inside is over when the actions around it are looked at.
  induction h with
  | @load supply place document action after hdocument hread =>
    rw [hnamed.read supply place hdocument] at hread
    rw [← eq_of_unlessDeep hread, keyLists_ordered]
  | commit hkeys => exact Editor.keyLists_commit hnamed hkeys
  | inLoop _ ih =>
    have hinside := ih ((keysNamed_loop.1 hnamed).of_mem (by simp))
    simp [Action.keyLists, allKeyLists_append, allKeyLists, hinside]
  | inThen _ ih =>
    have hinside := ih ((keysNamed_choice.1 hnamed).1.of_mem (by simp))
    simp [Action.keyLists, allKeyLists_append, allKeyLists, hinside]
  | inElse _ ih =>
    have hinside := ih ((keysNamed_choice.1 hnamed).2.of_mem (by simp))
    simp [Action.keyLists, allKeyLists_append, allKeyLists, hinside]

/-- **Whatever happens later, and however often, the lists of keys stay.** -/
theorem keyLists_of_later (h : Relation.ReflTransGen Later action after)
    (hnamed : action.KeysNamed) : after.keyLists = action.keyLists := by
  induction h with
  | refl => rfl
  | tail _ hstep ih =>
    -- The lists that are there before the step are those of the start, so they are names still.
    rw [← ih]
    apply hstep.keyLists
    unfold KeysNamed
    rw [ih]
    exact hnamed

/-- **Keys that were normalised once stay as they are.** The name of a key is its own name, and a
list that has been normalised is read as itself, be it from a document or from an editor. So the
lists of keys in an action are the same after anything that happens later, and they are the same
again in what each of its documents is read as, unless it goes too deep to be read. -/
theorem normalized_keys_stay :
    (∀ spelling, Key.normalize (Key.normalize spelling) = Key.normalize spelling)
    ∧ (∀ keys, Normalized keys → Field.keysOf (.list (keys.map .text)) = .ok keys)
    ∧ ∀ action after : Action, (∀ keys ∈ action.keyLists, Normalized keys) →
        Relation.ReflTransGen Later action after →
        after.keyLists = action.keyLists
        ∧ ∀ supply place document, after.WrittenAs document →
          ∃ again, read supply place document = unlessDeep (after.isShallow place.length) again
            ∧ again.keyLists = action.keyLists := by
  refine ⟨Key.normalize_normalize, fun keys h => Field.keysOf_texts h.areNames, ?_⟩
  intro action after hkeys hlater
  have hnamed : action.KeysNamed := fun keys hmem => (hkeys keys hmem).areNames
  have hlists := keyLists_of_later hlater hnamed
  have hafter : after.KeysNamed := by
    unfold KeysNamed
    rw [hlists]
    exact hnamed
  refine ⟨hlists, fun supply place document hdocument => ⟨after.ordered, ?_, ?_⟩⟩
  · exact hafter.read supply place hdocument
  · rw [keyLists_ordered, hlists]

/-! ### A combination that is read, put into a loop, edited there and loaded again -/

/-- A combination with blanks around its keys, one of them a digit beyond ASCII. -/
def chordDocument : Json :=
  .object [("keys", .list [.text " ctrl\t", .text "²", .text "x\u00a0"]),
    ("actionKind", .text "KeyCombination")]

def chord : Action :=
  task (.initial "k")
    (.keyboard { KeyboardTask.initial with mode := .combination, keys := ["LeftCtrl", "D²", "X"] })

/-- An editor on it with another pause between characters and a delay below zero. -/
def chordEditor : Editor :=
  ((Editor.ofAction chord).put "char_delay" (.text " 25 ")).put "delay_before" (.int (-5))

def repeating (action : Action) : Action := loop (.initial "l") .initial [action]

def editedRepeating : Action := repeating (chordEditor.commit chord).1

theorem normalized_keys_stay_chord :
    (∀ keys ∈ (repeating chord).keyLists, Normalized keys)
      ∧ Relation.ReflTransGen Later (repeating chord) editedRepeating
      ∧ editedRepeating.WrittenAs editedRepeating.toJson
      ∧ editedRepeating.keyLists = [["LeftCtrl", "D²", "X"]]
      ∧ ∃ again, read (fun _ => "") [0] editedRepeating.toJson = .ok again
        ∧ again.keyLists = [["LeftCtrl", "D²", "X"]] := by
  have hread : read (fun _ => "k") [] chordDocument = .ok chord := by rfl
  have hkeys : ∀ keys ∈ (repeating chord).keyLists, Normalized keys := by
    intro keys hmem
    have hchord : keys ∈ chord.keyLists := hmem
    exact .given (.read hread) hchord
  have hleft : chordEditor.LeavesKeys chord :=
    ((Editor.leavesKeys_ofAction chord).put (by decide) _).put (by decide) _
  have hedited : Later (repeating chord) editedRepeating :=
    @Later.inLoop (.initial "l") .initial [] [] _ _ (.commit hleft)
  have hwritten := writtenAs_toJson editedRepeating
  obtain ⟨hlists, hagain⟩ :=
    normalized_keys_stay.2.2 (repeating chord) editedRepeating hkeys (.single hedited)
  exact ⟨hkeys, .single hedited, hwritten, hlists, hagain (fun _ => "") [0] _ hwritten⟩

end DesktopMacro.Action
