/-
What reports of the hooks contribute to a recording.

A report is held against the modifiers that are down, and against nothing else: not against what has
been recorded, what is waiting, or the time. A key that types a character contributes the character;
while Ctrl or Alt is held, a key contributes a combination; any other key contributes a key press,
and the mouse what it did. Modifiers and keys that go up contribute nothing.

On the other side, a recorded action holds contributions: a text holds its characters, and any other
action holds itself. What is neither is `other`, which no report contributes.
-/
import DesktopMacro.Record.Capture

set_option autoImplicit false

namespace DesktopMacro

/-- The modifiers that count as held. -/
structure Held where
  ctrl : Bool
  alt : Bool
  shift : Bool
deriving DecidableEq, Repr

/-- No modifier is held. -/
def Held.none : Held := ⟨false, false, false⟩

/-- What is recorded of one report, or of one character of a text. -/
inductive Contribution where
  | character (c : Char)
  | combination (keys : List String)
  | keyPress (key : String)
  | mouse (task : MouseTask)
  | other (action : Action)

/-! ## Reports -/

namespace Held

/-- The keys of the held modifiers, in their fixed order. -/
def keys (held : Held) : List String :=
  (if held.ctrl then ["LeftCtrl"] else []) ++ (if held.alt then ["LeftAlt"] else [])
    ++ (if held.shift then ["LeftShift"] else [])

/-- The modifiers that are held after a key went down or up. -/
def turn (held : Held) (key : String) (down : Bool) : Held :=
  if Key.isCtrl key then { held with ctrl := down }
  else if Key.isAlt key then { held with alt := down }
  else if Key.isShift key then { held with shift := down }
  else held

/-- The modifiers that are held after a report. -/
def after {τ : Type} (held : Held) : InputEvent τ → Held
  | .key event => held.turn (Key.normalize event.key) event.down
  | .mouse _ => held

end Held

/-- The character that a key types. -/
def Layout.typed (layout : Layout) (key : String) (shift : Bool) : Char :=
  ((layout.charOf key shift).bind (·.toList.head?)).getD '?'

/-- The gesture of a button that goes down. -/
def clickOf : (button : String) → MouseGesture
  | "right" => .rightClick
  | "middle" => .middleClick
  | _ => .leftClick

/-- What a key that went down contributes. -/
def Contribution.ofKey (layout : Layout) (held : Held) (key : String) : List Contribution :=
  if Key.isModifier key then []
  else if held.ctrl || held.alt then
    [.combination (held.keys ++ if key.isEmpty then [] else [key])]
  else if Key.isPrintable key then [.character (layout.typed key held.shift)]
  else [.keyPress key]

/-- What the mouse contributes. -/
def Contribution.ofMouse {τ : Type} (event : MouseEvent τ) : Contribution :=
  .mouse ⟨event.x, event.y, event.wheel, if event.wheel = 0 then clickOf event.button else .wheel⟩

/-- A report of the mouse whose numbers can be written. -/
def MouseEvent.IsWritable {τ : Type} (event : MouseEvent τ) : Prop :=
  Integer.IsWritable event.x ∧ Integer.IsWritable event.y ∧ Integer.IsWritable event.wheel

instance {τ : Type} (event : MouseEvent τ) : Decidable event.IsWritable :=
  inferInstanceAs (Decidable (_ ∧ _ ∧ _))

/-- The moment of a report. -/
def InputEvent.time {τ : Type} : InputEvent τ → τ
  | .key event => event.time
  | .mouse event => event.time

/-- A report whose numbers can be written. -/
def InputEvent.IsWritable {τ : Type} : InputEvent τ → Prop
  | .key _ => True
  | .mouse event => event.IsWritable

instance {τ : Type} : (event : InputEvent τ) → Decidable event.IsWritable
  | .key _ => inferInstanceAs (Decidable True)
  | .mouse event => inferInstanceAs (Decidable event.IsWritable)

/-- **What a report contributes.** -/
def Contribution.ofReport {τ : Type} (layout : Layout) (held : Held) :
    InputEvent τ → List Contribution
  | .key event => if event.down then ofKey layout held (Key.normalize event.key) else []
  | .mouse event => [ofMouse event]

/-- **What reports contribute**, one after the other. -/
def Contribution.ofReports {τ : Type} (layout : Layout) :
    (held : Held) → List (InputEvent τ) → List Contribution
  | _, [] => []
  | held, event :: events =>
    ofReport layout held event ++ ofReports layout (held.after event) events

/-! ## Recorded actions -/

/-- **What a recorded action holds.** -/
def Contribution.ofAction : Action → List Contribution
  | .task _ (.keyboard ⟨.typeText, text, [], _, false⟩) => text.toList.map .character
  | .task _ (.keyboard ⟨.combination, "", keys, _, false⟩) => [.combination keys]
  | .task _ (.keyboard ⟨.keyPress, "", [key], _, false⟩) => [.keyPress key]
  | .task _ (.mouse task) => [.mouse task]
  | action => [.other action]

/-! ## The two sides meet -/

theorem Held.combination (held : Held) (key : String) :
    Key.combination held.ctrl held.alt held.shift key
      = held.keys ++ if key.isEmpty then [] else [key] := rfl

/-- A key that is no modifier changes nothing about what is held. -/
theorem Held.turn_of_not_isModifier {held : Held} {key : String} {down : Bool}
    (h : Key.isModifier key = false) : held.turn key down = held := by
  have hkind : Key.isCtrl key = false ∧ Key.isAlt key = false ∧ Key.isShift key = false := by
    simpa [Key.isModifier, Key.modifiers, Key.isCtrl, Key.isAlt, Key.isShift, and_assoc] using h
  unfold Held.turn
  rw [hkind.1, hkind.2.1, hkind.2.2]
  rfl

/-- The button of a click decides its gesture. -/
theorem Capture.gestureOf_eq (button : String) : Capture.gestureOf button = clickOf button := by
  by_cases hleft : button = "left"
  · subst hleft
    rfl
  by_cases hright : button = "right"
  · subst hright
    rfl
  by_cases hmiddle : button = "middle"
  · subst hmiddle
    rfl
  -- Any other button has no word among the buttons.
  have hword : MouseButton.ofWord? button = none := by
    simp [MouseButton.ofWord?, MouseButton.word, Ne.symm hleft, Ne.symm hright, Ne.symm hmiddle]
  unfold Capture.gestureOf clickOf
  rw [hword]
  dsimp only
  split
  · exact absurd rfl hright
  · exact absurd rfl hmiddle
  · rfl

namespace Layout

theorem length_of_mem_letters :
    ∀ key ∈ Key.letters, key.toList.length = 1 ∧ (Text.lower key).toList.length = 1 := by
  decide

theorem length_of_mem_numpad : ∀ key ∈ Key.numpad, (key.toList.drop 6).length = 1 := by
  decide

/-- A key that types at all types one character. -/
theorem exists_charOf (layout : Layout) {key : String} (shift : Bool)
    (h : Key.isPrintable key = true) :
    ∃ s, layout.charOf key shift = some s ∧ s.toList.length = 1 := by
  unfold charOf
  split
  · next hletter =>
    obtain ⟨hkey, hlower⟩ := length_of_mem_letters key (List.contains_iff_mem.1 hletter)
    refine ⟨_, rfl, ?_⟩
    split
    · exact hkey
    · exact hlower
  split
  · next hnumpad =>
    refine ⟨_, rfl, ?_⟩
    rw [String.toList_ofList]
    exact length_of_mem_numpad key (List.contains_iff_mem.1 hnumpad)
  split
  · exact ⟨_, rfl, rfl⟩
  rw [if_neg (by simp [h])]
  split
  · exact ⟨_, rfl, rfl⟩
  · exact ⟨_, rfl, by rw [String.toList_singleton]; rfl⟩

/-- **The text that a printable key types is its character.** -/
theorem charOf_of_isPrintable (layout : Layout) {key : String} (shift : Bool)
    (h : Key.isPrintable key = true) :
    (layout.charOf key shift).getD "?" = String.singleton (layout.typed key shift) := by
  obtain ⟨s, hs, hlength⟩ := layout.exists_charOf shift h
  obtain ⟨c, hc⟩ := List.length_eq_one_iff.1 hlength
  have htyped : layout.typed key shift = c := by
    unfold typed
    rw [hs, Option.bind_some, hc]
    rfl
  rw [hs, htyped, Option.getD_some, ← String.toList_inj, hc, String.toList_singleton]

end Layout
end DesktopMacro
