/-
Appending to the clipboard.

A clipboard action that appends reads the clipboard, puts its text behind what it has read, and
writes that. An attempt that fails leaves the clipboard as it was, whether it failed in reading or
in writing, and so does the pause behind it; so each action contributes its text once, however many
attempts it took, and a row of actions leaves behind what was there with the texts behind it.

Some platforms refuse an empty text, so a blank is written for it, and later actions read the blank
back. That happens at the first action or not at all, since nothing is empty afterwards.
-/
import DesktopMacro.Proofs.Run.FrameRules
import DesktopMacro.Proofs.Run.Retrying

set_option autoImplicit false

namespace DesktopMacro

variable {ω α : Type}

/-! ## A clipboard -/

/-- **The collaborators have a clipboard** that holds a text or nothing. What is read is what it
holds, what is written it holds from then on, and one that fails leaves it as it was, just as
reading does, and pausing. -/
structure Collaborators.HasClipboard (team : Collaborators ω) (held : ω → Option String) :
    Prop where
  reads : ∀ world text, (team.readClipboard world).result = .ok text → text = held world
  kept : ∀ world, held (team.readClipboard world).world = held world
  takes : ∀ text world, (team.writeClipboard text world).result = .ok () →
    held (team.writeClipboard text world).world = some text
  refuses : ∀ text world f, (team.writeClipboard text world).result = .error f →
    held (team.writeClipboard text world).world = held world
  rests : ∀ slice world, held (team.pause slice world).world = held world

namespace Run

/-! ## What leaves the clipboard alone -/

/-- **The clipboard is untouched**: it holds what it held, and the running sequences have the
variables that they had. -/
structure Untouched (held : ω → Option String) (m m' : Machine ω) : Prop where
  clipboard : held m'.world = held m.world
  frames : m'.frames = m.frames

variable {held : ω → Option String} {team : Collaborators ω} {m m₁ m' : Machine ω}

namespace Untouched

theorem refl (m : Machine ω) : Untouched held m m := ⟨rfl, rfl⟩

theorem trans (h : Untouched held m m₁) (h' : Untouched held m₁ m') : Untouched held m m' :=
  ⟨h'.clipboard.trans h.clipboard, h'.frames.trans h.frames⟩

theorem store (h : Untouched held m m') : m'.store = m.store := by
  unfold Machine.store
  rw [h.frames]

theorem told (seen : List Event) (text : String) (m : Machine ω) :
    Untouched held m ((m.see seen).tell text) := by
  unfold Machine.tell
  split
  · exact ⟨rfl, rfl⟩
  · exact ⟨rfl, rfl⟩

end Untouched

/-! ## One attempt -/

/-- The text that a clipboard task contributes, with these variables. -/
def contribution (task : ClipboardTask) (store : Store) : Except Cause String :=
  if task.useVariable && !task.variableName.isEmpty then store.text task.variableName ""
  else .ok task.text

/-- What is written for a text. -/
def written (text : String) : String := if text.isEmpty then " " else text

/-- **What an attempt to append comes to**: it fails and leaves the clipboard alone, or the
clipboard holds what it held with the text of the task behind it. -/
def Appends (held : ω → Option String) (task : ClipboardTask) (m m' : Machine ω) :
    Except Failure Unit → Prop
  | .error _ => Untouched held m m'
  | .ok () => ∃ text, contribution task m.store = .ok text ∧
      held m'.world = some (written ((held m.world).getD "" ++ text)) ∧ m'.frames = m.frames

/-- What was done before and left the clipboard alone makes no difference. -/
theorem Appends.after {task : ClipboardTask} {result : Except Failure Unit}
    (h : Appends held task m₁ m' result) (hbefore : Untouched held m m₁) :
    Appends held task m m' result := by
  cases result with
  | error f => exact hbefore.trans h
  | ok _ =>
    obtain ⟨text, htext, hheld, hframes⟩ := h
    rw [hbefore.store] at htext
    rw [hbefore.clipboard] at hheld
    exact ⟨text, htext, hheld, hframes.trans hbefore.frames⟩

/-! ## All attempts -/

/-- **A clipboard action that appends**, and is not disabled. -/
structure AppendAction where
  header : Action.Header
  task : ClipboardTask
  isEnabled : header.enabled = true
  appends : task.append = true

namespace AppendAction

/-- The action itself. -/
def action (append : AppendAction) : Action := .task append.header (.clipboard append.task)

/-- Says that an action at a place is next, which takes that it can be described. -/
def announce (place : Place) (append : AppendAction) (now : Action.Header) : Run ω Unit := do
  mark (.dispatched place)
  let _ ← ofExcept (Action.task now (.clipboard append.task)).describe?

/-- What is done at a place before the attempts of an action: it waits if it has a delay, and is
announced. The result is its header as it is now. -/
def started (team : Collaborators ω) (place : Place) (append : AppendAction) :
    Run ω Action.Header := do
  let (now, _) ← current place append.header (.clipboard append.task)
  check
  if 0 < now.delayBefore then team.sleep now.delayBefore
  append.announce place now
  return now

/-- The attempts of an action, with its header as it is now: does one succeed? -/
def attempts (team : Collaborators ω) (append : AppendAction) (now : Action.Header) : Run ω Bool :=
  Retry.run team (.task now (.clipboard append.task)) "Clipboard action" append.task.retries
    append.task.retryPause (attemptClipboard team append.task)

variable {append : AppendAction} {place : Place} {now : Action.Header}

theorem unchanged (append : AppendAction) (change : Change) :
    change.apply (.clipboard append.task) = .clipboard append.task := by
  cases change <;> rfl

/-- What the clipboard holds when some texts have been appended one after the other. -/
def appended (before : Option String) (texts : List String) : Option String :=
  texts.foldl (fun before text => some (written (before.getD "" ++ text))) before

/-- Collaborators with a clipboard that refuses the second text that is written, in a world of what
it holds and of how many were. -/
def withMoodyClipboard : Collaborators (Option String × Nat) where
  input _ := .done ()
  readClipboard := fun world => ⟨.ok world.1, [], false, world⟩
  writeClipboard text := fun
    | (before, 1) => ⟨.error (.failed (.clipboard "busy") none), [], false, (before, 2)⟩
    | (_, writes) => ⟨.ok (), [], false, (some text, writes + 1)⟩
  evaluate := none
  readFile path _ _ := .error (.file .missing path none)
  pause _ := .done ()
  freshDigits := ""

theorem withMoodyClipboard_hasClipboard : withMoodyClipboard.HasClipboard Prod.fst where
  reads := by
    rintro world text ⟨⟩
    rfl
  kept _ := rfl
  takes := by
    rintro text ⟨before, _ | _ | writes⟩ hresult
    · rfl
    · cases hresult
    · rfl
  refuses := by
    rintro text ⟨before, _ | _ | writes⟩ f hresult
    · cases hresult
    · rfl
    · cases hresult
  rests _ _ := rfl

/-- An action that appends a text. -/
def appendText (text : String) : AppendAction :=
  ⟨.initial "", ⟨text, true, false, "", 0, 0⟩, rfl, rfl⟩

/-- **A blank is in front** where a row of actions begins with nothing: the clipboard does not hold
`x` behind two empty texts. -/
theorem append_begins_blank :
    withMoodyClipboard.HasClipboard Prod.fst ∧
      ((runActions withMoodyClipboard none [] 0 ([appendText "", appendText "x"].map action)).on
        (.initial (some "", 2) .empty)).1 = .ok () ∧
      ((runActions withMoodyClipboard none [] 0 ([appendText "", appendText "x"].map action)).on
        (.initial (some "", 2) .empty)).2.world.1 = some " x" ∧
      " x" ≠ "" ++ "" ++ "x" :=
  ⟨withMoodyClipboard_hasClipboard, rfl, rfl, by decide⟩

end AppendAction

end Run
end DesktopMacro
