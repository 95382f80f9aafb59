/-
Actions on the input devices, and pauses.

Each kind of action has a structure for its own fields, with four functions beside it: the fields as
a document holds them, in their order; reading them over the values that are there; the words that
describe the action; and the numbers that those words show, which matters because a number can be
too long to be written.
-/
import DesktopMacro.Action.Field

set_option autoImplicit false

namespace DesktopMacro

/-- A text cut down to twenty characters, with dots for what is missing. -/
def preview (text : String) : String :=
  if 20 < text.length then String.ofList (text.toList.take 17) ++ "..." else text

/-! ## The mouse -/

/-- A gesture at a point. -/
structure MouseTask where
  x : Int
  y : Int
  wheel : Int
  gesture : MouseGesture
deriving DecidableEq, Repr

namespace MouseTask

def initial : MouseTask := ⟨0, 0, 0, .leftClick⟩

def members (task : MouseTask) : Members :=
  [("x", .int task.x), ("y", .int task.y), ("wheel_delta", .int task.wheel),
    ("click_kind", .text (Vocabulary.word task.gesture))]

def read (source : Source) (task : MouseTask) : Except Cause MouseTask := do
  let x ← Field.integer source "x" task.x
  let y ← Field.integer source "y" task.y
  let wheel ← Field.integer source "wheel_delta" task.wheel
  let gesture ← Field.word source "click_kind" task.gesture
  return { x, y, wheel, gesture }

/-- A point as messages show it. -/
def showPoint (x y : Int) : String := s!"({Integer.toText x}, {Integer.toText y})"

def describe (task : MouseTask) : String :=
  let point := showPoint task.x task.y
  match task.gesture with
  | .wheel => s!"Mouse wheel {point} Delta: {Integer.toText task.wheel}"
  | .middleClick => s!"Middle click {point}"
  | gesture => s!"{Vocabulary.shown gesture} {point}"

def shownNumbers (task : MouseTask) : List Int :=
  match task.gesture with
  | .wheel => [task.x, task.y, task.wheel]
  | _ => [task.x, task.y]

end MouseTask

/-! ## The keyboard -/

/-- Typing a text or pressing keys. -/
structure KeyboardTask where
  mode : KeyboardMode
  text : String
  keys : List String
  charDelay : Int
  useClipboard : Bool
deriving DecidableEq, Repr

namespace KeyboardTask

def initial : KeyboardTask := ⟨.typeText, "", [], 10, false⟩

def members (task : KeyboardTask) : Members :=
  [("action_kind", .text (Vocabulary.word task.mode)), ("text", .text task.text),
    ("keys", .list (task.keys.map .text)), ("char_delay", .int task.charDelay),
    ("use_clipboard", .bool task.useClipboard)]

def read (source : Source) (task : KeyboardTask) : Except Cause KeyboardTask := do
  let mode ← Field.word source "action_kind" task.mode
  let text ← Field.text source "text" task.text
  let keys ← Field.keys source "keys" task.keys
  let charDelay ← Field.integer source "char_delay" task.charDelay
  let useClipboard ← Field.bool source "use_clipboard" task.useClipboard
  return { mode, text, keys, charDelay, useClipboard }

/-- A text as the description of typing it shows it. -/
def showText (text : String) : String := "Text: \"" ++ preview text ++ "\""

/-- The keys of a task as messages show them. -/
def showKeys (task : KeyboardTask) : String := Key.displayAll " + " task.keys

def describe (task : KeyboardTask) : String :=
  match task.mode with
  | .typeText => showText task.text ++ (if task.useClipboard then " (from clipboard)" else "")
  | .keyPress => "Key: " ++ task.showKeys
  | .combination => "Combination: " ++ task.showKeys
  | .hotkey => "Hotkey: " ++ task.showKeys

/-- The name that the fields give to the action. -/
def derivedName (task : KeyboardTask) : String :=
  match task.mode with
  | .typeText =>
    if task.useClipboard then "Text from Clipboard"
    else if task.text.isEmpty then "Text Input"
    else showText task.text
  | mode =>
    if task.keys.isEmpty then
      match mode with
      | .keyPress => "Single Key"
      | .combination => "Key Combination"
      | _ => "Hotkey"
    else task.describe

end KeyboardTask

/-! ## Pauses -/

/-- A pause of so many milliseconds. -/
structure WaitTask where
  duration : Int
deriving DecidableEq, Repr

namespace WaitTask

def initial : WaitTask := ⟨1000⟩

def members (task : WaitTask) : Members := [("wait_time", .int task.duration)]

def read (source : Source) (task : WaitTask) : Except Cause WaitTask :=
  return ⟨← Field.integer source "wait_time" task.duration⟩

def describe (task : WaitTask) : String := s!"Wait: {Integer.toText task.duration} ms"

end WaitTask
end DesktopMacro
