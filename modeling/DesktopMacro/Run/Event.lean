/-
What can be seen of a run from outside: the input that it makes, its use of the clipboard and of the
browser, its pauses, the sequences it asks for, and what it logs.
-/
import DesktopMacro.Desktop.Device
import DesktopMacro.Note

set_option autoImplicit false

namespace DesktopMacro

/-- Input that a run makes. -/
inductive Input where
  | click (x y : Int) (button : MouseButton)
  | doubleClick (x y : Int)
  | mouseDown (x y : Int) (button : MouseButton)
  | mouseUp (x y : Int) (button : MouseButton)
  | moveTo (x y : Int)
  | scroll (x y delta : Int)
  | pressKey (key : String)
  | pressCombination (keys : List String)
  | typeText (text : String) (charDelay : Int)
deriving DecidableEq, Repr

/-- The word for a sort of input. -/
def Input.word : Input → String
  | click _ _ _ => "click"
  | doubleClick _ _ => "double_click"
  | mouseDown _ _ _ => "mouse_down"
  | mouseUp _ _ _ => "mouse_up"
  | moveTo _ _ => "move_to"
  | scroll _ _ _ => "scroll"
  | pressKey _ => "press_key"
  | pressCombination _ => "press_combination"
  | typeText _ _ => "type_text"

/-- Something that can be seen of a run. -/
inductive Event where
  | logged (note : Note)
  | paused (seconds : Binary64)
  | input (input : Input)
  | clipboardRead (text : Option String)
  | clipboardWritten (text : String)
  | evaluated (script : String)
  | lookedUp (name : String) (values : List (String × String))
  | device (call : DeviceCall)

end DesktopMacro
