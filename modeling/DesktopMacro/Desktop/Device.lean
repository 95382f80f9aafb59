/-
The devices of a desktop, and what they can be told.

The pointer and the keyboard each have a controller of their own. Beside them there is a spare
device that does the same things in one call, a typist that takes a whole text, and the clipboard.
Which of them a desktop has is not for this module to say; here are the calls only, each with what
it is given.
-/
import DesktopMacro.Number.Binary64

set_option autoImplicit false

namespace DesktopMacro

/-- A mouse button. -/
inductive MouseButton where
  | left
  | right
  | middle
deriving DecidableEq, Repr

namespace MouseButton

/-- The word for a button. -/
def word : MouseButton → String
  | left => "left"
  | right => "right"
  | middle => "middle"

/-- The button that a word stands for. -/
def ofWord? (name : String) : Option MouseButton :=
  [left, right, middle].find? (fun button => button.word == name)

end MouseButton

/-- What the keyboard controller presses: a special key by its own name for it, or the key of a
character. -/
inductive KeySymbol where
  | special (name : String)
  | typed (text : String)
deriving DecidableEq, Repr

/-- What the spare device is told. -/
inductive SpareCall where
  | click (x y : Int) (count : Nat) (button : MouseButton)
  | mouseDown (x y : Int) (button : MouseButton)
  | mouseUp (x y : Int) (button : MouseButton)
  | moveTo (x y : Int)
  | scroll (notches x y : Int)
  | press (key : String)
  | combine (keys : List String)
  | write (text : String) (interval : Binary64)
deriving DecidableEq, Repr

/-- What a device is told. -/
inductive DeviceCall where
  | place (x y : Int)
  | click (button : MouseButton) (count : Nat)
  | press (button : MouseButton)
  | release (button : MouseButton)
  | scroll (notches : Int)
  | tapKey (symbol : KeySymbol)
  | pressKey (symbol : KeySymbol)
  | releaseKey (symbol : KeySymbol)
  | typeChar (c : Char)
  | spare (call : SpareCall)
  | dictate (text : String) (pause : Binary64)
  | paste (text : String)
  | copy (text : String)
deriving DecidableEq, Repr

/-- The word for a call on the spare device. -/
def SpareCall.word : SpareCall → String
  | click _ _ _ _ => "gui.click"
  | mouseDown _ _ _ => "gui.mouseDown"
  | mouseUp _ _ _ => "gui.mouseUp"
  | moveTo _ _ => "gui.moveTo"
  | scroll _ _ _ => "gui.scroll"
  | press _ => "gui.press"
  | combine _ => "gui.hotkey"
  | write _ _ => "gui.write"

/-- The word for a call. -/
def DeviceCall.word : DeviceCall → String
  | place _ _ => "mouse.position"
  | click _ _ => "mouse.click"
  | press _ => "mouse.press"
  | release _ => "mouse.release"
  | scroll _ => "mouse.scroll"
  | tapKey _ => "kb.tap"
  | pressKey _ => "kb.press"
  | releaseKey _ => "kb.release"
  | typeChar _ => "kb.type"
  | spare call => call.word
  | dictate _ _ => "pywinauto.send_keys"
  | paste _ => "pyperclip.paste"
  | copy _ => "pyperclip.copy"

end DesktopMacro
