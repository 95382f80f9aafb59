/-
Which keys the devices can press, and by what name.

The keyboard controller knows special keys by names of its own, as many as it has; a function key
has its number there. Letters, digits and signs are pressed by the character that they type without
shift. A key that is neither cannot be sent. The spare device has a name for each key.
-/
import DesktopMacro.Cause
import DesktopMacro.Desktop.Device
import DesktopMacro.Text.Case
import DesktopMacro.Text.Classes
import DesktopMacro.Text.Pieces

set_option autoImplicit false

namespace DesktopMacro.Key

/-- The special keys with the names that the keyboard controller has for them. -/
def controllerNames : List (String × String) :=
  [("LeftCtrl", "ctrl_l"), ("RightCtrl", "ctrl_r"), ("LeftAlt", "alt_l"), ("RightAlt", "alt_gr"),
    ("LeftShift", "shift_l"), ("RightShift", "shift_r"), ("LWin", "cmd_l"), ("RWin", "cmd_r"),
    ("Enter", "enter"), ("Tab", "tab"), ("Escape", "esc"), ("Back", "backspace"),
    ("Delete", "delete"), ("Insert", "insert"), ("Home", "home"), ("End", "end"),
    ("PageUp", "page_up"), ("PageDown", "page_down"), ("Left", "left"), ("Right", "right"),
    ("Up", "up"), ("Down", "down"), ("CapsLock", "caps_lock"), ("Space", "space"),
    ("PrintScreen", "print_screen"), ("Pause", "pause"), ("Apps", "menu"), ("NumLock", "num_lock"),
    ("Scroll", "scroll_lock")]

/-- The special keys with the names that the spare device has for them. -/
def spareNames : List (String × String) :=
  [("LeftCtrl", "ctrlleft"), ("RightCtrl", "ctrlright"), ("LeftAlt", "altleft"),
    ("RightAlt", "altright"), ("LeftShift", "shiftleft"), ("RightShift", "shiftright"),
    ("LWin", "winleft"), ("RWin", "winright"), ("Enter", "enter"), ("Tab", "tab"),
    ("Escape", "esc"), ("Back", "backspace"), ("Delete", "delete"), ("Insert", "insert"),
    ("Home", "home"), ("End", "end"), ("PageUp", "pageup"), ("PageDown", "pagedown"),
    ("Left", "left"), ("Right", "right"), ("Up", "up"), ("Down", "down"),
    ("CapsLock", "capslock"), ("Space", "space"), ("PrintScreen", "printscreen"),
    ("Pause", "pause"), ("Apps", "apps"), ("NumLock", "numlock"), ("Scroll", "scrolllock")]

/-- The sign keys with the characters that address them. -/
def signChars : List (String × String) :=
  [("OemPeriod", "."), ("OemComma", ","), ("OemMinus", "-"), ("OemPlus", "="), ("Oem1", ";"),
    ("Oem2", "/"), ("Oem3", "\x60"), ("Oem4", "["), ("Oem5", "\\"), ("Oem6", "]"), ("Oem7", "'"),
    ("Oem102", "\\")]

/-- The second entry of the pair that starts with a name. -/
def lookUp (entries : List (String × String)) (name : String) : Option String :=
  (entries.find? (fun entry => entry.1 == name)).map Prod.snd

/-- The character that addresses a key. -/
def char? (key : String) : Option String :=
  match key.toList with
  | [c] => if Text.isLetter c then some (Text.lower key) else lookUp signChars key
  | ['D', c] => if Text.isDigit c then some (String.singleton c) else lookUp signChars key
  | cs =>
    match cs.getLast? with
    | some c =>
      if Text.startsWith key "NumPad" && Text.isDigit c then some (String.singleton c)
      else lookUp signChars key
    | none => none

/-- A function key: an F and a number. -/
def isFunction (key : String) : Bool :=
  match key.toList with
  | 'F' :: number => Text.isDigits (String.ofList number)
  | _ => false

/-- The cause behind a key that no device can press. -/
def unsendable (key : String) : Cause := .action (.stated .injection s!"Key '{key}' cannot be sent")

/-- The name that the keyboard controller would have for a special key. -/
def controllerName? (key : String) : Option String :=
  match lookUp controllerNames key with
  | some name => some name
  | none => if isFunction key then some (Text.lower key) else none

/-- The key of its character. -/
def typedSymbol (key : String) : Except Cause KeySymbol :=
  match char? key with
  | some text => .ok (.typed text)
  | none => .error (unsendable key)

/-- **What the keyboard controller presses** for a key, when it has the given special keys. -/
def symbol (specials : List String) (key : String) : Except Cause KeySymbol :=
  match controllerName? key with
  | some name => if specials.contains name then .ok (.special name) else typedSymbol key
  | none => typedSymbol key

/-- What the spare device presses for a key. -/
def spareName (key : String) : Except Cause String :=
  match lookUp spareNames key with
  | some name => .ok name
  | none =>
    if isFunction key then .ok (Text.lower key)
    else
      match char? key with
      | some text => .ok text
      | none => .error (unsendable key)

/-- The special keys that a keyboard controller has as a rule. -/
def usualSpecials : List String :=
  controllerNames.map Prod.snd ++ (List.range 20).map (fun n => s!"f{n + 1}")

end DesktopMacro.Key
