/-
Names of keys.

A key is a text: `A`, `D1`, `LeftCtrl`, `Enter`. The names on `all` are the ones the library knows;
any other text may stand for a key too and is left as it is. `normalize` brings a spelling to the
name: it looks at aliases first, then at the known names, both without regard to case, and then
turns a lone digit into its digit key. What comes out is a name already, so a second normalisation
changes nothing.
-/
import DesktopMacro.Text.Blank
import DesktopMacro.Text.Classes

set_option autoImplicit false

namespace DesktopMacro.Key

/-! ## The known names -/

/-- The letter keys. -/
def letters : List String :=
  ["A", "B", "C", "D", "E", "F", "G", "H", "I", "J", "K", "L", "M", "N", "O", "P", "Q", "R", "S",
    "T", "U", "V", "W", "X", "Y", "Z"]

/-- The digit keys above the letters. -/
def digits : List String := ["D0", "D1", "D2", "D3", "D4", "D5", "D6", "D7", "D8", "D9"]

/-- The digit keys of the number pad. -/
def numpad : List String :=
  ["NumPad0", "NumPad1", "NumPad2", "NumPad3", "NumPad4", "NumPad5", "NumPad6", "NumPad7",
    "NumPad8", "NumPad9"]

/-- The function keys. -/
def functions : List String :=
  ["F1", "F2", "F3", "F4", "F5", "F6", "F7", "F8", "F9", "F10", "F11", "F12", "F13", "F14", "F15",
    "F16", "F17", "F18", "F19", "F20", "F21", "F22", "F23", "F24"]

/-- The keys for signs, whose characters differ from layout to layout. -/
def signs : List String :=
  ["OemPeriod", "OemComma", "OemMinus", "OemPlus", "Oem1", "Oem2", "Oem3", "Oem4", "Oem5", "Oem6",
    "Oem7", "Oem8", "Oem102"]

def ctrls : List String := ["LeftCtrl", "RightCtrl"]

def alts : List String := ["LeftAlt", "RightAlt"]

def shifts : List String := ["LeftShift", "RightShift"]

/-- The modifiers that make combinations. -/
def modifiers : List String := ctrls ++ alts ++ shifts

/-- The system keys. -/
def systemKeys : List String := ["LWin", "RWin"]

/-- The keys that move, edit or lock. -/
def navigation : List String :=
  ["Enter", "Tab", "Escape", "Back", "Delete", "Insert", "Home", "End", "PageUp", "PageDown",
    "Left", "Right", "Up", "Down", "CapsLock", "PrintScreen", "Pause", "Apps", "NumLock", "Scroll"]

/-- Every known name. -/
def all : List String :=
  modifiers ++ systemKeys ++ letters ++ digits ++ numpad ++ ["Space"] ++ signs ++ navigation
    ++ functions

/-- Other spellings, in small letters, with the name each stands for. -/
def aliases : List (String × String) :=
  [("ctrl", "LeftCtrl"), ("control", "LeftCtrl"), ("lctrl", "LeftCtrl"), ("rctrl", "RightCtrl"),
    ("alt", "LeftAlt"), ("lalt", "LeftAlt"), ("ralt", "RightAlt"), ("altgr", "RightAlt"),
    ("shift", "LeftShift"), ("lshift", "LeftShift"), ("rshift", "RightShift"), ("win", "LWin"),
    ("cmd", "LWin"), ("super", "LWin"), ("return", "Enter"), ("esc", "Escape"),
    ("backspace", "Back"), ("del", "Delete"), ("ins", "Insert"), ("pgup", "PageUp"),
    ("pgdn", "PageDown"), ("oemquestion", "Oem2"), ("oemsemicolon", "Oem1"), ("oemtilde", "Oem3"),
    ("oemopenbrackets", "Oem4"), ("oempipe", "Oem5"), ("oemclosebrackets", "Oem6"),
    ("oemquotes", "Oem7"), ("space", "Space"), (" ", "Space")]

/-! ## Normalisation -/

/-- The name that an alias in small letters stands for. -/
def ofAlias? (lowered : String) : Option String :=
  (aliases.find? (fun entry => entry.1 == lowered)).map Prod.snd

/-- The known name with the given small letters. -/
def ofLowered? (lowered : String) : Option String :=
  all.find? (fun name => Text.lower name == lowered)

/-- The name of a key that is neither an alias nor a known name. -/
def ofOther (token : String) : String :=
  match token.toList with
  | [c] =>
    if Text.isDigit c then String.ofList ['D', c]
    else if c.isAlpha then String.ofList [c.toUpper]
    else token
  | _ => token

/-- **The name of a key** from any spelling of it. -/
def normalize (spelling : String) : String :=
  if spelling == " " then "Space"
  else
    let token := Text.trim spelling
    let lowered := Text.lower token
    match ofAlias? lowered with
    | some name => name
    | none => (ofLowered? lowered).getD (ofOther token)

/-! ## Kinds of keys -/

def isCtrl (key : String) : Bool := ctrls.contains key

def isAlt (key : String) : Bool := alts.contains key

def isShift (key : String) : Bool := shifts.contains key

def isModifier (key : String) : Bool := modifiers.contains key

/-- A key that types a character. -/
def isPrintable (key : String) : Bool :=
  letters.contains key || digits.contains key || numpad.contains key || key == "Space"
    || signs.contains key

/-! ## Display -/

/-- The names under which some keys are shown. -/
def shownNames : List (String × String) :=
  [("Enter", "Enter"), ("Escape", "Esc"), ("OemPlus", "+ (Plus)"), ("OemMinus", "- (Minus)"),
    ("Oem2", "? (Question Mark)"), ("OemPeriod", ". (Period)"), ("OemComma", ", (Comma)"),
    ("Oem7", "' (Quote)"), ("LeftCtrl", "Ctrl (Left)"), ("RightCtrl", "Ctrl (Right)"),
    ("LeftAlt", "Alt (Left)"), ("RightAlt", "Alt (Right)"), ("LeftShift", "Shift (Left)"),
    ("RightShift", "Shift (Right)")]

/-- A key as it is shown. -/
def display (key : String) : String :=
  match shownNames.find? (fun entry => entry.1 == key) with
  | some entry => entry.2
  | none =>
    if digits.contains key then String.ofList (key.toList.drop 1)
    else if key.isEmpty then "[No Key]"
    else key

/-- Keys as they are shown, with a separator between them. -/
def displayAll (separator : String) (keys : List String) : String :=
  if keys.isEmpty then "(none)" else separator.intercalate (keys.map display)

/-! ## Combinations -/

/-- A combination: the flagged modifiers in their fixed order, then the main key. -/
def combination (ctrl alt shift : Bool) (main : String) : List String :=
  (if ctrl then ["LeftCtrl"] else []) ++ (if alt then ["LeftAlt"] else [])
    ++ (if shift then ["LeftShift"] else []) ++ (if main.isEmpty then [] else [main])

end DesktopMacro.Key
