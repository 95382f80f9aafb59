/-
What a keyboard hook reports of a key, and the name of the key.

A special key comes with a name of the system's own. Any other key comes with a code or a character
or both. The code tells which key it is even where the character is none that the key types, as when
Ctrl is held; whether codes can be trusted depends on the system.
-/
import DesktopMacro.Key.Layout
import DesktopMacro.Text.Pieces

set_option autoImplicit false

namespace DesktopMacro

/-- A key as a hook reports it. -/
structure KeyReport where
  name : Option String
  code : Option Int
  char : Option String
deriving DecidableEq, Repr

namespace KeyReport

/-- The names that the system has for special keys, each with the key. -/
def specials : List (String × String) :=
  [("ctrl", "LeftCtrl"), ("ctrl_l", "LeftCtrl"), ("ctrl_r", "RightCtrl"), ("alt", "LeftAlt"),
    ("alt_l", "LeftAlt"), ("alt_r", "RightAlt"), ("alt_gr", "RightAlt"), ("shift", "LeftShift"),
    ("shift_l", "LeftShift"), ("shift_r", "RightShift"), ("cmd", "LWin"), ("cmd_l", "LWin"),
    ("cmd_r", "RWin"), ("space", "Space"), ("enter", "Enter"), ("tab", "Tab"), ("esc", "Escape"),
    ("backspace", "Back"), ("delete", "Delete"), ("insert", "Insert"), ("home", "Home"),
    ("end", "End"), ("page_up", "PageUp"), ("page_down", "PageDown"), ("left", "Left"),
    ("right", "Right"), ("up", "Up"), ("down", "Down"), ("caps_lock", "CapsLock"),
    ("print_screen", "PrintScreen"), ("pause", "Pause"), ("menu", "Apps"),
    ("num_lock", "NumLock"), ("scroll_lock", "Scroll")]

/-- The codes of the keys for signs. -/
def signCodes : List (Nat × String) :=
  [(0xBA, "Oem1"), (0xBB, "OemPlus"), (0xBC, "OemComma"), (0xBD, "OemMinus"), (0xBE, "OemPeriod"),
    (0xBF, "Oem2"), (0xC0, "Oem3"), (0xDB, "Oem4"), (0xDC, "Oem5"), (0xDD, "Oem6"), (0xDE, "Oem7"),
    (0xDF, "Oem8"), (0xE2, "Oem102")]

/-- Keys with codes that follow one another. -/
def numbered (first : Nat) (keys : List String) : List (Nat × String) :=
  (List.range keys.length).zipWith (fun index key => (first + index, key)) keys

/-- The codes of keys. -/
def codes : List (Nat × String) :=
  signCodes ++ numbered 0x41 Key.letters ++ numbered 0x30 Key.digits ++ numbered 0x60 Key.numpad

/-- The key of a name that the system has for a special key; a function key is an f and a number. -/
def ofName? (name : String) : Option String :=
  match specials.find? (fun entry => entry.1 == name) with
  | some entry => some entry.2
  | none =>
    match name.toList with
    | 'f' :: number => if Text.isDigits (String.ofList number) then some (Text.upper name) else none
    | _ => none

/-- The key of a code. -/
def ofCode? (code : Int) : Option String :=
  (codes.find? (fun entry => Int.ofNat entry.1 == code)).map Prod.snd

/-- **The key that a hook reports**, under a layout, with codes trusted or not. A name settles it.
-/
def key? (report : KeyReport) (layout : Layout) (trustsCodes : Bool) : Option String :=
  match report.name with
  | some name => if name.isEmpty then unnamed else ofName? name
  | none => unnamed
where
  /-- The key of a report without a name. -/
  unnamed : Option String :=
    match if trustsCodes then report.code.bind ofCode? else none with
    | some key => some key
    | none => report.char.bind (fun typed => (layout.keyOf typed).map Prod.fst)

end KeyReport
end DesktopMacro
