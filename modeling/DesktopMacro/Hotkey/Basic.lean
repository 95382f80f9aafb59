/-
Hotkeys: keys that call for something wherever they are pressed.

A definition is written by hand: keys with blanks or plus signs between them, special keys by any of
several names. It is read into the keys it means; the text of those is what the system is asked to
listen for.
-/
import DesktopMacro.Cause
import DesktopMacro.Key.Name

set_option autoImplicit false

namespace DesktopMacro

/-- A key of a hotkey: a special key by its name, or the key of a character. -/
inductive HotkeyPart where
  | special (name : String)
  | char (typed : String)
deriving DecidableEq, Repr

namespace HotkeyPart

/-- A key as the system is told it. -/
def toText : HotkeyPart → String
  | special name => "<" ++ name ++ ">"
  | char typed => typed

/-- The names that a definition can have for special keys, in small letters. -/
def aliases : List (String × String) :=
  [("ctrl", "ctrl"), ("control", "ctrl"), ("alt", "alt"), ("shift", "shift"), ("win", "cmd"),
    ("cmd", "cmd"), ("command", "cmd"), ("option", "alt"), ("super", "cmd"), ("escape", "esc"),
    ("esc", "esc"), ("enter", "enter"), ("return", "enter"), ("space", "space"), ("tab", "tab"),
    ("pause", "pause"), ("insert", "insert"), ("delete", "delete"), ("home", "home"),
    ("end", "end"), ("pageup", "page_up"), ("pagedown", "page_down")]

/-- The key of a token. -/
def ofToken? (token : String) : Option HotkeyPart :=
  let lowered := Text.lower token
  match aliases.find? (fun entry => entry.1 == lowered) with
  | some entry => some (special entry.2)
  | none =>
    match lowered.toList with
    | 'f' :: number =>
      if Text.isDigits (String.ofList number) then some (special lowered)
      else if number.isEmpty then some (char lowered)
      else none
    | [_] => some (char lowered)
    | _ => none

end HotkeyPart

/-- A hotkey: its keys, as they were written one after the other. -/
structure Hotkey where
  parts : List HotkeyPart
deriving DecidableEq, Repr

namespace Hotkey

/-- A hotkey as the system is told it. -/
def toText (hotkey : Hotkey) : String := "+".intercalate (hotkey.parts.map HotkeyPart.toText)

/-- The tokens of a definition. -/
def tokens (definition : String) : List String :=
  Text.words (String.ofList (definition.toList.map (fun c => if c = '+' then ' ' else c)))

/-- The cause behind a token that names no key. -/
def unknownToken (definition token : String) : Cause :=
  .badValue s!"Unknown key '{token}' in hotkey '{definition}'"

/-- The key of a token of a definition. -/
def readToken (definition token : String) : Except Cause HotkeyPart :=
  match HotkeyPart.ofToken? token with
  | some part => .ok part
  | none => .error (unknownToken definition token)

/-- **Reads a definition.** -/
def read (definition : String) : Except Cause Hotkey :=
  if definition.isEmpty then .error (.badValue "Empty hotkey string")
  else if (tokens definition).isEmpty then .error (.badValue "Hotkey contains no tokens")
  else (fun parts => ⟨parts⟩) <$> (tokens definition).mapM (readToken definition)

/-- The key of a definition that consists of one: such a key must not end up in a recording. -/
def loneKey? (definition : String) : Option String :=
  match tokens definition with
  | [token] => some (Key.normalize token)
  | _ => none

end Hotkey
end DesktopMacro
