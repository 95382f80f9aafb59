/-
The hotkeys of the program, and what each calls for.

Each role has a definition, and only a role that somebody has registered for is listened for. Two of
these may not have the same hotkey. Enabling is all or nothing: if a definition is wrong, or the
system refuses, none of the hotkeys is active.
-/
import DesktopMacro.Hook.Listener
import DesktopMacro.Hotkey.Basic

set_option autoImplicit false

namespace DesktopMacro

/-- What a hotkey calls for. -/
inductive HotkeyRole where
  | start
  | stop
  | cancel
deriving DecidableEq, Repr

/-- The word for a role. -/
def HotkeyRole.word : HotkeyRole → String
  | start => "start"
  | stop => "stop"
  | cancel => "cancel"

/-- The role that a word names. -/
def HotkeyRole.ofWord? (word : String) : Option HotkeyRole :=
  [HotkeyRole.start, .stop, .cancel].find? (fun role => role.word == word)

/-- The hotkeys to listen for, each with its role. -/
abbrev HotkeyMap := List (String × HotkeyRole)

/-- The definitions of the hotkeys, the roles that somebody has registered for, and whether the
hotkeys are active. -/
structure HotkeyBoard where
  definitions : List (HotkeyRole × String)
  registered : List HotkeyRole
  isActive : Bool

namespace HotkeyBoard

/-- A board with definitions for all roles. -/
def initial (start stop cancel : String) : HotkeyBoard :=
  ⟨[(.start, start), (.stop, stop), (.cancel, cancel)], [], false⟩

/-- Somebody registers for a role. -/
def register (board : HotkeyBoard) (role : HotkeyRole) : HotkeyBoard :=
  { board with registered := role :: board.registered }

/-- Adds the hotkeys of definitions to a map. -/
def addAll (registered : List HotkeyRole) (map : HotkeyMap) :
    List (HotkeyRole × String) → Except Cause HotkeyMap
  | [] => .ok map
  | (role, definition) :: more =>
    if registered.contains role then do
      let text := (← Hotkey.read definition).toText
      if map.any (fun entry => entry.1 == text) then
        .error (.badValue s!"Hotkey '{definition}' is assigned twice")
      else addAll registered (map ++ [(text, role)]) more
    else addAll registered map more

/-- **The hotkeys to listen for.** -/
def map (board : HotkeyBoard) : Except Cause HotkeyMap :=
  addAll board.registered [] board.definitions

/-- The role that a hotkey of a map calls for. -/
def roleOf? (map : HotkeyMap) (text : String) : Option HotkeyRole :=
  (map.find? (fun entry => entry.1 == text)).map Prod.snd

/-! ## Enabling -/

/-- What has to be listened for to enable the hotkeys, or the notes on why that cannot be. -/
def prepare (board : HotkeyBoard) (isAvailable : Bool) : Except (List Note) HotkeyMap :=
  match board.map with
  | .error cause => .error [⟨.error, s!"Invalid hotkey definition: {cause.text}"⟩]
  | .ok map =>
    if map.isEmpty then .error []
    else if isAvailable then .ok map
    else .error [⟨.warning, "pynput/keyboard backend not available; global hotkeys disabled"⟩]

/-- The note on hotkeys that are active. -/
def activeNote (map : HotkeyMap) : Note :=
  ⟨.info, "Hotkeys active: " ++ ", ".intercalate (map.map Prod.fst)⟩

/-- The note on hotkeys that the system refuses. -/
def refusedNote (cause : Cause) : Note := ⟨.error, s!"Failed to register hotkeys: {cause.text}"⟩

/-- Enables the hotkeys. The answer says whether they are active, and whether a listener has been
started for it. -/
def enable (board : HotkeyBoard) (system : ListenerSystem) :
    HotkeyBoard × Bool × List Note :=
  if board.isActive then (board, false, [])
  else
    match board.prepare system.isAvailable with
    | .error notes => (board, false, notes)
    | .ok map =>
      match system.failures .create, system.failures .start with
      | some cause, _ | none, some cause => (board, false, [refusedNote cause])
      | none, none => ({ board with isActive := true }, true, [activeNote map])

/-- Disables the hotkeys; a listener that does not stop is left alone. The answer says whether one
has been stopped. -/
def disable (board : HotkeyBoard) (system : ListenerSystem) : HotkeyBoard × Bool :=
  ({ board with isActive := false }, board.isActive && (system.failures .stop).isNone)

end HotkeyBoard
end DesktopMacro
