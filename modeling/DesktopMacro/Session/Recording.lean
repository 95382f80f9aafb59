/-
Recording, as a program.

The arguments are a library file and the name of the sequence to record into; both have a usual
value. The hotkeys start and stop recordings, and the program ends when one has been kept. The exit
code is 0 then, 1 when the hotkeys cannot be used, and 2 when the library cannot.
-/
import DesktopMacro.Hotkey.Board
import DesktopMacro.Record.Session
import DesktopMacro.Run.Pause
import DesktopMacro.Session.Console

set_option autoImplicit false

namespace DesktopMacro.Recording

variable {ω : Type}

/-- What a program that records works with: the systems for hotkeys and hooks, the place of the
pointer, the clock, whether key codes can be trusted, and identities for what is read and for what
is recorded. -/
structure Equipment (ω : Type) where
  hotkeys : ListenerSystem
  hooks : HookKind → ListenerSystem
  pointer : Effect ω (Int × Int)
  clock : ω → Binary64
  trustsCodes : Bool
  supply : Action.Supply
  idOf : Nat → String

/-- What can happen while hotkeys are listened for. -/
inductive Incident where
  | hotkey (text : String)
  | key (report : KeyReport) (down : Bool)
  | button (x y : Json) (button : Option String) (down : Bool)
  | wheel (x y notches : Json)

/-- The sequence to record into if none is named. -/
def usualName : String := "Recorded Sequence"

/-- A program that records, at a moment. -/
structure Desk (ω : Type) where
  world : ω
  layout : Layout
  map : HotkeyMap
  session : RecordingSession Binary64

/-- Single keys that are hotkeys for a recording. -/
def hotkeyKeys (settings : Settings) : List String :=
  [settings.startHotkey, settings.stopHotkey].filterMap Hotkey.loneKey?

/-- The session that settings ask for. -/
def sessionOf (equipment : Equipment ω) (settings : Settings) (library : Library) (file : Path)
    (name : String) (now : Binary64) : Except Cause (RecordingSession Binary64) := do
  let quiet ← Pause.seconds settings.quietInterval
  let capture := Capture.initial
    ⟨quiet, settings.layout, settings.charDelay, equipment.idOf⟩ now
  let hooks := (if settings.recordKeyboard then [Hook.initial .keyboard] else [])
    ++ (if settings.recordMouse then [Hook.initial .mouse] else [])
  return {
    library, file, hooks
    sequenceName := name
    stopHotkey := settings.stopHotkey
    ignored := hotkeyKeys settings
    recorder := .initial capture (some settings.queueSize.toNat)
    isFinished := false }

/-! ## Incidents -/

/-- The event that comes of an incident, if a hook is there to report it. -/
def eventOf? (equipment : Equipment ω) (layout : Layout) (session : RecordingSession Binary64)
    (now : Binary64) : Incident → Effect ω (Option (InputEvent Binary64))
  | .hotkey _ => return none
  | .key report down =>
    if session.hears .keyboard then
      return (Hook.keyEvent? layout equipment.trustsCodes report down now).map .key
    else return none
  | .button x y button down =>
    if session.hears .mouse then do
      return (← Hook.clickEvent? equipment.pointer x y button down now).map .mouse
    else return none
  | .wheel x y notches =>
    if session.hears .mouse then do
      return (← Hook.wheelEvent? equipment.pointer x y notches now).map .mouse
    else return none

/-- What a hotkey calls for is done. -/
def answer (equipment : Equipment ω) (role : Option HotkeyRole)
    (session : RecordingSession Binary64) (now : Binary64) :
    Session (RecordingSession Binary64) := do
  match role with
  | some .start =>
    let (session, notes) := session.start equipment.hooks now
    Session.take notes
    return session
  | some .stop =>
    let ending := session.stop equipment.hooks (equipment.supply []) now (← get).files
    modify (fun console => { console with files := ending.files })
    Session.take ending.notes
    Session.ofExcept ending.result
    return ending.session
  | _ => return session

/-- Something happens; the recording has caught up with it afterwards. -/
def meet (equipment : Equipment ω) (desk : Desk ω) (incident : Incident) : Session (Desk ω) := do
  let now := equipment.clock desk.world
  let role := match incident with
    | .hotkey text => HotkeyBoard.roleOf? desk.map text
    | _ => none
  let session ← answer equipment role desk.session now
  let reply := eventOf? equipment desk.layout session now incident desk.world
  let event ← Session.ofExcept (reply.result.mapError Failure.cause)
  let (session, notes) := (event.elim session session.push).settle now
  Session.take notes
  return { desk with world := reply.world, session }

/-- Things happen one after the other. -/
def meetAll (equipment : Equipment ω) (desk : Desk ω) : List Incident → Session (Desk ω)
  | [] => return desk
  | incident :: incidents => do
    meetAll equipment (← meet equipment desk incident) incidents

/-! ## The program -/

/-- Says that there is no way to record. -/
def refuse (notes : List Note) : Session Nat := do
  Session.take notes
  Session.say "Global hotkeys unavailable; cannot record."
  return 1

/-- Listens for the hotkeys of a map while things happen. A failure in what happens is one of the
listener. -/
def listen (equipment : Equipment ω) (settings : Settings) (desk : Desk ω)
    (incidents : List Incident) : Session Nat := do
  match equipment.hotkeys.failures .create, equipment.hotkeys.failures .start with
  | some cause, _ | none, some cause => refuse [HotkeyBoard.refusedNote cause]
  | none, none =>
    match ← ExceptT.lift (ExceptT.run (meetAll equipment desk incidents)) with
    | .error cause => refuse [HotkeyBoard.refusedNote cause]
    | .ok _ =>
      Session.take [HotkeyBoard.activeNote desk.map]
      Session.status s!"Press {settings.startHotkey} to record, {settings.stopHotkey} to stop"
      return 0

/-- The library in a file, an empty one if there is no such file. -/
def openLibrary (equipment : Equipment ω) (file : Path) : Session (Option Library) := do
  if ← Session.ofExcept ((← get).files.exists? file.toText) then
    Session.loadLibrary equipment.supply file
  else return some .empty

/-- **The program**, with its arguments and with what happens while it listens. -/
def main (equipment : Equipment ω) (world : ω) (settingsFile : Path) (arguments : List String)
    (incidents : List Incident) : Session Nat := do
  let settings ← Session.openLog settingsFile
  let file := match arguments with
    | [] => Settings.resolve settingsFile settings.libraryPath
    | file :: _ => Path.ofText file
  match ← openLibrary equipment file with
  | none => return 2
  | some library =>
    let session ← Session.ofExcept (sessionOf equipment settings library file
      (arguments[1]?.getD usualName) (equipment.clock world))
    let board := ((HotkeyBoard.initial settings.startHotkey settings.stopHotkey
      settings.cancelHotkey).register .start).register .stop
    match board.prepare equipment.hotkeys.isAvailable with
    | .error notes => refuse notes
    | .ok map => listen equipment settings ⟨world, settings.layout, map, session⟩ incidents

end DesktopMacro.Recording
