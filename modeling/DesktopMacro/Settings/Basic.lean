/-
The settings of the program.

Settings are read leniently: a value that is missing, empty or not understood is replaced by the
usual one, and numbers that are too small by the smallest that is allowed. What is given directly is
not mended but has to be valid.
-/
import DesktopMacro.Json.Conversion
import DesktopMacro.Json.Writer
import DesktopMacro.Key.Layout
import DesktopMacro.Quantity

set_option autoImplicit false

namespace DesktopMacro

/-- The settings. -/
structure Settings where
  startHotkey : String
  stopHotkey : String
  cancelHotkey : String
  quietInterval : Int
  layout : Layout
  charDelay : Int
  queueSize : Int
  recordKeyboard : Bool
  recordMouse : Bool
  libraryPath : String
  logDirectory : String
  verbose : Bool
deriving DecidableEq, Repr

/-- The name of a layout. -/
def Layout.name : Layout → String
  | german => "de"
  | american => "us"

namespace Settings

/-- The usual settings. -/
def usual : Settings :=
  { startHotkey := "F9", stopHotkey := "F10", cancelHotkey := "Escape", quietInterval := 750,
    layout := .german, charDelay := 10, queueSize := 1024, recordKeyboard := true,
    recordMouse := true, libraryPath := "sequences.json", logDirectory := "logs",
    verbose := false }

/-- **Settings that are allowed**: no negative times, and room in the queue. -/
def IsValid (settings : Settings) : Prop :=
  0 ≤ settings.quietInterval ∧ 0 ≤ settings.charDelay ∧ 0 < settings.queueSize

instance (settings : Settings) : Decidable settings.IsValid :=
  inferInstanceAs (Decidable (0 ≤ settings.quietInterval ∧ 0 ≤ settings.charDelay
    ∧ 0 < settings.queueSize))

/-- The words for a quiet interval that is not allowed. -/
def negativeQuiet : String := "Text quiet interval cannot be negative"

/-- The words for a pause between characters that is not allowed. -/
def negativeDelay : String := "Character delay cannot be negative"

/-- The words for a queue that takes nothing. -/
def noRoom : String := "Event queue size must be positive"

/-- The settings, if they are allowed. -/
def validate (settings : Settings) : Except Cause Settings :=
  if settings.quietInterval < 0 then .error (.badValue negativeQuiet)
  else if settings.charDelay < 0 then .error (.badValue negativeDelay)
  else if settings.queueSize ≤ 0 then .error (.badValue noRoom)
  else .ok settings

/-- The settings as a document holds them. -/
def toJson (settings : Settings) : Json :=
  .object [("start_recording_hotkey", .text settings.startHotkey),
    ("stop_recording_hotkey", .text settings.stopHotkey),
    ("cancel_hotkey", .text settings.cancelHotkey),
    ("text_quiet_interval_ms", .int settings.quietInterval),
    ("keyboard_layout", .text settings.layout.name),
    ("default_char_delay", .int settings.charDelay),
    ("event_queue_size", .int settings.queueSize),
    ("record_keyboard", .bool settings.recordKeyboard),
    ("record_mouse", .bool settings.recordMouse), ("library_path", .text settings.libraryPath),
    ("log_dir", .text settings.logDirectory), ("verbose_logging", .bool settings.verbose)]

/-! ## Reading -/

/-- Any value as text; what is missing or empty is the usual text. -/
def readText (members : Members) (name usual : String) : Except Cause String :=
  match members.get? name with
  | none => .ok usual
  | some raw => if raw.isEmpty then .ok usual else raw.asText

/-- A value as a whole number that is at least the smallest; what has none is the usual number. -/
def readNumber (members : Members) (name : String) (usual smallest : Int) : Except Cause Int :=
  match ((members.get? name).getD .null).whole with
  | .ok n => .ok (max smallest n)
  | .error .infinityToWhole => .error .infinityToWhole
  | .error _ => .ok usual

/-- Any value as a truth value: whether there is anything. -/
def readFlag (members : Members) (name : String) (usual : Bool) : Bool :=
  match members.get? name with
  | none => usual
  | some raw => !raw.isEmpty

/-- The layout that a value names; the usual one if it names none. -/
def readLayout (members : Members) : Except Cause Layout := do
  match members.get? "keyboard_layout" with
  | none => return usual.layout
  | some raw =>
    let text ← if raw.isEmpty then pure "" else raw.asText
    let name := Text.lower text
    return ([Layout.german, .american].find? (fun layout => layout.name == name)).getD usual.layout

/-- **Reads settings**, with something for every value. -/
def read (members : Members) : Except Cause Settings := do
  let layout ← readLayout members
  let startHotkey ← readText members "start_recording_hotkey" usual.startHotkey
  let stopHotkey ← readText members "stop_recording_hotkey" usual.stopHotkey
  let cancelHotkey ← readText members "cancel_hotkey" usual.cancelHotkey
  let quietInterval ← readNumber members "text_quiet_interval_ms" usual.quietInterval 0
  let charDelay ← readNumber members "default_char_delay" usual.charDelay 0
  let queueSize ← readNumber members "event_queue_size" usual.queueSize 1
  let recordKeyboard := readFlag members "record_keyboard" usual.recordKeyboard
  let recordMouse := readFlag members "record_mouse" usual.recordMouse
  let libraryPath ← readText members "library_path" usual.libraryPath
  let logDirectory ← readText members "log_dir" usual.logDirectory
  let verbose := readFlag members "verbose_logging" usual.verbose
  validate
    { startHotkey, stopHotkey, cancelHotkey, quietInterval, layout, charDelay, queueSize,
      recordKeyboard, recordMouse, libraryPath, logDirectory, verbose }

/-! ## Settings that are given -/

/-- The members of the usual settings. -/
def usualMembers : Members :=
  match usual.toJson with
  | .object members => members
  | _ => []

/-- The usual settings with some that are given in their places. -/
def overlay (given : Members) : Members :=
  usualMembers.map (fun entry => (entry.1, (given.get? entry.1).getD entry.2))

/-- The number under a name, or else under the same name of the usual settings. -/
def givenNumber (given : Members) (name : String) : Except Cause Quantity :=
  Quantity.read (((overlay given).get? name).getD .null)

/-- **The settings with some that are given**, as they are. The names have to be known, and the
times and the room in the queue are numbers that are allowed; what is no number at all is not too
small. -/
def given (given : Members) : Except Cause Members := do
  if given.any (fun entry => !usualMembers.has entry.1) then throw (.wrongType "unknown setting")
  if (← givenNumber given "text_quiet_interval_ms").lt (.whole 0) then
    throw (.badValue negativeQuiet)
  if (← givenNumber given "default_char_delay").lt (.whole 0) then throw (.badValue negativeDelay)
  if (← givenNumber given "event_queue_size").le (.whole 0) then throw (.badValue noRoom)
  return overlay given

end Settings
end DesktopMacro
