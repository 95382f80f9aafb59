/-
Making actions out of what the hooks report.

Keys that type a character are gathered into one text. The text becomes an action when no key went
down for the quiet interval, and at the latest before any other action and at the end. A key that
goes down while Ctrl or Alt is held is a combination; any other key that types nothing, and is no
modifier, is a key press; a mouse button and a step of the wheel are actions of their own. A key
that goes up only releases a modifier.

A text whose quiet interval has run out belongs to the moment at which it ran out, whenever that is
noticed. The delay of an action is the time since the action before it, or since the start.
-/
import DesktopMacro.Action.Basic
import DesktopMacro.Desktop.Device
import DesktopMacro.Key.Layout
import DesktopMacro.Note
import DesktopMacro.Record.Event

set_option autoImplicit false

namespace DesktopMacro

/-- How a recording is made: the quiet interval, the keyboard, the pause between the characters of a
text when it is typed again, and the identities of actions by their number. -/
structure CaptureSettings (τ : Type) where
  quiet : τ
  layout : Layout
  charDelay : Int
  idOf : Nat → String

/-- A recording. -/
structure Capture (τ : Type) where
  settings : CaptureSettings τ
  isRecording : Bool
  ctrl : Bool
  alt : Bool
  shift : Bool
  /-- The characters that are not in an action yet, a text for each key. -/
  pending : List String
  lastKey : τ
  lastEmission : τ
  recorded : List Action
  /-- How many actions were ever recorded. -/
  serial : Nat

/-- What a recording is in the middle of. -/
inductive CaptureState where
  | idle
  | buffering
  | awaitingRelease
deriving DecidableEq, Repr

/-- The word for a state. -/
def CaptureState.word : CaptureState → String
  | idle => "idle"
  | buffering => "buffering_text"
  | awaitingRelease => "awaiting_combo_release"

/-- A step of a recording, which can fail; what was done before the failure stays done. -/
abbrev Capturing (τ α : Type) := ExceptT Cause (StateM (Capture τ)) α

namespace Capture

variable {τ : Type}

/-- A recording that has not started. -/
def initial (settings : CaptureSettings τ) (now : τ) : Capture τ :=
  { settings, isRecording := false, ctrl := false, alt := false, shift := false, pending := [],
    lastKey := now, lastEmission := now, recorded := [], serial := 0 }

/-- The characters that are not in an action yet. -/
def pendingText (capture : Capture τ) : String := String.join capture.pending

def state (capture : Capture τ) : CaptureState :=
  if !capture.pending.isEmpty then .buffering
  else if capture.ctrl || capture.alt then .awaitingRelease
  else .idle

/-- Runs a step. -/
def step {α : Type} (capture : Capture τ) (step : Capturing τ α) : Except Cause α × Capture τ :=
  (ExceptT.run step).run capture

/-! ## Beginning -/

/-- The note on a start. -/
def startNote : Note := ⟨.info, "Recording started"⟩

/-- Starts to record: everything from before is forgotten. -/
def start (capture : Capture τ) (now : τ) : Capture τ :=
  { capture with
    isRecording := true, ctrl := false, alt := false, shift := false, pending := [],
    lastKey := now, lastEmission := now, recorded := [] }

/-! ## Actions -/

/-- The header of the next action; its delay is filled in when it is recorded. -/
def nextHeader (capture : Capture τ) (name description : String) : Action.Header :=
  { Action.Header.initial (capture.settings.idOf capture.serial) with name, description }

variable [Timeline τ]

/-- Records an action as of a moment. -/
def emit (name description : String) (task : Action.Task) (now : τ) : Capturing τ Action := do
  let capture ← get
  let gap ← (Timeline.milliseconds capture.lastEmission now : Except Cause Int)
  let header := { capture.nextHeader name description with delayBefore := max 0 gap }
  let action ← (Action.withDisplay? (.task header task) : Except Cause Action)
  set { capture with
    lastEmission := now, recorded := capture.recorded ++ [action], serial := capture.serial + 1 }
  return action

/-- Records an action on the keyboard. -/
def emitKeys (mode : KeyboardMode) (text : String) (keys : List String) (charDelay : Int)
    (now : τ) : Capturing τ Action :=
  emit "" "" (.keyboard ⟨mode, text, keys, charDelay, false⟩) now

/-- Turns the characters that are waiting into an action. -/
def flush (now : τ) : Capturing τ (List Action) := do
  let capture ← get
  if capture.pending.isEmpty then return []
  set { capture with pending := [] }
  return [← emitKeys .typeText capture.pendingText [] capture.settings.charDelay now]

/-- Turns the characters that are waiting into an action if the quiet interval has run out. -/
def poll (now : τ) : Capturing τ (List Action) := do
  let capture ← get
  if capture.pending.isEmpty then return []
  let deadline ← (Timeline.after capture.lastKey capture.settings.quiet : Except Cause τ)
  if Timeline.isBefore now deadline then return [] else flush deadline

/-! ## Keys -/

/-- The recording after a modifier went down or up. -/
def setModifier (capture : Capture τ) (key : String) (down : Bool) : Capture τ :=
  if Key.isCtrl key then { capture with ctrl := down }
  else if Key.isAlt key then { capture with alt := down }
  else if Key.isShift key then { capture with shift := down }
  else capture

/-- The recording after a key that types a character. -/
def gather (capture : Capture τ) (key : String) (now : τ) : Capture τ :=
  let typed := (capture.settings.layout.charOf key capture.shift).getD "?"
  { capture with pending := capture.pending ++ [typed], lastKey := now }

/-- The characters between two keys are typed again with the usual pause where nothing says
otherwise. -/
def usualDelay : Int := KeyboardTask.initial.charDelay

/-- Takes a key that went down and is no modifier. -/
def takeKey (key : String) (now : τ) : Capturing τ (List Action) := do
  let capture ← get
  if capture.ctrl || capture.alt then
    let flushed ← flush now
    let keys := Key.combination capture.ctrl capture.alt capture.shift key
    return flushed ++ [← emitKeys .combination "" keys usualDelay now]
  else if Key.isPrintable key then
    set (capture.gather key now)
    return []
  else
    let flushed ← flush now
    return flushed ++ [← emitKeys .keyPress "" [key] usualDelay now]

/-- Takes what a hook reports of a key. -/
def handleKey (event : KeyEvent τ) : Capturing τ (List Action) := do
  let key := Key.normalize event.key
  if !(← get).isRecording then return []
  else if !event.down then
    modify (·.setModifier key false)
    return []
  else
    let polled ← poll event.time
    if Key.isModifier key then
      modify (·.setModifier key true)
      return polled
    else return polled ++ (← takeKey key event.time)

/-! ## The mouse -/

/-- The gesture of a button; one that is not known counts as the left one. -/
def gestureOf (button : String) : MouseGesture :=
  match MouseButton.ofWord? button with
  | some .right => .rightClick
  | some .middle => .middleClick
  | _ => .leftClick

/-- Records what the mouse did. -/
def emitMouse (event : MouseEvent τ) : Capturing τ Action := do
  if !([event.x, event.y, event.wheel].all (fun n => decide (Integer.IsWritable n))) then
    throw .numberUnwritable
  let point := MouseTask.showPoint event.x event.y
  if event.wheel = 0 then
    emit s!"Click at {point}" s!"{Text.capitalize event.button} click at position {point}"
      (.mouse ⟨event.x, event.y, 0, gestureOf event.button⟩) event.time
  else
    let direction := if 0 < event.wheel then "up" else "down"
    emit s!"Mouse wheel at {point}"
      s!"Mouse wheel {direction} at position {point}, Delta: {Integer.toText event.wheel}"
      (.mouse ⟨event.x, event.y, event.wheel, .wheel⟩) event.time

/-- Takes what a hook reports of the mouse, after any text from before. -/
def handleMouse (event : MouseEvent τ) : Capturing τ (List Action) := do
  if !(← get).isRecording then return []
  let polled ← poll event.time
  let flushed ← flush event.time
  return polled ++ flushed ++ [← emitMouse event]

/-- Takes what a hook reports. -/
def handle : InputEvent τ → Capturing τ (List Action)
  | .key event => handleKey event
  | .mouse event => handleMouse event

/-! ## The end -/

/-- The note on an end. -/
def stopNote (capture : Capture τ) : Note :=
  ⟨.info, s!"Recording stopped ({capture.recorded.length} actions)"⟩

/-- Stops to record: a text that is waiting becomes an action. The notes say so, unless nothing was
being recorded. -/
def stop (now : τ) : Capturing τ (List Action × List Note) := do
  if !(← get).isRecording then return ([], [])
  let flushed ← flush now
  modify (fun capture =>
    { capture with isRecording := false, ctrl := false, alt := false, shift := false })
  return (flushed, [(← get).stopNote])

end Capture
end DesktopMacro
