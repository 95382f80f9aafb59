/-
Listening to the keyboard and the mouse.

A listener has to be created and started before it reports anything, and either step can fail; it is
then as if it had never been tried. It runs until it is stopped, also if the stopping fails. What it
reports becomes an event with the time at which it came, unless nothing here can record it.
-/
import DesktopMacro.Hook.KeyCode
import DesktopMacro.Json.Conversion
import DesktopMacro.Record.Event
import DesktopMacro.Run.Effect

set_option autoImplicit false

namespace DesktopMacro

/-- The steps of a listener. -/
inductive ListenerStep where
  | create
  | start
  | stop
deriving DecidableEq, Repr

/-- The word for a step. -/
def ListenerStep.word : ListenerStep → String
  | create => "create"
  | start => "start"
  | stop => "stop"

/-- How the system deals with a sort of listener: whether there is any, and which of its steps fail,
with what. -/
structure ListenerSystem where
  isAvailable : Bool
  failures : ListenerStep → Option Cause

/-- The sorts of hooks. -/
inductive HookKind where
  | keyboard
  | mouse
deriving DecidableEq, Repr

/-- The cause behind a sort of hook that the system does not have. -/
def HookKind.unavailable : HookKind → Cause
  | keyboard =>
    .unavailable "pynput/keyboard backend not available; recording is disabled"
  | mouse =>
    .unavailable "pynput/mouse backend not available; mouse recording is disabled"

/-- A hook. -/
structure Hook where
  kind : HookKind
  isRunning : Bool
  /-- Has a listener ever been created? It reports even when it has stopped. -/
  isCreated : Bool
deriving DecidableEq, Repr

namespace Hook

/-- A hook that has not been started. -/
def initial (kind : HookKind) : Hook := ⟨kind, false, false⟩

/-- Starts a hook. It is an answer of false when it runs already, or with a cause when it cannot be
started. -/
def start (system : ListenerSystem) (hook : Hook) : Except (Option Cause) Unit × Hook :=
  if hook.isRunning then (.error none, hook)
  else if !system.isAvailable then (.error (some hook.kind.unavailable), hook)
  else
    match system.failures .create, system.failures .start with
    | some cause, _ => (.error (some cause), hook)
    | none, some cause => (.error (some cause), { hook with isCreated := true })
    | none, none => (.ok (), { hook with isRunning := true, isCreated := true })

/-- Stops a hook; the answer is whether there was something to stop. -/
def stop (system : ListenerSystem) (hook : Hook) : Except Cause Bool × Hook :=
  let stopped := { hook with isRunning := false }
  if !hook.isRunning then (.ok false, stopped)
  else
    match system.failures .stop with
    | some cause => (.error cause, stopped)
    | none => (.ok true, stopped)

/-! ## Reports -/

/-- The event of a key that a hook reports. -/
def keyEvent? {τ : Type} (layout : Layout) (trustsCodes : Bool) (report : KeyReport) (down : Bool)
    (now : τ) : Option (KeyEvent τ) :=
  (report.key? layout trustsCodes).map (fun key => ⟨key, down, now⟩)

variable {ω τ : Type}

/-- Where the mouse is: where the pointer is known to be, and else where the report says. -/
def pointOf (pointer : Effect ω (Int × Int)) (x y : Json) : Effect ω (Int × Int) := do
  match ← Effect.outcome pointer with
  | .ok point => return point
  | .error _ => return (← Effect.ofExcept x.whole, ← Effect.ofExcept y.whole)

/-- The event of a button that a hook reports: one of the known buttons has to go down. -/
def clickEvent? (pointer : Effect ω (Int × Int)) (x y : Json) (button : Option String) (down : Bool)
    (now : τ) : Effect ω (Option (MouseEvent τ)) := do
  match button.bind MouseButton.ofWord? with
  | none => return none
  | some button =>
    if down then
      let (x, y) ← pointOf pointer x y
      return some ⟨x, y, button.word, now, 0⟩
    else return none

/-- The units that the wheel reports for one notch. -/
def unitsPerNotch : Int := 120

/-- The wheel units in a number of notches; a half goes to the even neighbour. -/
def wheelUnits (notches : Json) : Except Cause Int :=
  match notches with
  | .float x => (x.mul (.ofInt unitsPerNotch)).round.mapError Cause.ofWhole
  | .text s => .error (Json.text s).notWhole
  | raw => raw.whole.map (· * unitsPerNotch)

/-- The event of a wheel that a hook reports; less than half a unit is none. -/
def wheelEvent? (pointer : Effect ω (Int × Int)) (x y notches : Json) (now : τ) :
    Effect ω (Option (MouseEvent τ)) := do
  let wheel ← Effect.ofExcept (wheelUnits notches)
  if wheel = 0 then return none
  else
    let (x, y) ← pointOf pointer x y
    return some ⟨x, y, "", now, wheel⟩

end Hook
end DesktopMacro
