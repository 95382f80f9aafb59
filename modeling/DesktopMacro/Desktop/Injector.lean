/-
Making input on a desktop.

The pointer controller comes first for the mouse, and the keyboard controller for keys and text; the
spare device stands in where the controller is missing. For the mouse it also stands in where the
controller breaks, with a warning; a key that the keyboard controller could not press is not tried
again. A text goes to the typist first, where there is one to expect.

Numbers are given as values and read as whole numbers by the device that needs them, so a value that
has none breaks that device and not the ones after it.
-/
import DesktopMacro.Desktop.KeySymbol
import DesktopMacro.Json.Conversion
import DesktopMacro.Run.Effect

set_option autoImplicit false

namespace DesktopMacro

/-- A desktop: the devices that it has, the special keys of its keyboard controller, how devices are
told something, and how to wait. -/
structure Desktop (ω : Type) where
  hasPointer : Bool
  hasKeyboard : Bool
  hasSpare : Bool
  /-- Is a typist to be expected? -/
  expectsTypist : Bool
  hasTypist : Bool
  hasClipboard : Bool
  specials : List String
  tell : DeviceCall → Effect ω Unit
  paste : Effect ω String
  wait : Binary64 → Effect ω Unit

namespace Desktop

variable {ω : Type} (desktop : Desktop ω)

/-! ## The spare device -/

/-- The failure of input that no device can make. -/
def injectionFailure (message : String) : Failure :=
  .failed (.action (.stated .injection message)) none

/-- Makes sure that there is a spare device. -/
def demandSpare : Effect ω Unit :=
  if desktop.hasSpare then pure ()
  else
    .fail (injectionFailure ("No input backend available (install pynput or pyautogui): "
      ++ (Cause.noModule "pyautogui").text))

/-- Does a failure come from the injection itself? -/
def isInjection : Failure → Bool
  | .failed (.action fault) _ => fault.family = .injection
  | _ => false

/-- Has the spare device do something. What breaks there fails in the given words, unless `keeps`
says that the failure is fit to be told as it is. -/
def spare (words : String) (keeps : Failure → Bool) (call : Except Cause SpareCall) :
    Effect ω Unit := do
  desktop.demandSpare
  match ← Effect.outcome (do desktop.tell (.spare (← Effect.ofExcept call))) with
  | .ok () => return
  | .error failure =>
    if keeps failure then .fail failure
    else .fail (injectionFailure s!"{words} failed: {failure.text}")

/-- Tries a controller, and if it breaks warns in the given words and takes the way around it. -/
def orElse (words : String) (first second : Effect ω Unit) : Effect ω Unit := do
  match ← Effect.outcome first with
  | .ok () => return
  | .error failure =>
    .note .warning s!"{words} failed, fallback to pyautogui: {failure.text}"
    second

/-! ## The mouse -/

/-- The button that a value names; the left one if it names none. -/
def buttonOf (raw : Json) : MouseButton :=
  match raw with
  | .text name => (MouseButton.ofWord? name).getD .left
  | _ => .left

/-- Puts the pointer somewhere. -/
def placePointer (x y : Json) : Effect ω Unit := do
  let x ← Effect.ofExcept x.whole
  let y ← Effect.ofExcept y.whole
  desktop.tell (.place x y)

/-- Has the pointer controller do something at a point, or the spare device the same. -/
def atPoint (x y : Json) (call : DeviceCall) (spareCall : Int → Int → SpareCall) :
    Effect ω Unit :=
  let around := desktop.spare "mouse input" (fun _ => false) do
    return spareCall (← x.whole) (← y.whole)
  if desktop.hasPointer then
    orElse "pynput mouse"
      (do
        desktop.placePointer x y
        desktop.tell call)
      around
  else around

def click (x y button : Json) : Effect ω Unit :=
  desktop.atPoint x y (.click (buttonOf button) 1) (fun x y => .click x y 1 (buttonOf button))

def doubleClick (x y : Json) : Effect ω Unit :=
  desktop.atPoint x y (.click .left 2) (fun x y => .click x y 2 .left)

def mouseDown (x y button : Json) : Effect ω Unit :=
  desktop.atPoint x y (.press (buttonOf button)) (fun x y => .mouseDown x y (buttonOf button))

def mouseUp (x y button : Json) : Effect ω Unit :=
  desktop.atPoint x y (.release (buttonOf button)) (fun x y => .mouseUp x y (buttonOf button))

def moveTo (x y : Json) : Effect ω Unit :=
  let around := desktop.spare "mouse move" isInjection do return .moveTo (← x.whole) (← y.whole)
  if desktop.hasPointer then orElse "pynput move" (desktop.placePointer x y) around
  else around

/-- The units that the wheel reports for one notch. -/
def wheelUnit : Int := 120

/-- The notches in a whole number of wheel units: less than a notch counts as so many notches. -/
def notchesIn (delta : Int) : Except Cause Int :=
  if delta.natAbs < wheelUnit.natAbs then .ok delta
  else
    let quotient := Binary64.ofSignedRatio false delta wheelUnit.natAbs
    if quotient.isFinite then quotient.truncate.mapError Cause.ofWhole
    else .error (.tooLarge "integer division result too large for a float")

/-- The notches in a value. -/
def notches (delta : Json) : Except Cause Int :=
  match delta with
  | .bool b => notchesIn (if b then 1 else 0)
  | .int n => notchesIn n
  | .float x =>
    let unit := Binary64.ofInt wheelUnit
    if unit.le x || x.le unit.neg then (x.div unit).truncate.mapError Cause.ofWhole
    else x.truncate.mapError Cause.ofWhole
  | delta => .error (.wrongType s!"bad operand type for abs(): '{delta.kindName}'")

def scroll (x y delta : Json) : Effect ω Unit := do
  let notches ← Effect.ofExcept (notches delta)
  let around := desktop.spare "scroll" isInjection do
    return .scroll notches (← x.whole) (← y.whole)
  if desktop.hasPointer then
    orElse "pynput scroll"
      (do
        desktop.placePointer x y
        desktop.tell (.scroll notches))
      around
  else around

/-! ## The keyboard -/

def pressKey (key : String) : Effect ω Unit := do
  if desktop.hasKeyboard then
    let symbol ← Effect.ofExcept (Key.symbol desktop.specials key)
    desktop.tell (.tapKey symbol)
  else desktop.spare "key press" isInjection ((Key.spareName key).map .press)

/-- The seconds that a key of a combination is held before the next one goes down. -/
def holdTime : Binary64 := Binary64.div (.ofInt 1) (.ofInt 100)

/-- Presses keys one after the other. The result has those that went down, last one first, and the
failure that ended it, if one did. -/
def pressAll (held : List KeySymbol) :
    List KeySymbol → Effect ω (List KeySymbol × Option Failure)
  | [] => pure (held, none)
  | symbol :: symbols => do
    match ← Effect.outcome (desktop.tell (.pressKey symbol)) with
    | .error failure => return (held, some failure)
    | .ok () =>
      match ← Effect.outcome (desktop.wait holdTime) with
      | .error failure => return (symbol :: held, some failure)
      | .ok () => pressAll (symbol :: held) symbols

/-- Releases keys one after the other. -/
def releaseAll : List KeySymbol → Effect ω Unit
  | [] => pure ()
  | symbol :: symbols => do
    desktop.tell (.releaseKey symbol)
    releaseAll symbols

/-- Presses keys together: those that went down are released again, last one first, also if one
could not be pressed. -/
def holdTogether (symbols : List KeySymbol) : Effect ω Unit := do
  let (held, failure) ← desktop.pressAll [] symbols
  desktop.releaseAll held
  match failure with
  | none => return
  | some failure => .fail failure

def pressCombination (keys : List String) : Effect ω Unit := do
  if keys.isEmpty then return
  else if desktop.hasKeyboard then
    desktop.holdTogether (← Effect.ofExcept (keys.mapM (Key.symbol desktop.specials)))
  else desktop.spare "key combination" isInjection ((keys.mapM Key.spareName).map .combine)

/-! ## Text -/

/-- The characters that mean something to the typist. -/
def typistSigns : List Char := ['+', '^', '%', '~', '(', ')', '{', '}', '[', ']']

/-- A text as the typist takes it: a sign that means something stands in braces. -/
def forTypist (text : String) : String :=
  String.ofList (text.toList.flatMap (fun c =>
    if typistSigns.contains c then ['{', c, '}'] else [c]))

/-- Has the typist write a text, and says whether that worked. -/
def dictate (text : String) (pause : Binary64) : Effect ω Bool := do
  let attempt : Effect ω Unit :=
    if desktop.hasTypist then desktop.tell (.dictate (forTypist text) pause)
    else Effect.ofExcept (.error (.noModule "pywinauto"))
  match ← Effect.outcome attempt with
  | .ok () => return true
  | .error failure =>
    .note .warning s!"pywinauto send_keys failed: {failure.text}"
    return false

/-- Types characters one by one, with a pause after each. -/
def typeChars (pause : Binary64) : List Char → Effect ω Unit
  | [] => pure ()
  | c :: cs => do
    desktop.tell (.typeChar c)
    if !pause.isZero then desktop.wait pause
    typeChars pause cs

/-- The seconds in so many milliseconds between two characters; less than none is none. -/
def charPause (delay : Json) : Except Cause Binary64 := do
  let milliseconds ← delay.whole
  let x := Binary64.ofInt (max 0 milliseconds)
  if x.isFinite then return x.div (.ofInt 1000) else .error .beyondDouble

def typeText (text : String) (delay : Json) : Effect ω Unit := do
  if text.isEmpty then return
  let pause ← Effect.ofExcept (charPause delay)
  let dictated ← if desktop.expectsTypist then desktop.dictate text pause else pure false
  if dictated then return
  if desktop.hasKeyboard then desktop.typeChars pause text.toList
  else desktop.spare "typing" isInjection (.ok (.write text pause))

/-! ## The clipboard -/

/-- Makes sure that there is a clipboard. -/
def demandClipboard : Effect ω Unit :=
  if desktop.hasClipboard then pure () else Effect.ofExcept (.error (.noModule "pyperclip"))

/-- Does something with the clipboard; a refusal fails in the given words. -/
def useClipboard {α : Type} (words : String) (effect : Effect ω α) : Effect ω α := do
  desktop.demandClipboard
  match ← Effect.outcome effect with
  | .ok a => return a
  | .error (.failed (.clipboard message) _) =>
    .fail (injectionFailure s!"Clipboard could not be {words}: {message}")
  | .error failure => .fail failure

/-- What the clipboard holds; the empty text is nothing. -/
def readText : Effect ω (Option String) := do
  let text ← desktop.useClipboard "read" desktop.paste
  return if text.isEmpty then none else some text

def writeText (text : String) : Effect ω Unit :=
  desktop.useClipboard "written" (desktop.tell (.copy text))

/-! ## Input of a run -/

/-- Makes an input. -/
def make : Input → Effect ω Unit
  | .click x y button => desktop.click (.int x) (.int y) (.text button.word)
  | .doubleClick x y => desktop.doubleClick (.int x) (.int y)
  | .mouseDown x y button => desktop.mouseDown (.int x) (.int y) (.text button.word)
  | .mouseUp x y button => desktop.mouseUp (.int x) (.int y) (.text button.word)
  | .moveTo x y => desktop.moveTo (.int x) (.int y)
  | .scroll x y delta => desktop.scroll (.int x) (.int y) (.int delta)
  | .pressKey key => desktop.pressKey key
  | .pressCombination keys => desktop.pressCombination keys
  | .typeText text delay => desktop.typeText text (.int delay)

end Desktop
end DesktopMacro
