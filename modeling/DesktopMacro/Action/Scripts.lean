/-
Actions that follow a script: the directives of a JSON payload, and scripts in the browser.
-/
import DesktopMacro.Action.Devices

set_option autoImplicit false

namespace DesktopMacro

/-! ## Payloads -/

/-- Following the directives of a payload from the clipboard or a template, with retries. -/
structure PayloadTask where
  fromClipboard : Bool
  template : String
  offsetX : Int
  offsetY : Int
  retries : Int
  retryPause : Int
deriving DecidableEq, Repr

namespace PayloadTask

def initial : PayloadTask := ⟨true, "", 0, 0, 3, 1000⟩

def members (task : PayloadTask) : Members :=
  [("check_clipboard", .bool task.fromClipboard), ("json_template", .text task.template),
    ("offset_x", .int task.offsetX), ("offset_y", .int task.offsetY),
    ("retry_count", .int task.retries), ("retry_wait_time", .int task.retryPause)]

def read (source : Source) (task : PayloadTask) : Except Cause PayloadTask := do
  let fromClipboard ← Field.bool source "check_clipboard" task.fromClipboard
  let template ← Field.text source "json_template" task.template
  let offsetX ← Field.integer source "offset_x" task.offsetX
  let offsetY ← Field.integer source "offset_y" task.offsetY
  let retries ← Field.integer source "retry_count" task.retries
  let retryPause ← Field.integer source "retry_wait_time" task.retryPause
  return { fromClipboard, template, offsetX, offsetY, retries, retryPause }

def describe (task : PayloadTask) : String :=
  "JSON action: " ++ (if task.fromClipboard then "From clipboard" else "From template")

end PayloadTask

/-! ## The browser -/

/-- Running a script in the browser; a point that it reports is kept for a later click. -/
structure BrowserTask where
  operation : BrowserOperation
  selector : String
  script : String
  x : Int
  y : Int
  useLastPoint : Bool
deriving DecidableEq, Repr

namespace BrowserTask

def initial : BrowserTask := ⟨.findAndClick, "", "", 0, 0, false⟩

def members (task : BrowserTask) : Members :=
  [("operation", .text (Vocabulary.word task.operation)), ("selector", .text task.selector),
    ("javascript", .text task.script), ("x_result", .int task.x), ("y_result", .int task.y),
    ("use_last_results", .bool task.useLastPoint)]

def read (source : Source) (task : BrowserTask) : Except Cause BrowserTask := do
  let operation ← Field.word source "operation" task.operation
  let selector ← Field.text source "selector" task.selector
  let script ← Field.text source "javascript" task.script
  let x ← Field.integer source "x_result" task.x
  let y ← Field.integer source "y_result" task.y
  let useLastPoint ← Field.bool source "use_last_results" task.useLastPoint
  return { operation, selector, script, x, y, useLastPoint }

def describe (task : BrowserTask) : String :=
  match task.operation with
  | .findAndClick => "Find & Click: " ++ task.selector
  | .runScript => "Execute JS"
  | .getCoordinates => "Coordinates: " ++ MouseTask.showPoint task.x task.y

def shownNumbers (task : BrowserTask) : List Int :=
  match task.operation with
  | .getCoordinates => [task.x, task.y]
  | _ => []

/-- The script that is run when an action names none: it looks for a button that copies and reports
the middle of it. -/
def copyButtonScript : String := String.intercalate "\n"
  ["(() => \x7b",
    "  const buttons = Array.from(document.querySelectorAll('button'));",
    "  const target = buttons.find(b => /copy|kopieren/i.test(b.textContent || "
      ++ "b.getAttribute('aria-label') || ''));",
    "  if (!target) \x7b return null; \x7d",
    "  const rect = target.getBoundingClientRect();",
    "  return \x7b x: Math.round(window.screenX + rect.left + rect.width / 2),",
    "           y: Math.round(window.screenY + rect.top + rect.height / 2) \x7d;",
    "\x7d)()"]

/-- The script that finds the element of a selector and reports the middle of it. -/
def findScript (selector : String) : String := String.intercalate "\n"
  ["(() => \x7b",
    "  const el = document.querySelector(" ++ (Json.text selector).render .compact ++ ");",
    "  if (!el) \x7b return null; \x7d",
    "  const rect = el.getBoundingClientRect();",
    "  return \x7b x: Math.round(window.screenX + rect.left + rect.width / 2),",
    "           y: Math.round(window.screenY + rect.top + rect.height / 2) \x7d;",
    "\x7d)()"]

end BrowserTask
end DesktopMacro
