/-
Running a single task.

One function for each kind of task that has no actions inside. They say what they are about to do,
do it through the collaborators or on the variables of the sequence, and fail in the name of the
action where the fault is in its data; what breaks in a collaborator is put into the action's name
by whoever runs the task.
-/
import DesktopMacro.Payload.Extraction
import DesktopMacro.Run.Directive
import DesktopMacro.Run.Retry

set_option autoImplicit false

namespace DesktopMacro.Run

variable {ω : Type}

/-! ## Input devices -/

/-- The input of a mouse gesture. -/
def mouseInput (task : MouseTask) : Input :=
  match task.gesture with
  | .leftClick => .click task.x task.y .left
  | .rightClick => .click task.x task.y .right
  | .middleClick => .click task.x task.y .middle
  | .doubleClick => .doubleClick task.x task.y
  | .down => .mouseDown task.x task.y .left
  | .up => .mouseUp task.x task.y .left
  | .move => .moveTo task.x task.y
  | .wheel => .scroll task.x task.y task.wheel

def runMouse (team : Collaborators ω) (task : MouseTask) : Run ω Unit := do
  log s!"Mouse: {task.describe}"
  team.makeInput (mouseInput task)

/-- The milliseconds between two keys of one action. -/
def keyGap : Int := 30

/-- Presses keys one by one, with a gap before each. -/
def pressAfterGap (team : Collaborators ω) : List String → Run ω Unit
  | [] => pure ()
  | key :: keys => do
    team.sleep keyGap
    team.makeInput (.pressKey key)
    pressAfterGap team keys

/-- Presses keys one by one, with a gap between two. -/
def pressKeys (team : Collaborators ω) : List String → Run ω Unit
  | [] => pure ()
  | key :: keys => do
    team.makeInput (.pressKey key)
    pressAfterGap team keys

def runKeyboard (team : Collaborators ω) (task : KeyboardTask) : Run ω Unit := do
  log s!"Keyboard: {task.describe}"
  match task.mode with
  | .typeText =>
    if task.useClipboard then team.makeInput (.pressCombination ["LeftCtrl", "V"])
    else if task.text.isEmpty then log "No text defined to type" .warning
    else team.makeInput (.typeText task.text task.charDelay)
  | mode =>
    if task.keys.isEmpty then log "No keys defined" .warning
    else if mode = .keyPress then pressKeys team task.keys
    else team.makeInput (.pressCombination task.keys)

def runWait (team : Collaborators ω) (task : WaitTask) : Run ω Unit := do
  log s!"Waiting {Integer.toText task.duration} ms"
  team.sleep task.duration

/-! ## Variables -/

/-- Sets a variable and takes the notes on it. -/
def setVariable (name text : String) (kind : Option Variable.Kind) : Run ω Unit := do
  let (store, _, notes) := (← store).set name text kind
  setStore store
  note notes

/-- Does the operation of a variable task. -/
def operate (task : VariableTask) : Run ω Unit := do
  let store ← store
  match task.operation with
  | .setValue => setVariable task.name task.value none
  | .increment =>
    let (store, _, notes) ← ofExcept (store.incrementOrCreate task.name (.whole task.step))
    setStore store
    note notes
  | .decrement =>
    let (store, _, notes) ← ofExcept (store.incrementOrCreate task.name (.whole (-task.step)))
    setStore store
    note notes
  | .appendText => setStore (← ofExcept (store.appendText task.name task.value)).1
  | .clearValue => setStore (store.clear task.name).1
  | .addItem => setStore (store.appendItem task.name task.value).1
  | .removeItem =>
    match store.removeAt? task.name task.index with
    | some store => setStore store
    | none =>
      log s!"Cannot remove item {Integer.toText task.index} from '{task.name}'" .warning
  | .clearList => setStore (store.clearList task.name).1
  | .addRow => setStore (store.appendRow task.name task.value).1
  | .toggle => setStore (store.toggle task.name).1

/-- A task without a variable name gets an invented one, for good. -/
def nameVariable (team : Collaborators ω) (place : Place) (header : Action.Header)
    (task : VariableTask) : Run ω VariableTask := do
  if task.name.isEmpty then
    let named := { task with name := "var" ++ team.freshDigits }
    editTask place header (.variable task) (.variableName named.name)
    log s!"Variable name was empty, using '{named.name}'"
    return named
  else return task

def runVariable (team : Collaborators ω) (place : Place) (header : Action.Header)
    (task : VariableTask) : Run ω Unit := do
  let task ← nameVariable team place header task
  operate task
  let text ← ofExcept ((← store).text task.name "")
  log s!"Variable '{task.name}' is now '{text}'"

/-! ## The clipboard -/

/-- The text that a clipboard task contributes. -/
def clipboardText (task : ClipboardTask) : Run ω String := do
  if task.useVariable && !task.variableName.isEmpty then
    let store ← store
    if !store.contains task.variableName then
      log s!"Variable '{task.variableName}' not found" .warning
    ofExcept (store.text task.variableName "")
  else return task.text

/-- Writes to the clipboard; some platforms refuse an empty text, so a blank stands for it. -/
def writeClipboard (team : Collaborators ω) (text : String) : Run ω Unit :=
  team.fillClipboard (if text.isEmpty then " " else text)

/-- What the clipboard holds; nothing is the empty text. -/
def clipboardContent (team : Collaborators ω) : Run ω String :=
  return (← team.fetchClipboard).getD ""

/-- One attempt of a clipboard task. -/
def attemptClipboard (team : Collaborators ω) (task : ClipboardTask) : Run ω Unit := do
  let text ← clipboardText task
  if task.append then writeClipboard team ((← clipboardContent team) ++ text)
  else writeClipboard team text

def runClipboard (team : Collaborators ω) (action : Action) (task : ClipboardTask) :
    Run ω Unit := do
  let _ ← Retry.run team action "Clipboard action" task.retries task.retryPause
    (attemptClipboard team task)

/-! ## Payloads -/

/-- The cause behind an extraction that failed. -/
def extractionCause : Payload.Fault → Cause
  | .noCandidate => .action .noPayload
  | .unreadable what place => .action (.brokenPayload what place)
  | .numberTooLong count => .numberTooLong count
  | .tooDeep holder => .tooDeep (some holder)

/-- The note on a payload that needed a repair. -/
def repairNote (place : Json.Place) : Note :=
  ⟨.info, s!"JSON repaired at line {place.line} column {place.column}"⟩

/-- The document of the payload in a text. -/
def extractPayload (text : String) : Run ω Json := do
  match Payload.extract text with
  | .error fault => fail (.failed (extractionCause fault) none)
  | .ok payload =>
    note (payload.repairedAt.toList.map repairNote)
    return payload.document

/-- One attempt of a payload task. -/
def attemptPayload (team : Collaborators ω) (lookup : Option (Lookup ω)) (action : Action)
    (task : PayloadTask) : Run ω Unit := do
  let source ← if task.fromClipboard then clipboardContent team else pure task.template
  if source.isEmpty then fail (.atAction (.emptySource task.fromClipboard) action)
  let document ← extractPayload source
  Directive.Follower.follow ⟨action, task.offsetX, task.offsetY⟩ team lookup document

def runPayload (team : Collaborators ω) (lookup : Option (Lookup ω)) (action : Action)
    (task : PayloadTask) : Run ω Unit := do
  let _ ← Retry.run team action "JSON action" task.retries task.retryPause
    (attemptPayload team lookup action task)

/-! ## The browser -/

/-- A coordinate of a point, if the value has one. -/
def coordinate? (raw : Json) : Except Cause (Option Int) :=
  match raw.whole with
  | .ok n => .ok (some n)
  | .error .infinityToWhole => .error .infinityToWhole
  | .error _ => .ok none

/-- A point, if both its coordinates are there; the second is not looked at without the first. -/
def point? (x y : Json) : Except Cause (Option (Int × Int)) := do
  match ← coordinate? x with
  | none => return none
  | some x =>
    match ← coordinate? y with
    | none => return none
    | some y => return some (x, y)

/-- The point in the result of a script: an object with both coordinates, or a list of two. -/
def pointOf? (result : Json) : Except Cause (Option (Int × Int)) :=
  match result with
  | .object members =>
    match Members.get? members "x", Members.get? members "y" with
    | some x, some y => point? x y
    | _, _ => .ok none
  | .list [x, y] => point? x y
  | _ => .ok none

/-- Has the browser run a script. -/
def askScript (evaluate : String → Effect ω Json) (script : String) : Run ω Json :=
  ask (.evaluate script) (evaluate script)

/-- Keeps a point with the action. -/
def keepPoint (place : Place) (header : Action.Header) (task : BrowserTask) (point : Int × Int) :
    Run ω Unit :=
  editTask place header (.browser task) (.point point.1 point.2)

/-- Finds an element and clicks it. -/
def findAndClick (team : Collaborators ω) (evaluate : String → Effect ω Json) (place : Place)
    (header : Action.Header) (task : BrowserTask) : Run ω Unit := do
  let action := Action.task header (.browser task)
  if task.selector.isEmpty then fail (.atAction .noSelector action)
  let result ← askScript evaluate (BrowserTask.findScript task.selector)
  match ← ofExcept (pointOf? result) with
  | none => fail (.atAction (.elementNotFound task.selector) action)
  | some point =>
    keepPoint place header task point
    team.makeInput (.click point.1 point.2 .left)

/-- Runs a script and keeps the point that it reports. -/
def runScript (evaluate : String → Effect ω Json) (place : Place) (header : Action.Header)
    (task : BrowserTask) : Run ω Unit := do
  let action := Action.task header (.browser task)
  let script := if task.script.isEmpty then BrowserTask.copyButtonScript else task.script
  let result ← askScript evaluate script
  match ← ofExcept (pointOf? result) with
  | some point => keepPoint place header task point
  | none =>
    if !result.isWritable then fail (.failed .numberUnwritable none)
    if task.operation = .getCoordinates then fail (.atAction (.noCoordinates result) action)
    else log s!"Script result: {result.quoted}"

def runBrowser (team : Collaborators ω) (place : Place) (header : Action.Header)
    (task : BrowserTask) : Run ω Unit := do
  if task.operation = .getCoordinates && task.useLastPoint then
    log s!"Clicking stored coordinates {MouseTask.showPoint task.x task.y}"
    team.makeInput (.click task.x task.y .left)
  else
    match team.evaluate with
    | none => log s!"No browser bridge configured, skipping '{task.describe}'" .warning
    | some evaluate =>
      if task.operation = .findAndClick then findAndClick team evaluate place header task
      else runScript evaluate place header task

/-! ## Files -/

/-- The path that a file task names. -/
def filePath (team : Collaborators ω) (task : FileTask) : Run ω String := do
  match task.source with
  | .text => return task.path
  | .clipboard => return Text.trim (← clipboardContent team)
  | .variable => return Text.trim (← ofExcept ((← store).text task.variableName ""))

/-- Does a tolerant file task put up with a cause? It does with files that cannot be opened, read or
decoded. -/
def isFileTrouble : Cause → Bool
  | .file _ _ _ | .undecodable _ => true
  | _ => false

/-- The text of a file. -/
def fileText (team : Collaborators ω) (task : FileTask) (path : String) (machine : Machine ω) :
    Except Cause String := do
  Codec.decode task.encoding (← team.readFile path machine.events machine.world)

/-- Puts the text of a file where the task wants it. -/
def deliver (team : Collaborators ω) (task : FileTask) (path text : String) : Run ω Unit := do
  match task.destination with
  | .variable => setVariable task.target text (some .text)
  | .clipboard => team.fillClipboard text
  log s!"File action completed: read '{FileTask.baseName path}'"

def runFile (team : Collaborators ω) (action : Action) (task : FileTask) : Run ω Unit := do
  let path ← filePath team task
  if path.isEmpty then
    log s!"File action: empty file path from {Vocabulary.word task.source}" .error
  else
    match fileText team task path (← get) with
    | .ok text => deliver team task path text
    | .error cause =>
      if !isFileTrouble cause then fail (.failed cause none)
      else if task.tolerant then log s!"File action error (handled): {cause.text}" .error
      else fail (.atAction (.unreadableFile path cause.text) action)

/-! ## All tasks -/

/-- Runs a task that has its place in a sequence. -/
def runTask (team : Collaborators ω) (lookup : Option (Lookup ω)) (place : Place)
    (header : Action.Header) (task : Action.Task) : Run ω Unit :=
  let action := Action.task header task
  match task with
  | .mouse task => runMouse team task
  | .keyboard task => runKeyboard team task
  | .wait task => runWait team task
  | .variable task => runVariable team place header task
  | .clipboard task => runClipboard team action task
  | .payload task => runPayload team lookup action task
  | .browser task => runBrowser team place header task
  | .file task => runFile team action task

end DesktopMacro.Run
