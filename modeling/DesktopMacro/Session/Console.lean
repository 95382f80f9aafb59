/-
The console of a program: what it prints, its log, and the files in its directory.

What the parts of the library note goes to the log, and every entry of the log is printed. A program
is a computation on the console that ends with an exit code, unless something goes wrong that nobody
was prepared for.
-/
import DesktopMacro.Log.StatusLog
import DesktopMacro.Sequence.Library
import DesktopMacro.Settings.File

set_option autoImplicit false

namespace DesktopMacro

/-- A console at a moment. -/
structure Console where
  moment : Moment
  log : StatusLog
  files : FileTree
  /-- What was printed, newest first. -/
  printed : List String

/-- A computation on a console that may fail. -/
abbrev Session (α : Type) := ExceptT Cause (StateM Console) α

namespace Console

/-- A console with files, and nothing printed yet. -/
def initial (moment : Moment) (files : FileTree) : Console :=
  { moment, files, printed := []
    log := StatusLog.empty StatusLog.usualLimit none StatusLog.usualPrefix false }

end Console

namespace Session

/-- Prints something. -/
def say (text : String) : Session Unit :=
  modify (fun console => { console with printed := text :: console.printed })

/-- Works on the files. -/
def filing {α : Type} (work : FileTree.Filing α) : Session α := do
  let (result, files) := (ExceptT.run work).run (← get).files
  modify (fun console => { console with files })
  match result with
  | .ok a => return a
  | .error cause => throw cause

/-- A result that needs no console. -/
def ofExcept {α : Type} (result : Except Cause α) : Session α := ExceptT.mk (pure result)

/-- Adds an entry to the log; it is printed if it is kept. The answer is who hears it. -/
def enter (level : Level) (text : String) : Session (List String) := do
  let console ← get
  let (log, entry) ← filing (console.log.add console.moment level.word text)
  modify (fun console => { console with log })
  match entry with
  | none => return []
  | some entry =>
    say entry.shown
    return log.listeners

/-- Takes notes into the log. -/
def take : List Note → Session Unit
  | [] => pure ()
  | note :: notes => do
    discard (enter note.level note.text)
    take notes

/-- Tells the status. -/
def status (text : String) : Session Unit := do
  modify (fun console => { console with log := console.log.withStatus text })
  discard (enter .info text)

/-- Loads the settings and opens the log as they say. What is noted about the settings is not in the
log yet. -/
def openLog (settingsFile : Path) : Session Settings := do
  let (result, files, _) := Settings.load (← get).files settingsFile
  modify (fun console => { console with files })
  let settings ← ofExcept result
  modify (fun console =>
    { console with
      log := StatusLog.empty StatusLog.usualLimit
        (some (Settings.resolve settingsFile settings.logDirectory)) StatusLog.usualPrefix
        settings.verbose })
  return settings

/-! ## Libraries -/

/-- Is a cause one that a library file can be expected to have? -/
def isLibraryTrouble : Cause → Bool
  | .wrongType _ | .infinityToWhole | .beyondDouble | .tooDeep _ => false
  | _ => true

/-- Loads the library in a file; if it cannot be used, that is printed and there is none. -/
def loadLibrary (supply : Action.Supply) (path : Path) : Session (Option Library) := do
  let (result, notes) := (Library.load supply (← get).files path.toText).run
  take notes
  match result with
  | .ok library => return some library
  | .error cause =>
    if isLibraryTrouble cause then
      say s!"Could not load {path.toText}: {cause.text}"
      return none
    else throw cause

end Session
end DesktopMacro
