/-
Replaying a sequence of a library, as a program.

The arguments are a library file and the name of a sequence; without a name it is the first. The
hotkey that cancels is listened for while the sequence runs. The exit code tells how the run ended:
0 when it is complete, 1 when it failed, 130 when it was cancelled, and 2 when there was nothing to
run.
-/
import DesktopMacro.Desktop.Injector
import DesktopMacro.Hotkey.Board
import DesktopMacro.Run.Worker
import DesktopMacro.Session.Console

set_option autoImplicit false

namespace DesktopMacro.Replay

variable {ω : Type}

/-- What a replay works with: the devices, how to pause, the system for hotkeys, identities, and the
digits for invented names. -/
structure Equipment (ω : Type) where
  desktop : Desktop ω
  pause : Binary64 → Effect ω Unit
  hotkeys : ListenerSystem
  supply : Action.Supply
  freshDigits : String

/-- The notes among what could be seen. -/
def notesOf (events : List Event) : List Note :=
  events.filterMap (fun
    | .logged note => some note
    | _ => none)

/-- The files of a console once its log has taken the notes among what could be seen, newest
first. -/
def filesAfter (console : Console) (events : List Event) : FileTree :=
  ((ExceptT.run (Session.take (notesOf events.reverse))).run console).2.files

/-- The collaborators of a run on a desktop that began at a console. -/
def team (equipment : Equipment ω) (console : Console) : Collaborators ω :=
  { input := equipment.desktop.make
    readClipboard := equipment.desktop.readText
    writeClipboard := equipment.desktop.writeText
    evaluate := none
    readFile := fun path events _ => (filesAfter console events).read path
    pause := equipment.pause
    freshDigits := equipment.freshDigits }

/-- How a replay ended: the exit code, whether hotkeys were listened for, and what could be seen. -/
structure Ending where
  exit : Nat
  listened : Bool
  events : List Event

/-- The ending of a replay that had nothing to run. -/
def nothing : Ending := ⟨2, false, []⟩

/-- The sequence that the arguments name, with its number. -/
def choose (library : Library) (path : Path) (name : Option String) :
    Except String (Nat × Sequence) :=
  match library.sequences with
  | [] => .error s!"No sequences in {path.toText}"
  | first :: _ =>
    match name with
    | none => .ok (0, first)
    | some name =>
      match (library.indexOf? name).bind (fun slot =>
          library.sequences[slot]?.map (fun sequence => (slot, sequence))) with
      | some found => .ok found
      | none =>
        .error (s!"Sequence '{name}' not found. Available: " ++ ", ".intercalate library.names)

/-- The words for a report. -/
def reportText (report : RunReport) : String :=
  s!"DONE: {(Json.bool report.ok).display} - {report.message}"

/-- Tells the reports of an engine. -/
def tellReports : List RunReport → Session Unit
  | [] => pure ()
  | report :: reports => do
    Session.status (reportText report)
    tellReports reports

/-- Prints why a run failed, if it did, and gives the exit code. -/
def conclude (engine : Engine) : Session Nat := do
  match engine.outcome with
  | some .failed =>
    if let some action := engine.failedAction then
      Session.say s!"Failed action: {← Session.ofExcept action.describe?}"
    Session.say ("Last error: " ++ (engine.lastError.map Failure.text).getD "None")
    return 1
  | some .cancelled => return 130
  | _ => return 0

/-- Runs a sequence of a library. -/
def perform (equipment : Equipment ω) (world : ω) (settings : Settings) (library : Library)
    (slot : Nat) (sequence : Sequence) : Session Ending := do
  let board := (HotkeyBoard.initial settings.startHotkey settings.stopHotkey
    settings.cancelHotkey).register .cancel
  let (_, listened, notes) := board.enable equipment.hotkeys
  Session.take notes
  Session.status s!"Running '{sequence.name}' (cancel with {settings.cancelHotkey})"
  let team := team equipment (← get)
  let (engine, machine) := ((Engine.initial sequence.name).run team
    ((Binding.library library).lookup team) slot sequence).run (Machine.initial world library)
  let events := machine.events.reverse
  Session.take (notesOf events)
  tellReports engine.reports.reverse
  return ⟨← conclude engine, listened, events⟩

/-- **The program**, with its arguments. -/
def main (equipment : Equipment ω) (world : ω) (settingsFile : Path) (arguments : List String) :
    Session Ending := do
  match arguments with
  | [] =>
    Session.say "Provide path to a sequence library JSON file."
    return nothing
  | file :: more =>
    let path := Path.ofText file
    if !(← Session.ofExcept ((← get).files.exists? path.toText)) then
      Session.say s!"File not found: {path.toText}"
      return nothing
    let settings ← Session.openLog settingsFile
    match ← Session.loadLibrary equipment.supply path with
    | none => return nothing
    | some library =>
      match choose library path more.head? with
      | .error complaint =>
        Session.say complaint
        return nothing
      | .ok (slot, sequence) => perform equipment world settings library slot sequence

end DesktopMacro.Replay
