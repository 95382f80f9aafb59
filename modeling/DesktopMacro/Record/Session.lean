/-
Recording sessions: what is recorded goes to the end of a sequence of a library.

A recording needs at least one hook that can be started. While it runs, what the hooks report goes
into the queue, apart from the keys that are hotkeys themselves. When the recording is stopped, its
actions are added to the sequence of the session, which is made if it is missing, and the library is
saved. A library that cannot be saved keeps the actions all the same.
-/
import DesktopMacro.Hook.Listener
import DesktopMacro.Record.Recorder
import DesktopMacro.Sequence.Library

set_option autoImplicit false

namespace DesktopMacro

/-- A recording session. -/
structure RecordingSession (τ : Type) where
  library : Library
  file : Path
  sequenceName : String
  /-- The hotkey that stops a recording, as it is shown. -/
  stopHotkey : String
  /-- The keys that are never recorded. -/
  ignored : List String
  hooks : List Hook
  recorder : Recorder τ
  isFinished : Bool

/-- What comes of stopping a recording: the session, the files, the notes, and the cause if it went
wrong. -/
structure RecordingEnd (τ : Type) where
  result : Except Cause Unit
  session : RecordingSession τ
  files : FileTree
  notes : List Note

namespace RecordingSession

variable {τ : Type}

/-! ## Hooks -/

/-- Starts hooks, as many of them as can be. The answer has the hooks, how many have been started,
and notes on those that could not be. -/
def startHooks (systems : HookKind → ListenerSystem) : List Hook → List Hook × Nat × List Note
  | [] => ([], 0, [])
  | hook :: hooks =>
    let (result, hook) := hook.start (systems hook.kind)
    let (hooks, started, notes) := startHooks systems hooks
    match result with
    | .ok () => (hook :: hooks, started + 1, notes)
    | .error none => (hook :: hooks, started, notes)
    | .error (some cause) =>
      (hook :: hooks, started, ⟨.error, s!"Input hook failed: {cause.text}"⟩ :: notes)

/-- Stops hooks up to the first that fails to stop. -/
def stopHooks (systems : HookKind → ListenerSystem) : List Hook → Except Cause Unit × List Hook
  | [] => (.ok (), [])
  | hook :: hooks =>
    match hook.stop (systems hook.kind) with
    | (.error cause, hook) => (.error cause, hook :: hooks)
    | (.ok _, hook) =>
      let (result, hooks) := stopHooks systems hooks
      (result, hook :: hooks)

/-- Can the hook of a kind report anything? -/
def hears (session : RecordingSession τ) (kind : HookKind) : Bool :=
  session.hooks.any (fun hook => hook.kind = kind && hook.isCreated)

/-! ## Reports -/

/-- Is an event one that is never recorded? -/
def isIgnored (session : RecordingSession τ) : InputEvent τ → Bool
  | .key event => session.ignored.contains event.key
  | .mouse _ => false

/-- Takes an event from a hook. -/
def push (session : RecordingSession τ) (event : InputEvent τ) : RecordingSession τ :=
  if session.isIgnored event then session
  else { session with recorder := (session.recorder.push event).2 }

/-- The notes on the actions that a recording has and another one did not have yet. -/
def recordedNotes (before after : Capture τ) : List Note :=
  (after.recorded.drop before.recorded.length).filterMap (fun action =>
    action.describe?.toOption.map (fun text => ⟨.info, s!"Recorded: {text}"⟩))

variable [Timeline τ]

/-- The worker does what there is to do. -/
def settle (session : RecordingSession τ) (now : τ) : RecordingSession τ × List Note :=
  let recorder := session.recorder.catchUp now
  ({ session with recorder }, recordedNotes session.recorder.capture recorder.capture)

/-! ## Starting and stopping -/

/-- Ends the recording that runs; the sequence is left alone. -/
def endRecording (session : RecordingSession τ) (now : τ) : RecordingSession τ × List Note :=
  let recorder := session.recorder.stop now
  ({ session with recorder },
    recordedNotes session.recorder.capture recorder.capture ++ [recorder.capture.stopNote])

/-- **Starts a recording**, unless one runs. Without any hook it is over at once, and the session
with it. -/
def start (systems : HookKind → ListenerSystem) (session : RecordingSession τ) (now : τ) :
    RecordingSession τ × List Note :=
  if session.recorder.isRunning then (session, [])
  else
    let (hooks, started, notes) := startHooks systems session.hooks
    let session := { session with hooks, recorder := session.recorder.start now }
    if started = 0 then
      let (session, ending) := session.endRecording now
      ({ session with isFinished := true },
        Capture.startNote :: notes
          ++ ⟨.error, "No input hook could be started; nothing to record"⟩ :: ending)
    else
      (session, Capture.startNote :: notes
        ++ [⟨.info, s!"Recording into '{session.sequenceName}' (stop with {session.stopHotkey})"⟩])

/-- The library with actions at the end of the sequence of a name, and the name that the sequence
has. -/
def store (id name : String) (actions : List Action) (library : Library) : Library × String :=
  match library.indexOf? name with
  | some index =>
    (library.modify index (fun sequence =>
        { sequence with actions := sequence.actions ++ actions }),
      (library.sequences[index]?.map Sequence.name).getD name)
  | none => (⟨library.sequences ++ [⟨name, "", actions, .empty, id⟩]⟩, name)

/-- The note on a library that has been saved. -/
def savedNote (count : Nat) (name : String) (file : Path) : Note :=
  ⟨.info, s!"Saved {count} actions to '{name}' in {file.toText}"⟩

/-- The note on a library that could not be saved. -/
def unsavedNote (file : Path) (cause : Cause) : Note :=
  ⟨.error, s!"Could not save {file.toText}: {cause.text}"⟩

/-- Adds what has been recorded to the library, and saves it. The identity is for the sequence, if
it is missing. -/
def keep (session : RecordingSession τ) (id : String) (files : FileTree) : RecordingEnd τ :=
  let actions := session.recorder.capture.recorded
  let (library, name) := store id session.sequenceName actions session.library
  let kept := { session with library }
  match (ExceptT.run (library.save session.file.toText)).run files with
  | (.ok (), files) =>
    ⟨.ok (), { kept with isFinished := true }, files,
      [savedNote actions.length name session.file]⟩
  | (.error (.file fault path target), files) =>
    ⟨.ok (), { kept with isFinished := true }, files,
      [unsavedNote session.file (.file fault path target)]⟩
  | (.error cause, files) => ⟨.error cause, kept, files, []⟩

/-- **Stops the recording that runs**, if one does, and keeps it. A hook that does not stop leaves
it running. -/
def stop (systems : HookKind → ListenerSystem) (id : String) (session : RecordingSession τ)
    (now : τ) (files : FileTree) : RecordingEnd τ :=
  if !session.recorder.isRunning then ⟨.ok (), session, files, []⟩
  else
    match stopHooks systems session.hooks with
    | (.error cause, hooks) => ⟨.error cause, { session with hooks }, files, []⟩
    | (.ok (), hooks) =>
      let (session, notes) := { session with hooks }.endRecording now
      let ending := session.keep id files
      { ending with notes := notes ++ ending.notes }

end RecordingSession
end DesktopMacro
