/-
The state of a run, and the steps that everything else is made of.

A run changes a `Machine`: the world that its collaborators live in, whether it has been cancelled,
the sequences that are running, innermost first, the library, and what could be seen and heard so
far. `Run` is a computation on it that may end in a `Failure`; what was done before the failure
stays done.

The actions of a sequence are read, never rewritten, while it runs. What a run changes of an action,
the name of a variable that had none and the point that a browser script reported, is kept in the
frame by the place of the action, and goes back into the library when the sequence ends.

A machine also keeps the journal of its run. A failure is written down where it comes up, by `fail`;
passing it on is a plain `throw`.
-/
import DesktopMacro.Run.Effect
import DesktopMacro.Run.Journal
import DesktopMacro.Sequence.Library

set_option autoImplicit false

namespace DesktopMacro

/-! ## Frames -/

/-- What a run can change of a task: a variable that had no name gets one, and a browser script
reports a point. -/
inductive Change where
  | variableName (name : String)
  | point (x y : Int)
deriving DecidableEq, Repr

/-- A task with a change made. -/
def Change.apply : Change → Action.Task → Action.Task
  | variableName name, .variable task => .variable { task with name }
  | point x y, .browser task => .browser { task with x, y }
  | _, task => task

/-- The change of the action at a place, with the name and the description that the action has
then. -/
structure Edit where
  place : Place
  change : Change
  name : String
  description : String
deriving DecidableEq, Repr

namespace Edit

/-- A header as an edit leaves it. -/
def header (edit : Edit) (header : Action.Header) : Action.Header :=
  { header with name := edit.name, description := edit.description }

end Edit

/-- A sequence that is running: its name, its number in the library if it is there, its variables,
and what was changed of its actions, newest first. -/
structure Frame where
  name : String
  slot : Option Nat
  store : Store
  edits : List Edit

namespace Frame

/-- The frame of a sequence that is about to run. -/
def enter (sequence : Sequence) (slot : Option Nat) : Frame :=
  { name := sequence.name, slot, store := sequence.store, edits := [] }

/-- The header and the task at a place, given those that the sequence came with. -/
def current (frame : Frame) (place : Place) (header : Action.Header) (task : Action.Task) :
    Action.Header × Action.Task :=
  match frame.edits.find? (fun edit => edit.place == place) with
  | some edit => (edit.header header, edit.change.apply task)
  | none => (header, task)

mutual

/-- The action at a place with the changes of a frame. -/
def edited (frame : Frame) (place : Place) : Action → Action
  | .task header task =>
    let (header, task) := frame.current place header task
    .task header task
  | .loop header spec actions => .loop header spec (frame.editedAll (0 :: place) 0 actions)
  | .choice header spec thenActions elseActions =>
    .choice header spec (frame.editedAll (0 :: place) 0 thenActions)
      (frame.editedAll (1 :: place) 0 elseActions)

/-- Actions that stand side by side, from a number on, with the changes of a frame. -/
def editedAll (frame : Frame) (place : Place) : (index : Nat) → List Action → List Action
  | _, [] => []
  | index, action :: actions =>
    frame.edited (index :: place) action :: frame.editedAll place (index + 1) actions

end

/-- A sequence as a frame leaves it. -/
def leave (frame : Frame) (sequence : Sequence) : Sequence :=
  { sequence with
    actions := frame.editedAll [] 0 sequence.actions
    store := frame.store }

end Frame

/-! ## Machines and runs -/

/-- The state of a run in a world. -/
structure Machine (ω : Type) where
  world : ω
  /-- Has the run been cancelled? -/
  cancelled : Bool
  /-- Is a sequence running that no cancellation reaches and nobody listens to? -/
  detached : Bool
  /-- Does somebody listen to what is logged? -/
  listened : Bool
  /-- What was heard, newest first. -/
  heard : List String
  /-- The running sequences, innermost first. -/
  frames : List Frame
  library : Library
  /-- What could be seen, newest first. -/
  events : List Event
  /-- What the run did, newest step first. -/
  journal : List Mark

/-- A computation on a machine that may fail. -/
abbrev Run (ω α : Type) := ExceptT Failure (StateM (Machine ω)) α

/-- Whom a run works with. -/
structure Collaborators (ω : Type) where
  input : Input → Effect ω Unit
  readClipboard : Effect ω (Option String)
  writeClipboard : String → Effect ω Unit
  /-- Running a script in the browser, if there is one. -/
  evaluate : Option (String → Effect ω Json)
  /-- The bytes of a file in a world, after what could be seen so far, newest first: a log may be
  among the files. -/
  readFile : String → List Event → ω → Except Cause (List UInt8)
  pause : Binary64 → Effect ω Unit
  /-- The digits that tell an invented variable name from others. -/
  freshDigits : String

namespace Machine

variable {ω : Type}

/-- A machine at rest. -/
def initial (world : ω) (library : Library) : Machine ω :=
  { world, cancelled := false, detached := false, listened := false, heard := [], frames := [],
    library, events := [], journal := [] }

/-- The names of the running sequences, outermost first. -/
def callStack (machine : Machine ω) : List String := (machine.frames.map Frame.name).reverse

/-- The variables of the innermost sequence. -/
def store (machine : Machine ω) : Store :=
  match machine.frames with
  | [] => .empty
  | frame :: _ => frame.store

/-- The machine with its innermost frame changed. -/
def modifyFrame (machine : Machine ω) (change : Frame → Frame) : Machine ω :=
  match machine.frames with
  | [] => machine
  | frame :: frames => { machine with frames := change frame :: frames }

/-- The machine with something seen. -/
def see (machine : Machine ω) (seen : List Event) : Machine ω :=
  { machine with events := seen.reverse ++ machine.events }

/-- Can a cancellation be noticed? -/
def isStopped (machine : Machine ω) : Bool := machine.cancelled && !machine.detached

/-- The machine with a step written down. -/
def mark (machine : Machine ω) (step : Step) : Machine ω :=
  { machine with journal := ⟨step, machine.isStopped, machine.callStack⟩ :: machine.journal }

/-- The machine with a message told to whoever listens. -/
def tell (machine : Machine ω) (text : String) : Machine ω :=
  if machine.listened && !machine.detached then { machine with heard := text :: machine.heard }
  else machine

/-- The machine after a collaborator has done something. -/
def after {α : Type} (machine : Machine ω) (reply : Reply ω α) : Machine ω :=
  { machine.see reply.events with
    world := reply.world, cancelled := machine.cancelled || reply.cancels }

/-- The machine with other variables of its innermost sequence. -/
def putStore (machine : Machine ω) (store : Store) : Machine ω :=
  machine.modifyFrame (fun frame => { frame with store := store })

/-- The machine with an action of its innermost sequence changed. -/
def putEdit (machine : Machine ω) (edit : Edit) : Machine ω :=
  machine.modifyFrame (fun frame => { frame with edits := edit :: frame.edits })

end Machine

namespace Run

variable {ω α : Type}

/-- Starts a run on a machine. -/
def on (run : Run ω α) (machine : Machine ω) : Except Failure α × Machine ω :=
  (ExceptT.run run).run machine

/-- Writes a step down. -/
def mark (step : Step) : Run ω Unit := modify (·.mark step)

/-- Fails, with a failure that was not there before. -/
def fail (failure : Failure) : Run ω α := do
  mark (.failed failure)
  throw failure

/-- Lifts a result that needs no machine. -/
def ofExcept (result : Except Cause α) : Run ω α :=
  match result with
  | .ok a => pure a
  | .error cause => fail (.failed cause none)

/-- Ends the run if it has been cancelled. -/
def check : Run ω Unit := do
  if (← get).isStopped then
    mark .noticed
    throw .stopped

/-- Takes notes that only the log shows. -/
def note (notes : List Note) : Run ω Unit := modify (·.see (notes.map .logged))

/-- Logs a message and tells whoever listens. -/
def log (text : String) (level : Level := .info) : Run ω Unit := do
  note [⟨level, text⟩]
  modify (·.tell text)

/-- Has a collaborator do something. -/
def perform (effect : Effect ω α) : Run ω α := do
  let reply := effect (← get).world
  modify (·.after reply)
  match reply.result with
  | .ok a => return a
  | .error failure => fail failure

/-- Asks a collaborator for something that it does. -/
def ask (request : Request) (effect : Effect ω α) : Run ω α := do
  mark (.asked request)
  perform effect

/-- The outcome of a run, whatever it is; what it did stays done. -/
def outcome (run : Run ω α) : Run ω (Except Failure α) :=
  ExceptT.mk (do return .ok (← ExceptT.run run))

/-! ## Variables and changed actions -/

/-- The variables of the innermost sequence. -/
def store : Run ω Store := return (← get).store

/-- Gives the innermost sequence other variables. -/
def setStore (store : Store) : Run ω Unit :=
  modify (fun machine => (machine.mark .stored).putStore store)

/-- The header and the task at a place as they are now. -/
def current (place : Place) (header : Action.Header) (task : Action.Task) :
    Run ω (Action.Header × Action.Task) := do
  match (← get).frames with
  | [] => return (header, task)
  | frame :: _ => return frame.current place header task

/-- Makes a change of the task at a place, and gives the action the name that it then calls for. -/
def editTask (place : Place) (header : Action.Header) (task : Action.Task) (change : Change) :
    Run ω Unit := do
  modify (·.putEdit ⟨place, change, header.name, header.description⟩)
  let shown ← ofExcept (Action.withDisplay? (.task header (change.apply task)))
  modify (·.putEdit ⟨place, change, shown.header.name, shown.header.description⟩)

end Run

/-! ## Asking the collaborators -/

namespace Collaborators

variable {ω : Type}

/-- Makes an input. -/
def makeInput (team : Collaborators ω) (input : Input) : Run ω Unit :=
  Run.ask (.input input) (team.input input)

/-- What the clipboard holds. -/
def fetchClipboard (team : Collaborators ω) : Run ω (Option String) :=
  Run.ask .readClipboard team.readClipboard

/-- Gives the clipboard a text. -/
def fillClipboard (team : Collaborators ω) (text : String) : Run ω Unit :=
  Run.ask (.writeClipboard text) (team.writeClipboard text)

/-- Sleeps through one slice of a pause. -/
def passSlice (team : Collaborators ω) (slice : Binary64) : Run ω Unit :=
  Run.ask (.pause slice) (team.pause slice)

end Collaborators
end DesktopMacro
