/-
Running sequences, and sequences that run others.

A sequence runs in a frame of its own, with its own variables; when it ends, in whatever way, the
frame goes and the library has what became of the variables and the actions. A payload can ask for a
sequence of the library by name. One that is running already is refused, so no two frames have the
same name, and there can be no more frames below the first than the library has sequences. That
bound is the depth down to which a lookup can look up again.
-/
import DesktopMacro.Run.Interpreter

set_option autoImplicit false

namespace DesktopMacro
namespace Run

variable {ω : Type}

/-! ## Frames -/

/-- The library with what a frame made of its sequence. -/
def settle (library : Library) (frame : Frame) : Library :=
  match frame.slot with
  | none => library
  | some slot => library.modify slot frame.leave

/-- Puts a frame on top. -/
def pushFrame (machine : Machine ω) (frame : Frame) : Machine ω :=
  { machine with frames := frame :: machine.frames }.mark .entered

/-- Takes the innermost frame away and settles it. -/
def popFrame (machine : Machine ω) : Machine ω :=
  match machine.frames with
  | [] => machine
  | frame :: frames =>
    { machine with frames, library := settle machine.library frame }.mark .left

/-- Runs a body in a frame, and takes the frame away however the body ends. -/
def inFrame (frame : Frame) (body : Run ω Unit) : Run ω Unit := do
  modify (pushFrame · frame)
  match ← outcome body with
  | .ok () => modify popFrame
  | .error failure =>
    modify popFrame
    throw failure

/-- Runs a body that no cancellation reaches and nobody listens to, if nothing else is running. -/
def detachedAtRest (body : Run ω Unit) : Run ω Unit := do
  let machine ← get
  if machine.frames.isEmpty then
    modify (fun machine => { machine with detached := true })
    let result ← outcome body
    modify (fun after => { after with detached := machine.detached })
    match result with
    | .ok () => return
    | .error failure => throw failure
  else body

/-! ## Sequences -/

/-- Runs a sequence from inside another one. -/
def runNested (team : Collaborators ω) (lookup : Option (Lookup ω)) (slot : Nat)
    (sequence : Sequence) : Run ω Unit :=
  detachedAtRest (inFrame (.enter sequence (some slot)) do
    log s!"Running nested sequence '{sequence.name}'"
    runActions team lookup [] 0 sequence.actions)

/-- Runs a sequence. -/
def runSequence (team : Collaborators ω) (lookup : Option (Lookup ω)) (slot : Option Nat)
    (sequence : Sequence) : Run ω Unit := do
  log s!"Starting sequence '{sequence.name}' ({sequence.actions.length} actions)"
  inFrame (.enter sequence slot) (runActions team lookup [] 0 sequence.actions)
  log s!"Sequence '{sequence.name}' completed"

/-! ## Looking sequences up -/

/-- Is a sequence of that name running? -/
def isRunning (machine : Machine ω) (name : String) : Bool :=
  machine.callStack.any (fun running => Text.fold running == Text.fold name)

/-- The store with variables set to texts, one after the other. -/
def setAll (store : Store) (values : List (String × String)) : Store :=
  values.foldl (fun store entry => (store.set entry.1 entry.2 none).1) store

/-- Runs a body, and turns a failure that is an action's fault into the answer that it did not
run. -/
def succeeded (name : String) (body : Run ω Unit) : Run ω Bool := do
  match ← outcome body with
  | .ok () => return true
  | .error failure =>
    if failure.isAction then
      note [⟨.error, s!"Sequence '{name}' failed: {failure.text}"⟩]
      return false
    else throw failure

/-- The sequence that a call may start, with its number: none if there is none of the name or it is
running. -/
def findIdle (name : String) : Run ω (Option (Nat × Sequence)) := do
  let machine ← get
  match machine.library.indexOf? name with
  | none =>
    note [⟨.warning, s!"Sequence '{name}' not found"⟩]
    return none
  | some slot =>
    match machine.library.sequences[slot]? with
    | none => return none
    | some sequence =>
      if isRunning machine sequence.name then
        note [⟨.warning, s!"Recursive call of sequence '{sequence.name}' refused (call stack: "
          ++ " > ".intercalate machine.callStack ++ ")"⟩]
        return none
      else return some (slot, sequence)

/-- The machine with variables given to a sequence of its library. -/
def withVariables (machine : Machine ω) (slot : Nat) (values : List (String × String)) :
    Machine ω :=
  { machine with
    library := machine.library.modify slot (fun sequence =>
      { sequence with store := setAll sequence.store values }) }

/-- Gives variables, if there are any, to a sequence of the library. -/
def giveVariables (slot : Nat) (values : List (String × String)) : Run ω Unit := do
  if !values.isEmpty then
    modify (fun machine => withVariables (machine.mark .stored) slot values)

/-- Looks a sequence up in the library and runs it with a lookup for what it asks for in turn;
without one there is no room left for it to run. -/
def lookupOver (team : Collaborators ω) (inner : Option (Lookup ω)) : Lookup ω :=
  fun name values => do
    match ← findIdle name with
    | none => return false
    | some (slot, sequence) =>
      giveVariables slot values
      match inner with
      | none => return false
      | some inner =>
        succeeded sequence.name (runNested team (some inner) slot
          { sequence with store := setAll sequence.store values })

/-- Looks sequences up in the library and runs them, with room for `depth` frames. -/
def libraryLookup (team : Collaborators ω) : (depth : Nat) → Lookup ω
  | 0 => lookupOver team none
  | depth + 1 => lookupOver team (some (libraryLookup team depth))

/-- The lookup with room for every sequence of a library. -/
def lookupIn (team : Collaborators ω) (library : Library) : Lookup ω :=
  libraryLookup team library.sequences.length

/-- A lookup that a collaborator sees to. -/
def foreignLookup (answer : String → List (String × String) → Effect ω Bool) : Lookup ω :=
  fun name values => ask (.lookup name values) (answer name values)

end Run

/-- What the payloads of a run can ask for sequences: nothing, a library, or a collaborator. -/
inductive Binding (ω : Type) where
  | none
  | library (sequences : Library)
  | foreign (answer : String → List (String × String) → Effect ω Bool)

/-- The lookup of a run that is bound in some way. -/
def Binding.lookup {ω : Type} (team : Collaborators ω) : Binding ω → Option (Lookup ω)
  | .none => .none
  | .library sequences => some (Run.lookupIn team sequences)
  | .foreign answer => some (Run.foreignLookup answer)

end DesktopMacro
