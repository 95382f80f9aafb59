/-
Rehearsals: a world in which nothing is touched and everything goes by a plan.

The plan says which methods of a collaborator fail, and when: so many calls pass first, then so many
fail, or all from there on. It says at which pause, input or use of the clipboard the run is
cancelled. The clipboard, the results of browser scripts, the files and the clock are part of the
world. A method that is not in the plan succeeds, and what it was asked to do can be seen.
-/
import DesktopMacro.Desktop.Injector
import DesktopMacro.Files.Tree
import DesktopMacro.Run.Sequences
import DesktopMacro.Run.Trace

set_option autoImplicit false

namespace DesktopMacro

/-- How a method fails: after so many calls, so many times, in this way. No number of times means
that it never stops failing. -/
structure Breakdown where
  skip : Nat
  times : Option Nat
  failure : Failure

/-- The moments at which a run can be cancelled. -/
inductive Cue where
  | pause
  | input
  | read
  | write
deriving DecidableEq, Repr

/-- The world of a rehearsal. -/
structure Rehearsal where
  breakdowns : List (String × Breakdown)
  /-- The cues that are still to come: the run is cancelled when the count is down. -/
  cues : List (Cue × Nat)
  clipboard : Option String
  /-- The results of scripts that are still to come; the last one stays. -/
  results : List Json
  files : FileTree
  clock : Quantity
  /-- By how much the clock moves at the pauses to come. -/
  advances : List Quantity

namespace Rehearsal

/-- A world without a plan. -/
def empty : Rehearsal :=
  { breakdowns := [], cues := [], clipboard := none, results := [], files := .empty,
    clock := .real (.zero false), advances := [] }

/-! ## The plan -/

/-- One call under a breakdown: the failure, if it is due, and what is left of the breakdown. -/
def Breakdown.call (breakdown : Breakdown) : Option Failure × Breakdown :=
  match breakdown.skip, breakdown.times with
  | skip + 1, _ => (none, { breakdown with skip })
  | 0, none => (some breakdown.failure, breakdown)
  | 0, some 0 => (none, breakdown)
  | 0, some (times + 1) => (some breakdown.failure, { breakdown with times := some times })

/-- One call of a method: the failure, if it is due, and the breakdowns afterwards. -/
def callOf (method : String) :
    List (String × Breakdown) → Option Failure × List (String × Breakdown)
  | [] => (none, [])
  | (name, breakdown) :: rest =>
    if name == method then
      let (failure, breakdown) := Breakdown.call breakdown
      (failure, (name, breakdown) :: rest)
    else
      let (failure, rest) := callOf method rest
      (failure, (name, breakdown) :: rest)

/-- Fails if the plan says so for a method. -/
def tryMethod (method : String) : Effect Rehearsal Unit := do
  let (failure, breakdowns) := callOf method (← Effect.world).breakdowns
  .change (fun world => { world with breakdowns })
  match failure with
  | none => return
  | some failure => .fail failure

/-- The cues after one more of a sort, and whether it was the one that cancels. -/
def countDown (cue : Cue) : List (Cue × Nat) → Bool × List (Cue × Nat)
  | [] => (false, [])
  | (name, count) :: rest =>
    if name = cue then
      if count = 1 then (true, rest) else (false, (name, count - 1) :: rest)
    else
      let (due, rest) := countDown cue rest
      (due, (name, count) :: rest)

/-- Something of a sort happens; that can be the moment to cancel. -/
def happen (cue : Cue) (event : Event) : Effect Rehearsal Unit := do
  .see event
  let (due, cues) := countDown cue (← Effect.world).cues
  .change (fun world => { world with cues })
  if due then .cancel

/-! ## The collaborators -/

/-- Pauses; the clock moves on. -/
def pause (seconds : Binary64) : Effect Rehearsal Unit := do
  happen .pause (.paused seconds)
  let world ← Effect.world
  let clock ← Effect.ofExcept (world.clock.add (world.advances.head?.getD (.real seconds)))
  .change (fun world => { world with clock, advances := world.advances.tail })

/-- Makes an input. -/
def make (input : Input) : Effect Rehearsal Unit := do
  tryMethod input.word
  happen .input (.input input)

def readClipboard : Effect Rehearsal (Option String) := do
  tryMethod "read_text"
  let text := (← Effect.world).clipboard
  happen .read (.clipboardRead text)
  return text

def writeClipboard (text : String) : Effect Rehearsal Unit := do
  tryMethod "write_text"
  .change (fun world => { world with clipboard := some text })
  happen .write (.clipboardWritten text)

/-- Runs a script: the next result is taken. -/
def evaluate (script : String) : Effect Rehearsal Json := do
  .see (.evaluated script)
  tryMethod "evaluate"
  let results := (← Effect.world).results
  .change (fun world =>
    let rest := world.results.tail
    { world with results := if rest.isEmpty then world.results else rest })
  return results.head?.getD .null

/-- The collaborators of a rehearsal, with a browser or without. -/
def team (hasBrowser : Bool) (freshDigits : String) : Collaborators Rehearsal :=
  { input := make
    readClipboard
    writeClipboard
    evaluate := if hasBrowser then some evaluate else none
    readFile := fun path _ world => world.files.read path
    pause
    freshDigits }

/-- Looks sequences up among known names, and runs none. -/
def lookUp (known : List String) : Lookup Rehearsal :=
  Run.foreignLookup (fun name values => do
    .see (.lookedUp name values)
    tryMethod (lookupWord values)
    return known.contains name)

/-! ## The devices -/

/-- Tells a device something. -/
def tell (call : DeviceCall) : Effect Rehearsal Unit := do
  tryMethod call.word
  match call with
  | .copy text => .change (fun world => { world with clipboard := some text })
  | _ => pure ()
  .see (.device call)

/-- Pastes from the clipboard. -/
def paste : Effect Rehearsal String := do
  let text := (← Effect.world).clipboard.getD ""
  tell (.paste text)
  return text

end Rehearsal
end DesktopMacro
