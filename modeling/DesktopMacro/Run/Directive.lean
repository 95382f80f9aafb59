/-
The directives of a payload.

A payload that has been read is an object, and three of its members say what to do, in this order.
`sequenceName`, with `variables` beside it, asks for another sequence. `clickAction` clicks at a
point, shifted by the offset of the action, and ends the payload. `waitTime` waits and ends it too.
A directive that is malformed ends it with a failure, unless the action tolerates errors: then it is
passed over.

The documents that hold one directive each are built here as well, so that what is written and what
is followed stand side by side.
-/
import DesktopMacro.Run.Pause

set_option autoImplicit false

namespace DesktopMacro

/-- How a run asks for a sequence by name, giving it variables: it says whether the sequence was
there and ran. -/
abbrev Lookup (ω : Type) := String → List (String × String) → Run ω Bool

namespace Directive

/-! ## Documents -/

/-- The layout of a document with a directive. -/
def layout : Json.Layout := ⟨some 2, true⟩

/-- The document that asks for a sequence with variables. -/
def sequenceDocument (name values : Json) : Json :=
  .object (("sequenceName", name) :: (if values.isEmpty then [] else [("variables", values)]))

/-- The document that asks for a click. -/
def clickDocument (x y type : Json) : Json :=
  .object [("clickAction", .object [("x", x), ("y", y), ("type", type)])]

/-- The document that asks for a wait. -/
def waitDocument (duration : Json) : Json := .object [("waitTime", duration)]

/-- A document with a directive as text. -/
def write (document : Json) : Except Cause String :=
  match document.write? layout with
  | some text => .ok text
  | none => .error .numberUnwritable

/-! ## Reading -/

/-- The sorts of clicks, by the words for them. -/
inductive ClickType where
  | left
  | right
  | middle
  | double
deriving DecidableEq, Repr

/-- The word for a sort of click. -/
def ClickType.word : ClickType → String
  | left => "leftClick"
  | right => "rightClick"
  | middle => "middleClick"
  | double => "doubleClick"

/-- The sort of click that a value names. -/
def ClickType.of? : Json → Option ClickType
  | .text s => [left, right, middle, double].find? (fun type => type.word == s)
  | _ => none

/-- The input of a click of a sort. -/
def ClickType.input (type : ClickType) (x y : Int) : Input :=
  match type with
  | left => .click x y .left
  | right => .click x y .right
  | middle => .click x y .middle
  | double => .doubleClick x y

/-- A click that a payload asks for. -/
structure Click where
  x : Int
  y : Int
  type : ClickType
deriving DecidableEq, Repr

/-- Reads a click. -/
def readClick (raw : Json) : Except DirectiveFault Click :=
  match raw.member? "x", raw.member? "y" with
  | some (.int x), some (.int y) =>
    let type := (raw.member? "type").getD (.text ClickType.left.word)
    match ClickType.of? type with
    | some type => .ok ⟨x, y, type⟩
    | none => .error (.badClickType type)
  | _, _ => .error (.badClick raw)

/-- Reads a wait. -/
def readWait (raw : Json) : Except DirectiveFault Int :=
  match raw with
  | .int n => if 0 ≤ n then .ok n else .error (.badWait raw)
  | _ => .error (.badWait raw)

/-- A sequence that a payload asks for, with its variables. -/
structure Call where
  name : String
  values : Members

/-- Reads a call. -/
def readCall (name values : Json) : Except DirectiveFault Call :=
  match name with
  | .text s =>
    if Text.isEmptyOrBlank s then .error (.badName name)
    else
      match values with
      | .null => .ok ⟨s, []⟩
      | .object members => .ok ⟨s, members⟩
      | _ => .error .badVariables
  | _ => .error (.badName name)

/-- The text that a variable gets from a value: a text as it is, and any other as JSON. -/
def textOf : Json → Except Cause String
  | .text s => .ok s
  | value =>
    match value.write? .plain with
    | some text => .ok text
    | none => .error .numberUnwritable

/-- The texts of the variables of a call. -/
def textsOf (members : Members) : Except Cause (List (String × String)) :=
  members.mapM (fun entry => do return (entry.1, ← textOf entry.2))

/-! ## Following -/

variable {ω : Type}

/-- The action whose payload is followed. -/
structure Follower where
  action : Action
  offsetX : Int
  offsetY : Int

namespace Follower

/-- Does the action tolerate errors? -/
def isTolerant (follower : Follower) : Bool := follower.action.header.continueOnError

/-- Passes over a malformed directive, or fails. -/
def reject (follower : Follower) (fault : DirectiveFault) : Run ω Unit := do
  if !fault.shown.isWritable then Run.fail (.failed .numberUnwritable none)
  if follower.isTolerant then
    Run.log s!"Ignoring malformed JSON directive: {fault.text}" .warning
  else Run.fail (.atAction (.directive fault) follower.action)

/-- Asks for a sequence, and fails in the name of the action if that breaks. -/
def ask (follower : Follower) (lookup : Lookup ω) (name : String)
    (values : List (String × String)) : Run ω Bool := do
  if values.isEmpty then Run.log s!"Running sequence '{name}'"
  else Run.log s!"Running sequence '{name}' with {values.length} variables"
  match ← Run.outcome (lookup name values) with
  | .ok found => return found
  | .error failure =>
    if failure.isAction || failure.isCancelled then throw failure
    else
      Run.fail (.atAction (.stated .injection s!"Sequence '{name}' failed: {failure.text}")
        follower.action)

/-- Follows a call. -/
def call (follower : Follower) (lookup : Option (Lookup ω)) (name values : Json) :
    Run ω Unit := do
  match readCall name values with
  | .error fault => follower.reject fault
  | .ok call =>
    let texts ← Run.ofExcept (textsOf call.values)
    let found ←
      match lookup with
      | none => do
        Run.log "No sequence lookup available" .warning
        pure false
      | some lookup => follower.ask lookup call.name texts
    if !found then
      if follower.isTolerant then
        Run.log s!"Sequence '{call.name}' could not be found or executed" .warning
      else Run.fail (.atAction (.unknownSequence call.name) follower.action)

/-- Follows a click, and says whether it was made. -/
def click (follower : Follower) (team : Collaborators ω) (raw : Json) : Run ω Bool := do
  match readClick raw with
  | .error fault =>
    follower.reject fault
    return false
  | .ok click =>
    let x := click.x + follower.offsetX
    let y := click.y + follower.offsetY
    if !(decide (Integer.IsWritable x) && decide (Integer.IsWritable y)) then
      Run.fail (.failed .numberUnwritable none)
    let point := MouseTask.showPoint x y
    Run.log s!"JSON click at {point} [{click.type.word}]"
    match ← Run.outcome (team.makeInput (click.type.input x y)) with
    | .ok () => return true
    | .error failure =>
      if failure.isAction then throw failure
      else
        Run.fail (.atAction (.stated .injection s!"Click at {point} failed: {failure.text}")
          follower.action)

/-- Follows a wait, and says whether it was made. -/
def wait (follower : Follower) (team : Collaborators ω) (raw : Json) : Run ω Bool := do
  match readWait raw with
  | .error fault =>
    follower.reject fault
    return false
  | .ok duration =>
    if !Integer.IsWritable duration then Run.fail (.failed .numberUnwritable none)
    Run.log s!"Waiting {Integer.toText duration} ms"
    team.sleep duration
    return true

/-- Follows the directives of a document. -/
def follow (follower : Follower) (team : Collaborators ω) (lookup : Option (Lookup ω))
    (document : Json) : Run ω Unit := do
  match document with
  | .object members =>
    if let some name := Members.get? members "sequenceName" then
      follower.call lookup name ((Members.get? members "variables").getD .null)
    if let some raw := Members.get? members "clickAction" then
      if ← follower.click team raw then return
    if let some raw := Members.get? members "waitTime" then
      if ← follower.wait team raw then return
    if !(["sequenceName", "clickAction", "waitTime"].any (Members.has members)) then
      Run.log "No valid actions found in JSON" .warning
  | _ => follower.reject (.rootNotObject document)

end Follower
end Directive
end DesktopMacro
