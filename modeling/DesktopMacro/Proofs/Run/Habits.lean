/-
Habits of runs.

A habit is a property that runs hand on: the smallest runs have it, and whatever is put together
from runs that have it has it, too. Everything that an action does is put together from a few such
runs, so a habit is shown on those few, and every action has it. One lemma for each function that
actions are run with, in the order in which they call one another.

Two things are left to whoever has a habit: how a task changes itself, and what the lookup of other
sequences does.

A habit can tell actions apart by their places. A place leads to at most one action of a tree, and
the actions inside of an action stand at the places below it, so that an action stands somewhere is
handed down the tree.
-/
import DesktopMacro.Proofs.Run.Evaluation

set_option autoImplicit false

namespace DesktopMacro

variable {ω α β : Type}

/-! ## Actions at places -/

/-- Actions side by side, at the places below a place from a number on, have a property. -/
def Action.AllAt (Q : Place → Action → Prop) (place : Place) (index : Nat)
    (actions : List Action) : Prop :=
  ∀ (i : Nat) (action : Action), actions[i]? = some action → Q ((index + i) :: place) action

namespace Action.AllAt

variable {Q : Place → Action → Prop} {place : Place} {index : Nat} {action : Action}
  {actions : List Action}

theorem head (h : AllAt Q place index (action :: actions)) : Q (index :: place) action :=
  h 0 action rfl

theorem tail (h : AllAt Q place index (action :: actions)) :
    AllAt Q place (index + 1) actions := fun i later hlater => by
  rw [Nat.add_assoc, Nat.add_comm 1]
  exact h (i + 1) later hlater

end Action.AllAt

/-- A property of actions at places is handed down to the actions inside. -/
structure Action.HandsDown (Q : Place → Action → Prop) : Prop where
  inLoop : ∀ {place : Place} {header : Action.Header} {spec : LoopSpec} {actions : List Action},
    Q place (.loop header spec actions) → AllAt Q (0 :: place) 0 actions
  inThen : ∀ {place : Place} {header : Action.Header} {spec : ChoiceSpec}
    {thenActions elseActions : List Action},
    Q place (.choice header spec thenActions elseActions) → AllAt Q (0 :: place) 0 thenActions
  inElse : ∀ {place : Place} {header : Action.Header} {spec : ChoiceSpec}
    {thenActions elseActions : List Action},
    Q place (.choice header spec thenActions elseActions) → AllAt Q (1 :: place) 0 elseActions

/-! ## Where actions stand -/

/-- **An action stands at a place** of a tree. -/
inductive Action.StandsAt (root : List Action) : Place → Action → Prop where
  | outer {index : Nat} {action : Action} (h : root[index]? = some action) :
    StandsAt root [index] action
  | inLoop {place : Place} {header : Action.Header} {spec : LoopSpec} {actions : List Action}
    {index : Nat} {action : Action} (around : StandsAt root place (.loop header spec actions))
    (h : actions[index]? = some action) : StandsAt root (index :: 0 :: place) action
  | inThen {place : Place} {header : Action.Header} {spec : ChoiceSpec}
    {thenActions elseActions : List Action} {index : Nat} {action : Action}
    (around : StandsAt root place (.choice header spec thenActions elseActions))
    (h : thenActions[index]? = some action) : StandsAt root (index :: 0 :: place) action
  | inElse {place : Place} {header : Action.Header} {spec : ChoiceSpec}
    {thenActions elseActions : List Action} {index : Nat} {action : Action}
    (around : StandsAt root place (.choice header spec thenActions elseActions))
    (h : elseActions[index]? = some action) : StandsAt root (index :: 1 :: place) action

/-- **Only one action stands at a place.** The induction goes up the place. -/
theorem Action.StandsAt.unique {root : List Action} {place : Place} {action other : Action}
    (h : action.StandsAt root place) (h' : other.StandsAt root place) : action = other := by
  induction h generalizing other with
  | outer hfound =>
    cases h' with
    | outer hfound' => exact Option.some.inj (hfound.symm.trans hfound')
  | inLoop _ hfound ih =>
    cases h' with
    | inLoop around' hfound' =>
      cases ih around'
      exact Option.some.inj (hfound.symm.trans hfound')
    | inThen around' _ => cases ih around'
  | inThen _ hfound ih =>
    cases h' with
    | inLoop around' _ => cases ih around'
    | inThen around' hfound' =>
      cases ih around'
      exact Option.some.inj (hfound.symm.trans hfound')
  | inElse _ hfound ih =>
    cases h' with
    | inElse around' hfound' =>
      cases ih around'
      exact Option.some.inj (hfound.symm.trans hfound')

theorem Action.not_standsAt_nil {place : Place} (action : Action) :
    ¬ action.StandsAt [] place := by
  intro h
  induction h with
  | outer hfound => cases hfound
  | inLoop _ _ ih => exact ih
  | inThen _ _ ih => exact ih
  | inElse _ _ ih => exact ih

/-- Actions stand side by side at the places below a place, from a number on. -/
abbrev Action.StandFrom (root : List Action) : Place → Nat → List Action → Prop :=
  AllAt fun place action => action.StandsAt root place

theorem Action.StandFrom.all (root : List Action) : StandFrom root [] 0 root := fun i _ h => by
  rw [Nat.zero_add]
  exact .outer h

/-- **That actions stand somewhere in a tree is handed down.** -/
theorem Action.handsDown_standsAt (root : List Action) :
    HandsDown (fun place action => action.StandsAt root place) where
  inLoop h i _ hfound := by
    rw [Nat.zero_add]
    exact .inLoop h hfound
  inThen h i _ hfound := by
    rw [Nat.zero_add]
    exact .inThen h hfound
  inElse h i _ hfound := by
    rw [Nat.zero_add]
    exact .inElse h hfound

/-! ## Habits -/

/-- Reads the text of a file. -/
def Run.readText (team : Collaborators ω) (task : FileTask) (path : String) :
    Run ω (Except Cause String) :=
  return fileText team task path (← get)

/-- What a file action does with what it has read, or with the reason why it has not. -/
def Run.useText (team : Collaborators ω) (action : Action) (task : FileTask) (path : String) :
    Except Cause String → Run ω Unit
  | .ok text => deliver team task path text
  | .error cause =>
    if !isFileTrouble cause then Run.fail (.failed cause none)
    else if task.tolerant then Run.log s!"File action error (handled): {cause.text}" .error
    else Run.fail (.atAction (.unreadableFile path cause.text) action)

/-- **A habit of work**: runs that leave the variables alone and do one thing have it, and it is
handed on from one thing after another. -/
structure Run.WorkHabit (P : ∀ α : Type, Run ω α → Prop) : Prop where
  pure : ∀ {α : Type} (a : α), P α (Pure.pure a)
  throw : ∀ {α : Type} (f : Failure), P α (throwThe Failure f)
  bind : ∀ {α β : Type} {x : Run ω α} {f : α → Run ω β}, P α x → (∀ a, P β (f a)) → P β (x >>= f)
  outcome : ∀ {α : Type} {x : Run ω α}, P α x → P _ x.outcome
  mark : ∀ step, P Unit (Run.mark step)
  note : ∀ notes, P Unit (Run.note notes)
  tell : ∀ text, P Unit (modify (·.tell text))
  check : P Unit Run.check
  ask : ∀ {α : Type} (request : Request) (effect : Effect ω α), P α (Run.ask request effect)
  store : P Store Run.store

/-- A habit of work that also looks up what an action has become. -/
structure Run.Habit (P : ∀ α : Type, Run ω α → Prop) : Prop extends Run.WorkHabit P where
  current : ∀ place header task, P _ (Run.current place header task)

/-- A habit of work that also gives the innermost sequence other variables, and reads files. -/
structure Run.TaskHabit (team : Collaborators ω) (P : ∀ α : Type, Run ω α → Prop) : Prop extends
    Run.WorkHabit P where
  setStore : ∀ store, P Unit (Run.setStore store)
  readText : ∀ task path, P _ (Run.readText team task path)

/-- A habit of all that actions do. -/
structure Run.StoreHabit (team : Collaborators ω) (P : ∀ α : Type, Run ω α → Prop) : Prop extends
    Run.Habit P, Run.TaskHabit team P

variable {P : ∀ α : Type, Run ω α → Prop} {team : Collaborators ω}

namespace Run

namespace WorkHabit

/-! ### Putting runs together -/

theorem outcome_bind (h : WorkHabit P) {x : Run ω α} {f : Except Failure α → Run ω β}
    (hx : P _ x) (hf : ∀ r, P _ (f r)) : P _ (x.outcome >>= f) :=
  h.bind (h.outcome hx) hf

theorem ite {c : Prop} [Decidable c] {x y : Run ω α} (hx : P _ x) (hy : P _ y) :
    P _ (if c then x else y) := by
  split
  · exact hx
  · exact hy

theorem fail (h : WorkHabit P) (f : Failure) : P _ (Run.fail f : Run ω α) :=
  h.bind (h.mark _) fun _ => h.throw f

theorem log (h : WorkHabit P) (text : String) (level : Level) :
    P _ (Run.log text level : Run ω Unit) :=
  h.bind (h.note _) fun _ => h.tell text

theorem ofExcept (h : WorkHabit P) (r : Except Cause α) : P _ (Run.ofExcept r : Run ω α) := by
  cases r with
  | ok a => exact h.pure a
  | error cause => exact h.fail _

/-! ### Pauses -/

/-- The induction follows the time that is left. -/
theorem countDown (h : WorkHabit P) (remaining : Binary64) :
    P _ (Pause.countDown team.passSlice remaining) := by
  fun_induction Pause.countDown team.passSlice remaining with
  | case1 remaining left ih =>
    refine h.bind (h.ask _ _) fun _ => h.bind h.check fun _ => ?_
    split
    · next progress => exact ih progress
    · exact h.pure ()
  | case2 remaining left => exact h.pure ()

theorem sleep (h : WorkHabit P) (milliseconds : Int) : P _ (team.sleep milliseconds) := by
  unfold Collaborators.sleep Pause.sleep
  refine h.bind h.check fun _ => h.bind (h.ofExcept _) fun remaining => ?_
  exact h.bind (h.countDown remaining) fun _ => h.check

/-! ### Attempts -/

theorem attemptOnce (h : WorkHabit P) (plan : Retry.Plan ω) {attempt : Run ω Unit}
    (hattempt : P _ attempt) (number : Nat) :
    P _ (Retry.attemptOnce plan attempt number) := by
  refine h.bind h.check fun _ => h.bind (h.mark _) fun _ => h.outcome_bind hattempt fun r => ?_
  match r with
  | .ok () => exact h.pure none
  | .error failure =>
    have hlogged : P _ (do
        Run.check
        Run.log (← Run.ofExcept (Retry.attemptText plan number failure)) .warning
        return some failure : Run ω (Option Failure)) :=
      h.bind h.check fun _ => h.bind (h.ofExcept _) fun text =>
        h.bind (h.log _ _) fun _ => h.pure _
    exact ite (h.bind (h.throw failure) fun _ => hlogged) hlogged

/-- The induction is on the attempts that are left. -/
theorem attemptFrom (h : WorkHabit P) {plan : Retry.Plan ω} (hback : P _ plan.backOff)
    {attempt : Run ω Unit} (hattempt : P _ attempt) (left number : Nat) :
    P _ (Retry.attemptFrom plan attempt left number) := by
  induction left generalizing number with
  | zero => exact h.attemptOnce plan hattempt number
  | succ left ih =>
    refine h.bind (h.attemptOnce plan hattempt number) fun last => ?_
    cases last with
    | none => exact h.pure none
    | some failure => exact h.bind hback fun _ => ih (number + 1)

theorem retry (h : WorkHabit P) (action : Action) (label : String) (retries pause : Int)
    {attempt : Run ω Unit} (hattempt : P _ attempt) :
    P _ (Retry.run team action label retries pause attempt) := by
  refine h.bind (h.attemptFrom (h.sleep pause) hattempt _ 1) fun last => ?_
  cases last with
  | none => exact h.pure true
  | some failure =>
    exact ite (h.bind (h.log _ _) fun _ => h.pure false) (h.fail _)

/-! ### Directives -/

theorem reject (h : WorkHabit P) (follower : Directive.Follower) (fault : DirectiveFault) :
    P _ (follower.reject fault : Run ω Unit) := by
  have hpassed : P _ (if follower.isTolerant then
      Run.log s!"Ignoring malformed JSON directive: {fault.text}" .warning
      else Run.fail (.atAction (.directive fault) follower.action) : Run ω Unit) :=
    ite (h.log _ _) (h.fail _)
  exact ite (h.bind (h.fail _) fun _ => hpassed) hpassed

theorem askSequence (h : WorkHabit P) (follower : Directive.Follower) {lookup : Lookup ω}
    {name : String} {values : List (String × String)} (hlookup : P _ (lookup name values)) :
    P _ (follower.ask lookup name values) := by
  -- With variables or without, the call is the same; only what is logged before it differs.
  refine ite (h.bind (h.log _ _) fun _ => ?_) (h.bind (h.log _ _) fun _ => ?_)
  all_goals
    refine h.outcome_bind hlookup fun r => ?_
    cases r with
    | ok found => exact h.pure found
    | error failure => exact ite (h.throw failure) (h.fail _)

/-- A call upholds what its lookup upholds for the name that is asked for; without a lookup there is
nothing to uphold. -/
theorem callOver (h : WorkHabit P) (follower : Directive.Follower) {lookup : Option (Lookup ω)}
    {name values : Json}
    (hlookup : ∀ inner ∈ lookup, ∀ call, Directive.readCall name values = .ok call →
      ∀ texts, P _ (inner call.name texts)) :
    P _ (follower.call lookup name values) := by
  unfold Directive.Follower.call
  cases hread : Directive.readCall name values with
  | error fault => exact h.reject follower fault
  | ok call =>
    refine h.bind (h.ofExcept _) fun texts => ?_
    have hanswer : ∀ found : Bool, P _ (if (!found) = true then
        if follower.isTolerant = true then
          Run.log s!"Sequence '{call.name}' could not be found or executed" .warning
        else Run.fail (.atAction (.unknownSequence call.name) follower.action)
      else Pure.pure () : Run ω Unit) := fun found =>
      ite (ite (h.log _ _) (h.fail _)) (h.pure ())
    cases lookup with
    | none => exact h.bind (h.log _ _) fun _ => h.bind (h.pure false) hanswer
    | some inner =>
      exact h.bind (h.askSequence follower (hlookup inner rfl call hread texts)) hanswer

/-- A call under a lookup. -/
theorem call (h : WorkHabit P) (follower : Directive.Follower) {lookup : Lookup ω}
    {name values : Json}
    (hlookup : ∀ call, Directive.readCall name values = .ok call →
      ∀ texts, P _ (lookup call.name texts)) :
    P _ (follower.call (some lookup) name values) :=
  h.callOver follower fun _ hinner => by cases hinner; exact hlookup

theorem click (h : WorkHabit P) (follower : Directive.Follower) (raw : Json) :
    P _ (follower.click team raw) := by
  unfold Directive.Follower.click
  cases Directive.readClick raw with
  | error fault => exact h.bind (h.reject follower fault) fun _ => h.pure false
  | ok click =>
    -- A place that can be written and one that cannot go on in the same way.
    refine ite (h.bind (h.fail _) fun _ => ?_) ?_
    all_goals
      refine h.bind (h.log _ _) fun _ => h.outcome_bind (h.ask _ _) fun r => ?_
      cases r with
      | ok made => exact h.pure true
      | error failure => exact ite (h.throw failure) (h.fail _)

theorem wait (h : WorkHabit P) (follower : Directive.Follower) (raw : Json) :
    P _ (follower.wait team raw) := by
  unfold Directive.Follower.wait
  cases Directive.readWait raw with
  | error fault => exact h.bind (h.reject follower fault) fun _ => h.pure false
  | ok duration =>
    have hwait : P _ (do
        Run.log s!"Waiting {Integer.toText duration} ms"
        team.sleep duration
        return true : Run ω Bool) :=
      h.bind (h.log _ _) fun _ => h.bind (h.sleep duration) fun _ => h.pure true
    exact ite (h.bind (h.fail _) fun _ => hwait) hwait

/-- A directive that may end the document is followed, and then the rest if it did not. -/
theorem unlessEnded (h : WorkHabit P) (raw : Option Json) {directive : Json → Run ω Bool}
    {next : Run ω Unit} (hdirective : ∀ raw, P _ (directive raw)) (hnext : P _ next) :
    P _ (match raw with
      | some raw => do if ← directive raw then return else next
      | _ => next : Run ω Unit) := by
  cases raw with
  | none => exact hnext
  | some raw => exact h.bind (hdirective raw) fun ended => ite (h.pure ()) hnext

theorem follow (h : WorkHabit P) (follower : Directive.Follower) {lookup : Option (Lookup ω)}
    (hlookup : ∀ inner ∈ lookup, ∀ name texts, P _ (inner name texts)) (document : Json) :
    P _ (follower.follow team lookup document) := by
  unfold Directive.Follower.follow
  split
  · next members =>
    have hlast : P _ (if (!(["sequenceName", "clickAction", "waitTime"].any (Members.has members)))
        then Run.log "No valid actions found in JSON" .warning else Pure.pure () :
        Run ω Unit) := ite (h.log _ _) (h.pure ())
    have hclick : ∀ raw, P _ (follower.click team raw) := h.click follower
    have hwait : ∀ raw, P _ (follower.wait team raw) := h.wait follower
    have hrest := h.unlessEnded (Members.get? members "clickAction") hclick
      (h.unlessEnded (Members.get? members "waitTime") hwait hlast)
    dsimp only
    split
    · exact h.bind (h.callOver follower fun inner hinner call _ => hlookup inner hinner call.name)
        fun _ => hrest
    · exact hrest
  · exact h.reject follower _

/-! ### Payloads -/

theorem attemptPayload (h : WorkHabit P) (action : Action) (task : PayloadTask)
    {lookup : Option (Lookup ω)}
    (hlookup : ∀ inner ∈ lookup, ∀ name texts, P _ (inner name texts)) :
    P _ (Run.attemptPayload team lookup action task) := by
  have hextract : ∀ text, P _ (extractPayload text : Run ω Json) := fun text => by
    unfold extractPayload
    split
    · exact h.fail _
    · exact h.bind (h.note _) fun _ => h.pure _
  have hpayload : ∀ source : String, P _ (do
      if source.isEmpty then Run.fail (.atAction (.emptySource task.fromClipboard) action)
      let document ← extractPayload source
      Directive.Follower.follow ⟨action, task.offsetX, task.offsetY⟩ team lookup document :
      Run ω Unit) := fun source => by
    have hfollow : P _ (do
        let document ← extractPayload source
        Directive.Follower.follow ⟨action, task.offsetX, task.offsetY⟩ team lookup document :
        Run ω Unit) :=
      h.bind (hextract source) fun document => h.follow _ hlookup document
    exact ite (h.bind (h.fail _) fun _ => hfollow) hfollow
  have hclipboard : P _ (clipboardContent team) :=
    h.bind (h.ask _ _) fun _ => h.pure _
  unfold Run.attemptPayload
  exact ite (h.bind hclipboard hpayload) (h.bind (h.pure _) hpayload)

theorem runPayloadOver (h : WorkHabit P) (action : Action) (task : PayloadTask)
    {lookup : Option (Lookup ω)}
    (hlookup : ∀ inner ∈ lookup, ∀ name texts, P _ (inner name texts)) :
    P _ (Run.runPayload team lookup action task) :=
  h.bind (h.retry action _ _ _ (h.attemptPayload action task hlookup)) fun _ => h.pure ()

/-- A payload under a lookup. -/
theorem runPayload (h : WorkHabit P) (action : Action) (task : PayloadTask) {lookup : Lookup ω}
    (hlookup : ∀ name texts, P _ (lookup name texts)) :
    P _ (Run.runPayload team (some lookup) action task) :=
  h.runPayloadOver action task fun _ hinner => by cases hinner; exact hlookup

/-! ### Input devices, the clipboard and conditions -/

theorem pressAfterGap (h : WorkHabit P) (keys : List String) :
    P _ (Run.pressAfterGap team keys) := by
  induction keys with
  | nil => exact h.pure ()
  | cons key keys ih => exact h.bind (h.sleep keyGap) fun _ => h.bind (h.ask _ _) fun _ => ih

theorem pressKeys (h : WorkHabit P) (keys : List String) : P _ (Run.pressKeys team keys) := by
  cases keys with
  | nil => exact h.pure ()
  | cons key keys => exact h.bind (h.ask _ _) fun _ => h.pressAfterGap keys

theorem runMouse (h : WorkHabit P) (task : MouseTask) : P _ (Run.runMouse team task) :=
  h.bind (h.log _ _) fun _ => h.ask _ _

theorem runKeyboard (h : WorkHabit P) (task : KeyboardTask) :
    P _ (Run.runKeyboard team task) := by
  unfold Run.runKeyboard
  refine h.bind (h.log _ _) fun _ => ?_
  split
  · exact ite (h.ask _ _) (ite (h.log _ _) (h.ask _ _))
  · exact ite (h.log _ _) (ite (h.pressKeys _) (h.ask _ _))

theorem runWait (h : WorkHabit P) (task : WaitTask) : P _ (Run.runWait team task) :=
  h.bind (h.log _ _) fun _ => h.sleep task.duration

theorem clipboardContent (h : WorkHabit P) : P _ (Run.clipboardContent team) :=
  h.bind (h.ask _ _) fun _ => h.pure _

theorem runClipboard (h : WorkHabit P) (action : Action) (task : ClipboardTask) :
    P _ (Run.runClipboard team action task) := by
  have htext : P _ (Run.clipboardText task : Run ω String) := by
    unfold Run.clipboardText
    refine ite (h.bind h.store fun store => ?_) (h.pure _)
    have hvalue : P _ (Run.ofExcept (store.text task.variableName "") : Run ω String) :=
      h.ofExcept _
    exact ite (h.bind (h.log _ _) fun _ => hvalue) hvalue
  have hattempt : P _ (attemptClipboard team task) := by
    unfold attemptClipboard
    refine h.bind htext fun text => ite ?_ (h.ask _ _)
    exact h.bind h.clipboardContent fun _ => h.ask _ _
  exact h.bind (h.retry action _ _ _ hattempt) fun _ => h.pure ()

theorem resolve (h : WorkHabit P) (operand : Operand) : P _ (Run.resolve team operand) := by
  unfold Run.resolve
  split
  · refine h.bind h.store fun store => ?_
    have hvalue : P _ (Run.ofExcept (store.text operand.variableName "") : Run ω String) :=
      h.ofExcept _
    exact ite (h.bind (h.log _ _) fun _ => hvalue) hvalue
  · exact h.clipboardContent
  · exact h.pure _

theorem evaluate (h : WorkHabit P) (condition : Condition) :
    P _ (Run.evaluate team condition) :=
  h.bind (h.resolve condition.left) fun _ => h.bind (h.resolve condition.right) fun _ =>
    h.bind (h.log _ _) fun _ => h.pure _

theorem runChoice (h : WorkHabit P) {spec : ChoiceSpec} {thenBody elseBody : Run ω Unit}
    (hthen : P _ thenBody) (helse : P _ elseBody) (thenCount elseCount : Nat) :
    P _ (Run.runChoice team spec thenCount elseCount thenBody elseBody) := by
  unfold Run.runChoice
  refine h.bind (h.evaluate spec.condition) fun holds => ?_
  exact ite (h.bind (h.log _ _) fun _ => hthen)
    (ite (h.bind (h.log _ _) fun _ => helse) (h.pure ()))

/-! ### The browser -/

/-- A browser task upholds what it upholds to keep a point with it. -/
theorem runBrowser (h : WorkHabit P) {place : Place} {header : Action.Header} {task : BrowserTask}
    (hkeep : ∀ point, P _ (keepPoint place header task point : Run ω Unit)) :
    P _ (Run.runBrowser team place header task) := by
  unfold Run.runBrowser
  refine ite (h.bind (h.log _ _) fun _ => h.ask _ _) ?_
  split
  · exact h.log _ _
  · next evaluate _ =>
    have hfind : P _ (findAndClick team evaluate place header task) := by
      unfold findAndClick
      refine ite (h.bind (h.fail _) fun _ => ?_) ?_
      all_goals
        refine h.bind (h.ask _ _) fun result => h.bind (h.ofExcept _) fun point => ?_
        cases point with
        | none => exact h.fail _
        | some point => exact h.bind (hkeep point) fun _ => h.ask _ _
    have hrun : P _ (runScript evaluate place header task) := by
      unfold runScript
      refine h.bind (h.ask _ _) fun result => h.bind (h.ofExcept _) fun point => ?_
      cases point with
      | some point => exact hkeep point
      | none =>
        have hshow : P _ (if task.operation = .getCoordinates then
            Run.fail (.atAction (.noCoordinates result) (.task header (.browser task)))
            else Run.log s!"Script result: {result.quoted}" : Run ω Unit) :=
          ite (h.fail _) (h.log _ _)
        exact ite (h.bind (h.fail _) fun _ => hshow) hshow
    exact ite hfind hrun

end WorkHabit

namespace TaskHabit

/-! ### Variables and files -/

theorem setVariable (h : TaskHabit team P) (name text : String) (kind : Option Variable.Kind) :
    P _ (Run.setVariable name text kind : Run ω Unit) :=
  h.bind h.store fun _ => h.bind (h.setStore _) fun _ => h.note _

theorem operate (h : TaskHabit team P) (task : VariableTask) :
    P _ (Run.operate task : Run ω Unit) := by
  unfold Run.operate
  refine h.bind h.store fun store => ?_
  cases task.operation with
  | setValue => exact h.setVariable _ _ _
  | increment =>
    exact h.bind (h.ofExcept _) fun _ => h.bind (h.setStore _) fun _ => h.note _
  | decrement =>
    exact h.bind (h.ofExcept _) fun _ => h.bind (h.setStore _) fun _ => h.note _
  | appendText => exact h.bind (h.ofExcept _) fun _ => h.setStore _
  | clearValue => exact h.setStore _
  | addItem => exact h.setStore _
  | removeItem =>
    dsimp only
    split
    · exact h.setStore _
    · exact h.log _ _
  | clearList => exact h.setStore _
  | addRow => exact h.setStore _
  | toggle => exact h.setStore _

/-- A variable task upholds what it upholds to give it a name, if it has none. -/
theorem runVariable (h : TaskHabit team P) {place : Place} {header : Action.Header}
    {task : VariableTask}
    (hname : task.name = "" → ∀ name,
      P _ (editTask place header (.variable task) (.variableName name) : Run ω Unit)) :
    P _ (Run.runVariable team place header task) := by
  have hnamed : P _ (nameVariable team place header task) := by
    unfold nameVariable
    by_cases hempty : task.name.isEmpty = true
    · rw [if_pos hempty]
      exact h.bind (hname (String.isEmpty_iff.1 hempty) _) fun _ =>
        h.bind (h.log _ _) fun _ => h.pure _
    · rw [if_neg hempty]
      exact h.pure task
  refine h.bind hnamed fun named => h.bind (h.operate named) fun _ => ?_
  exact h.bind h.store fun _ => h.bind (h.ofExcept _) fun _ => h.log _ _

theorem runFile (h : TaskHabit team P) (action : Action) (task : FileTask) :
    P _ (Run.runFile team action task) := by
  have hpath : P _ (filePath team task) := by
    unfold filePath
    split
    · exact h.pure _
    · exact h.bind h.clipboardContent fun _ => h.pure _
    · exact h.bind h.store fun _ => h.bind (h.ofExcept _) fun _ => h.pure _
  have hdeliver : ∀ path text, P _ (deliver team task path text) := fun path text => by
    unfold deliver
    split
    · exact h.bind (h.setVariable _ _ _) fun _ => h.log _ _
    · exact h.bind (h.ask _ _) fun _ => h.log _ _
  have huse : ∀ path text, P _ (useText team action task path text) := fun path text => by
    cases text with
    | ok text => exact hdeliver path text
    | error cause => exact WorkHabit.ite (h.fail _) (WorkHabit.ite (h.log _ _) (h.fail _))
  -- Reading and using are two steps here, because only the first of them asks for the machine.
  have hread : ∀ path, P _ (do useText team action task path (← Run.readText team task path)) :=
    fun path => h.bind (h.readText task path) (huse path)
  exact h.bind hpath fun path => WorkHabit.ite (h.log _ _) (hread path)

/-! ### Loops -/

/-- The induction is on the rounds that are left. -/
theorem runRounds (h : TaskHabit team P) {spec : LoopSpec} {body : Run ω Unit} (hbody : P _ body)
    (left round : Nat) (items : Option (List String)) :
    P _ (Run.runRounds team spec body left round items) := by
  induction left generalizing round items with
  | zero => exact h.pure ()
  | succ left ih =>
    have hround : P _ (do
        if spec.useCondition then
          if ← Run.evaluate team spec.condition then
            Run.log "Loop condition met, ending loop"
            return
        Run.log s!"Loop iteration {round + 1}/{Integer.toText spec.maxIterations}"
        body
        Run.runRounds team spec body left (round + 1) (items.map List.tail) :
        Run ω Unit) := by
      have hrest := h.bind (h.log
        s!"Loop iteration {round + 1}/{Integer.toText spec.maxIterations}" .info) fun _ =>
          h.bind hbody fun _ => ih (round + 1) (items.map List.tail)
      refine WorkHabit.ite (h.bind (h.evaluate spec.condition) fun met => ?_) hrest
      exact WorkHabit.ite (h.bind (h.log _ _) fun _ => h.pure ()) hrest
    match items with
    | none => exact h.bind h.check fun _ => h.bind (h.mark _) fun _ => hround
    | some [] => exact h.bind h.check fun _ => h.pure ()
    | some (item :: rest) =>
      exact h.bind h.check fun _ => h.bind (h.mark _) fun _ =>
        h.bind (h.setVariable _ _ _) fun _ => hround

theorem runLoop (h : TaskHabit team P) {spec : LoopSpec} {body : Run ω Unit} (hbody : P _ body) :
    P _ (Run.runLoop team spec body) := by
  have hitems : P _ (loopItems spec : Run ω (Option (List String))) :=
    WorkHabit.ite (h.pure none) (h.bind h.store fun _ => h.pure _)
  exact h.bind hitems fun items => h.runRounds hbody _ 0 items

/-! ### All tasks -/

/-- **A task upholds a relation** if its changes of itself do, and the lookup of other sequences. -/
theorem runTask (h : TaskHabit team P) {lookup : Option (Lookup ω)}
    (hlookup : ∀ inner ∈ lookup, ∀ name texts, P _ (inner name texts)) {place : Place}
    {header : Action.Header} {task : Action.Task}
    (hname : ∀ t : VariableTask, task = .variable t → t.name = "" → ∀ name,
      P _ (editTask place header (.variable t) (.variableName name) : Run ω Unit))
    (hpoint : ∀ t : BrowserTask, task = .browser t → ∀ x y,
      P _ (editTask place header (.browser t) (.point x y) : Run ω Unit)) :
    P _ (Run.runTask team lookup place header task) := by
  match task with
  | .mouse task => exact h.runMouse task
  | .keyboard task => exact h.runKeyboard task
  | .wait task => exact h.runWait task
  | .variable task => exact h.runVariable (hname task rfl)
  | .clipboard task => exact h.runClipboard _ task
  | .payload task => exact h.runPayloadOver _ task hlookup
  | .browser task => exact h.runBrowser fun point => hpoint task rfl point.1 point.2
  | .file task => exact h.runFile _ task

end TaskHabit

/-! ### Dispatching -/

namespace Habit

theorem currentAction (h : Habit P) (place : Place) (action : Action) :
    P _ (Run.currentAction place action : Run ω Action) := by
  cases action with
  | task header task => exact h.bind (h.current place header task) fun _ => h.pure _
  | loop | choice => exact h.pure _

theorem execute (h : Habit P) (place : Place) (action : Action) {work : Run ω Unit}
    (hwork : P _ work) : P _ (Run.execute place action work) := by
  refine h.bind (h.ofExcept _) fun _ => h.outcome_bind hwork fun r => ?_
  match r with
  | .ok () => exact h.pure ()
  | .error failure =>
    refine WorkHabit.ite (h.throw failure) ?_
    exact h.bind (h.currentAction place action) fun now => h.bind (h.ofExcept _) fun _ => h.fail _

theorem settleAction (h : Habit P) (place : Place) (action : Action)
    (r : Except Failure Unit) : P _ (Run.settleAction place action r : Run ω Unit) := by
  match r with
  | .ok () => exact h.pure ()
  | .error failure =>
    refine WorkHabit.ite ?_ (h.throw failure)
    refine h.bind (h.currentAction place action) fun now => h.bind (h.ofExcept _) fun label => ?_
    exact WorkHabit.ite (h.log _ _) (h.bind (h.log _ _) fun _ => h.throw _)

/-- The work is begun only if the action is enabled. -/
theorem dispatchEnabled (h : Habit P) (place : Place) (action : Action) {work : Run ω Unit}
    (hwork : action.header.enabled = true → P _ work) :
    P _ (Run.dispatch team place action work) := by
  refine h.bind h.check fun _ => ?_
  by_cases enabled : action.header.enabled = true
  · have hstart : P _ (do
        Run.mark (.dispatched place)
        Run.settleAction place action (← Run.outcome (Run.execute place action work)) :
        Run ω Unit) :=
      h.bind (h.mark _) fun _ =>
        h.outcome_bind (h.execute place action (hwork enabled)) (h.settleAction place action)
    rw [if_pos enabled]
    exact WorkHabit.ite (h.bind (h.sleep _) fun _ => hstart) hstart
  · rw [if_neg enabled]
    exact h.pure ()

theorem dispatch (h : Habit P) (place : Place) (action : Action) {work : Run ω Unit}
    (hwork : P _ work) : P _ (Run.dispatch team place action work) :=
  h.dispatchEnabled place action fun _ => hwork

end Habit

/-! ### The tree -/

namespace StoreHabit

section

variable {lookup : Option (Lookup ω)} {Q : Place → Action → Prop}

mutual

/-- **An action has a habit** if the tasks of its tree have it. -/
theorem runAction (h : StoreHabit team P) (hdown : Action.HandsDown Q)
    (htask : ∀ place header task, Q place (.task header task) →
      P _ (Run.runAction team lookup place (.task header task)))
    {place : Place} (action : Action) (hthere : Q place action) :
    P _ (Run.runAction team lookup place action) := by
  match action with
  | .task header task => exact htask place header task hthere
  | .loop header spec actions =>
    exact h.dispatch place _ (h.runLoop (runActions h hdown htask actions (hdown.inLoop hthere)))
  | .choice header spec thenActions elseActions =>
    exact h.dispatch place _
      (h.runChoice (runActions h hdown htask thenActions (hdown.inThen hthere))
        (runActions h hdown htask elseActions (hdown.inElse hthere)) _ _)

/-- Actions side by side have a habit if the tasks of their tree have it. -/
theorem runActions (h : StoreHabit team P) (hdown : Action.HandsDown Q)
    (htask : ∀ place header task, Q place (.task header task) →
      P _ (Run.runAction team lookup place (.task header task)))
    {place : Place} {index : Nat} (actions : List Action)
    (hthere : Action.AllAt Q place index actions) :
    P _ (Run.runActions team lookup place index actions) := by
  match actions with
  | [] => exact h.pure ()
  | action :: actions =>
    exact h.bind (runAction h hdown htask action hthere.head) fun _ =>
      runActions h hdown htask actions hthere.tail

end

end

end StoreHabit
end Run
end DesktopMacro
