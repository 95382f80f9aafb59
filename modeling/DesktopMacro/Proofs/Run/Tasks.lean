/-
The tasks of actions take courses.

One lemma for each function that a task is made of, in the order in which they call one another. A
task fails with what comes up anyway, and with what its own action is at fault for. A payload also
hands on what the lookup of other sequences fails with.
-/
import DesktopMacro.Proofs.Run.Pauses

set_option autoImplicit false

namespace DesktopMacro

variable {ω : Type} {team : Collaborators ω} {rules : Rules ω} {P : Failure → Prop}

/-- A point that a browser script can report. -/
def Collaborators.Reports (team : Collaborators ω) (x y : Int) : Prop :=
  ∃ evaluate script world result, team.evaluate = some evaluate
    ∧ (evaluate script world).result = .ok result ∧ Run.pointOf? result = .ok (some (x, y))

/-- Every point that a script can report is one that the rules allow. -/
def Rules.Allow (rules : Rules ω) (team : Collaborators ω) : Prop :=
  ∀ x y, team.Reports x y → rules.point x y

/-- A lookup that takes a course, whatever it is asked for. -/
def Lookup.Takes (rules : Rules ω) (P : Failure → Prop) (lookup : Lookup ω) : Prop :=
  ∀ name values, (lookup name values).Takes rules P

theorem Lookup.Takes.of_some {lookup : Lookup ω} (h : lookup.Takes rules P) :
    ∀ inner ∈ some lookup, inner.Takes rules P := by
  rintro inner ⟨⟩
  exact h

namespace Run

/-! ## Input devices -/

theorem takes_runMouse (h : team.Admits P) (task : MouseTask) :
    (runMouse team task).Takes rules P :=
  (takes_log _ _).bind fun _ => takes_makeInput h _

theorem takes_pressAfterGap (h : team.Admits P) (keys : List String) :
    (pressAfterGap team keys).Takes rules P := by
  induction keys with
  | nil => exact .pure ()
  | cons key keys ih =>
    exact (takes_sleep_any h keyGap).bind fun _ => (takes_makeInput h _).bind fun _ => ih

theorem takes_pressKeys (h : team.Admits P) (keys : List String) :
    (pressKeys team keys).Takes rules P := by
  cases keys with
  | nil => exact .pure ()
  | cons key keys => exact (takes_makeInput h _).bind fun _ => takes_pressAfterGap h keys

theorem takes_runKeyboard (h : team.Admits P) (task : KeyboardTask) :
    (runKeyboard team task).Takes rules P := by
  unfold runKeyboard
  refine (takes_log _ _).bind fun _ => ?_
  split
  · refine .ite (fun _ => takes_makeInput h _) fun _ => ?_
    exact .ite (fun _ => takes_log _ _) fun _ => takes_makeInput h _
  · refine .ite (fun _ => takes_log _ _) fun _ => ?_
    exact .ite (fun _ => takes_pressKeys h _) fun _ => takes_makeInput h _

theorem takes_runWait (h : team.Admits P) (task : WaitTask) : (runWait team task).Takes rules P :=
  (takes_log _ _).bind fun _ => takes_sleep_any h task.duration

/-! ## Variables -/

theorem takes_setVariable (name text : String) (kind : Option Variable.Kind) :
    (setVariable name text kind : Run ω Unit).Takes rules P :=
  takes_store.bind fun _ => (takes_setStore _).bind fun _ => takes_note _

/-- An operation on a variable fails only with a number that is too large. -/
theorem takes_operate (h : team.Admits P) (task : VariableTask) :
    (operate task : Run ω Unit).Takes rules P := by
  unfold operate
  refine takes_store.bind fun store => ?_
  cases task.operation with
  | setValue => exact takes_setVariable _ _ _
  | increment =>
    exact (takes_ofExcept h.cause).bind fun _ => (takes_setStore _).bind fun _ => takes_note _
  | decrement =>
    exact (takes_ofExcept h.cause).bind fun _ => (takes_setStore _).bind fun _ => takes_note _
  | appendText => exact (takes_ofExcept h.cause).bind fun _ => takes_setStore _
  | clearValue => exact takes_setStore _
  | addItem => exact takes_setStore _
  | removeItem =>
    dsimp only
    split
    · exact takes_setStore _
    · exact takes_log _ _
  | clearList => exact takes_setStore _
  | addRow => exact takes_setStore _
  | toggle => exact takes_setStore _

/-- Changing an action: a point has to be one that the rules allow. -/
theorem takes_editTask (h : team.Admits P) (place : Place) (header : Action.Header)
    (task : Action.Task) {change : Change}
    (hpoint : ∀ x y, change = .point x y → rules.point x y) :
    (editTask place header task change : Run ω Unit).Takes rules P := by
  unfold editTask
  -- The change is made before it is described, so it stays if it cannot be described.
  refine Takes.bind (.modify fun m => .edited m _ hpoint) fun _ => ?_
  exact (takes_ofExcept h.cause).bind fun _ => .modify fun m => .edited m _ hpoint

theorem takes_runVariable (h : team.Admits P) (place : Place) (header : Action.Header)
    (task : VariableTask) : (runVariable team place header task).Takes rules P := by
  -- A task that names no variable is given a name, which is a change of the action.
  have hname : (nameVariable team place header task).Takes rules P := by
    unfold nameVariable
    refine .ite (fun _ => ?_) fun _ => .pure task
    refine (takes_editTask h place header _ fun x y hxy => by cases hxy).bind fun _ => ?_
    exact (takes_log _ _).bind fun _ => .pure _
  refine hname.bind fun named => (takes_operate h named).bind fun _ => ?_
  exact takes_store.bind fun _ => (takes_ofExcept h.cause).bind fun _ => takes_log _ _

/-! ## The clipboard -/

theorem takes_clipboardContent (h : team.Admits P) : (clipboardContent team).Takes rules P :=
  (takes_fetchClipboard h).bind fun _ => .pure _

theorem takes_clipboardText (h : team.Admits P) (task : ClipboardTask) :
    (clipboardText task : Run ω String).Takes rules P := by
  unfold clipboardText
  refine .ite (fun _ => takes_store.bind fun store => ?_) fun _ => .pure _
  have htext : (ofExcept (store.text task.variableName "") : Run ω String).Takes rules P :=
    takes_ofExcept h.cause
  exact .ite (fun _ => (takes_log _ _).bind fun _ => htext) fun _ => htext

theorem takes_attemptClipboard (h : team.Admits P) (task : ClipboardTask) :
    (attemptClipboard team task).Takes rules P := by
  unfold attemptClipboard
  refine (takes_clipboardText h task).bind fun text => ?_
  refine .ite (fun _ => ?_) fun _ => takes_fillClipboard h _
  exact (takes_clipboardContent h).bind fun _ => takes_fillClipboard h _

theorem takes_runClipboard (h : team.Admits P) {action : Action} (hown : action.Admits P)
    (task : ClipboardTask) : (runClipboard team action task).Takes rules P :=
  (takes_retry h hown (takes_attemptClipboard h task)).bind fun _ => .pure ()

/-! ## Payloads -/

theorem takes_extractPayload (h : team.Admits P) (text : String) :
    (extractPayload text : Run ω Json).Takes rules P := by
  unfold extractPayload
  split
  · exact takes_fail (h.cause _)
  · exact (takes_note _).bind fun _ => .pure _

/-- A malformed directive is passed over or fails in the name of the action. -/
theorem takes_reject (h : team.Admits P) {follower : Directive.Follower}
    (hown : follower.action.Admits P) (fault : DirectiveFault) :
    (follower.reject fault : Run ω Unit).Takes rules P := by
  unfold Directive.Follower.reject
  refine Takes.unless (fun _ => h.cause _) (a := ()) ?_
  exact .ite (fun _ => takes_log _ _) fun _ => takes_fail (hown.fault _)

/-- What breaks in a lookup fails in the name of the action; a fault of an action and a cancellation
pass on. -/
theorem takes_askSequence {follower : Directive.Follower} (hown : follower.action.Admits P)
    {lookup : Lookup ω} (hlookup : lookup.Takes rules P)
    (name : String) (values : List (String × String)) :
    (follower.ask lookup name values).Takes rules P := by
  -- With variables or without, the call is the same; only what is logged before it differs.
  refine .ite (fun _ => (takes_log _ _).bind fun _ => ?_)
    fun _ => (takes_log _ _).bind fun _ => ?_
  all_goals
    refine (hlookup name values).outcome_bind (fun found => .pure found) fun f hf => ?_
    by_cases hpass : (f.isAction || f.isCancelled) = true
    · exact .inl ⟨if_pos hpass, hf⟩
    · refine .inr ⟨by simp_all, ?_⟩
      dsimp only
      rw [if_neg hpass]
      exact takes_fail (hown.fault _)

theorem takes_call (h : team.Admits P) {follower : Directive.Follower}
    (hown : follower.action.Admits P) {lookup : Option (Lookup ω)}
    (hlookup : ∀ inner ∈ lookup, inner.Takes rules P)
    (name values : Json) : (follower.call lookup name values).Takes rules P := by
  unfold Directive.Follower.call
  split
  · exact takes_reject h hown _
  · next call _ =>
    refine (takes_ofExcept h.cause).bind fun texts => ?_
    have hanswer : ∀ found : Bool, (if (!found) = true then
        if follower.isTolerant = true then
          log s!"Sequence '{call.name}' could not be found or executed" .warning
        else fail (.atAction (.unknownSequence call.name) follower.action)
      else pure () : Run ω Unit).Takes rules P := fun found =>
      .ite (fun _ => .ite (fun _ => takes_log _ _) fun _ => takes_fail (hown.fault _))
        fun _ => .pure ()
    cases lookup with
    -- Where nothing can be looked up the answer is that there is no such sequence.
    | none => exact (takes_log _ _).bind fun _ => Takes.bind (.pure false) hanswer
    | some inner => exact (takes_askSequence hown (hlookup inner rfl) _ _).bind hanswer

theorem takes_click (h : team.Admits P) {follower : Directive.Follower}
    (hown : follower.action.Admits P) (raw : Json) :
    (follower.click team raw).Takes rules P := by
  unfold Directive.Follower.click
  split
  · exact (takes_reject h hown _).bind fun _ => .pure false
  · next click _ =>
    refine Takes.unless (fun _ => h.cause _) (a := ()) ?_
    refine (takes_log _ _).bind fun _ => ?_
    -- A device can fail with a cancellation, and it is blamed on the action like anything else.
    refine takes_ask_outcome_bind rfl (fun _ => .pure true) fun w f hf => ?_
    by_cases haction : f.isAction = true
    · exact .inl ⟨if_pos haction, h.call f (.input _ w hf)⟩
    · refine .inr ?_
      dsimp only
      rw [if_neg haction]
      exact takes_fail (hown.fault _)

theorem takes_wait (h : team.Admits P) {follower : Directive.Follower}
    (hown : follower.action.Admits P) (raw : Json) :
    (follower.wait team raw).Takes rules P := by
  unfold Directive.Follower.wait
  split
  · exact (takes_reject h hown _).bind fun _ => .pure false
  · next duration _ =>
    refine Takes.unless (fun _ => h.cause _) (a := ()) ?_
    refine (takes_log _ _).bind fun _ => ?_
    exact (takes_sleep_any h duration).bind fun _ => .pure true

/-- A directive that may end the document is followed, and then the rest if it did not. -/
theorem takes_unlessEnded (raw : Option Json) {directive : Json → Run ω Bool} {next : Run ω Unit}
    (hdirective : ∀ raw, (directive raw).Takes rules P) (hnext : next.Takes rules P) :
    (match raw with
      | some raw => do if ← directive raw then return else next
      | _ => next : Run ω Unit).Takes rules P := by
  cases raw with
  | none => exact hnext
  | some raw => exact (hdirective raw).bind fun ended => .ite (fun _ => .pure ()) fun _ => hnext

theorem takes_follow (h : team.Admits P) {follower : Directive.Follower}
    (hown : follower.action.Admits P) {lookup : Option (Lookup ω)}
    (hlookup : ∀ inner ∈ lookup, inner.Takes rules P)
    (document : Json) : (follower.follow team lookup document).Takes rules P := by
  unfold Directive.Follower.follow
  split
  · next members =>
    have hlast : (if (!(["sequenceName", "clickAction", "waitTime"].any (Members.has members)))
        then log "No valid actions found in JSON" .warning else pure () : Run ω Unit).Takes
        rules P := .ite (fun _ => takes_log _ _) fun _ => .pure ()
    -- The rest of the document is followed whether it asks for a sequence or not.
    have hrest := takes_unlessEnded (Members.get? members "clickAction") (takes_click h hown)
      (takes_unlessEnded (Members.get? members "waitTime") (takes_wait h hown) hlast)
    dsimp only
    split
    · exact (takes_call h hown hlookup _ _).bind fun _ => hrest
    · exact hrest
  · exact takes_reject h hown _

theorem takes_attemptPayload (h : team.Admits P) {action : Action} (hown : action.Admits P)
    {lookup : Option (Lookup ω)}
    (hlookup : ∀ inner ∈ lookup, inner.Takes rules P)
    (task : PayloadTask) : (attemptPayload team lookup action task).Takes rules P := by
  have hpayload : ∀ source : String, (do
      if source.isEmpty then fail (.atAction (.emptySource task.fromClipboard) action)
      let document ← extractPayload source
      Directive.Follower.follow ⟨action, task.offsetX, task.offsetY⟩ team lookup document :
      Run ω Unit).Takes rules P := fun source => by
    refine Takes.unless (fun _ => hown.fault _) (a := ()) ?_
    exact (takes_extractPayload h source).bind fun document => takes_follow h hown hlookup document
  unfold attemptPayload
  exact .ite (fun _ => (takes_clipboardContent h).bind hpayload)
    fun _ => Takes.bind (.pure _) hpayload

theorem takes_runPayload (h : team.Admits P) {action : Action} (hown : action.Admits P)
    {lookup : Option (Lookup ω)}
    (hlookup : ∀ inner ∈ lookup, inner.Takes rules P)
    (task : PayloadTask) : (runPayload team lookup action task).Takes rules P :=
  (takes_retry h hown (takes_attemptPayload h hown hlookup task)).bind fun _ => .pure ()

/-! ## The browser -/

theorem takes_askScript (h : team.Admits P) {evaluate : String → Effect ω Json}
    (there : team.evaluate = some evaluate) (script : String) :
    (askScript evaluate script).Takes rules P :=
  takes_ask rfl fun w f hf => h.call f (.evaluating evaluate script w there hf)

/-- A point is kept if it is one that a script can report. -/
theorem takes_keepPoint (h : team.Admits P) (hallow : rules.Allow team) (place : Place)
    (header : Action.Header) (task : BrowserTask) {point : Int × Int}
    (hpoint : team.Reports point.1 point.2) :
    (keepPoint place header task point : Run ω Unit).Takes rules P :=
  takes_editTask h place header _ fun x y hxy => by
    cases hxy
    exact hallow _ _ hpoint

/-- What is done with the result of a script may use that it is the result of a script. -/
theorem takes_askScript_bind (h : team.Admits P) {evaluate : String → Effect ω Json}
    (there : team.evaluate = some evaluate) (script : String) {next : Json → Run ω Unit}
    (hnext : ∀ result world, (evaluate script world).result = .ok result →
      (next result).Takes rules P) :
    (askScript evaluate script >>= next).Takes rules P := by
  intro m
  refine (takes_askScript h there script m).bind fun result m' hm' => ?_
  -- The result was given on the world of that time, which is all that a report asks for.
  refine hnext result m.world ?_ m'
  unfold askScript at hm'
  rw [on_ask, on_perform] at hm'
  cases hr : (evaluate script (m.mark (.asked (.evaluate script))).world).result with
  | ok a =>
    rw [hr] at hm'
    cases hm'
    exact hr
  | error f =>
    rw [hr] at hm'
    cases hm'

theorem takes_findAndClick (h : team.Admits P) (hallow : rules.Allow team)
    {evaluate : String → Effect ω Json} (there : team.evaluate = some evaluate) (place : Place)
    (header : Action.Header) (task : BrowserTask)
    (hown : (Action.task header (.browser task)).Admits P) :
    (findAndClick team evaluate place header task).Takes rules P := by
  unfold findAndClick
  refine Takes.unless (fun _ => hown.fault _) (a := ()) ?_
  refine takes_askScript_bind h there _ fun result world hresult => ?_
  cases hpoint : pointOf? result with
  | error cause => exact takes_fail (h.cause cause)
  | ok point =>
    cases point with
    | none => exact takes_fail (hown.fault _)
    | some point =>
      have hreports : team.Reports point.1 point.2 :=
        ⟨evaluate, _, world, result, there, hresult, hpoint⟩
      exact (takes_keepPoint h hallow place header task hreports).bind fun _ => takes_makeInput h _

theorem takes_runScript (h : team.Admits P) (hallow : rules.Allow team)
    {evaluate : String → Effect ω Json} (there : team.evaluate = some evaluate) (place : Place)
    (header : Action.Header) (task : BrowserTask)
    (hown : (Action.task header (.browser task)).Admits P) :
    (runScript evaluate place header task).Takes rules P := by
  unfold runScript
  refine takes_askScript_bind h there _ fun result world hresult => ?_
  cases hpoint : pointOf? result with
  | error cause => exact takes_fail (h.cause cause)
  | ok point =>
    cases point with
    | some point =>
      have hreports : team.Reports point.1 point.2 :=
        ⟨evaluate, _, world, result, there, hresult, hpoint⟩
      exact takes_keepPoint h hallow place header task hreports
    | none =>
      simp only [ofExcept, pure_bind]
      refine Takes.unless (fun _ => h.cause _) (a := ()) ?_
      exact .ite (fun _ => takes_fail (hown.fault _)) fun _ => takes_log _ _

theorem takes_runBrowser (h : team.Admits P) (hallow : rules.Allow team) (place : Place)
    (header : Action.Header) (task : BrowserTask)
    (hown : (Action.task header (.browser task)).Admits P) :
    (runBrowser team place header task).Takes rules P := by
  unfold runBrowser
  refine .ite (fun _ => (takes_log _ _).bind fun _ => takes_makeInput h _) fun _ => ?_
  split
  · exact takes_log _ _
  · next evaluate there =>
    exact .ite (fun _ => takes_findAndClick h hallow there place header task hown)
      fun _ => takes_runScript h hallow there place header task hown

/-! ## Files -/

theorem takes_filePath (h : team.Admits P) (task : FileTask) :
    (filePath team task).Takes rules P := by
  unfold filePath
  split
  · exact .pure _
  · exact (takes_clipboardContent h).bind fun _ => .pure _
  · exact takes_store.bind fun _ => (takes_ofExcept h.cause).bind fun _ => .pure _

theorem takes_deliver (h : team.Admits P) (task : FileTask) (path text : String) :
    (deliver team task path text).Takes rules P := by
  unfold deliver
  split
  · exact (takes_setVariable _ _ _).bind fun _ => takes_log _ _
  · exact (takes_fillClipboard h _).bind fun _ => takes_log _ _

theorem takes_runFile (h : team.Admits P) {action : Action} (hown : action.Admits P)
    (task : FileTask) : (runFile team action task).Takes rules P := by
  unfold runFile
  refine (takes_filePath h task).bind fun path => ?_
  refine .ite (fun _ => takes_log _ _) fun _ => ?_
  refine .get_bind fun m => ?_
  split
  · exact takes_deliver h task path _ m
  · next cause _ =>
    refine Takes.ite (fun _ => takes_fail (h.cause cause)) (fun _ => ?_) m
    exact .ite (fun _ => takes_log _ _) fun _ => takes_fail (hown.fault _)

/-! ## All tasks -/

/-- **A task takes a course**, and fails with what comes up anyway or what its action is at fault
for. -/
theorem takes_runTask (h : team.Admits P) (hallow : rules.Allow team) {lookup : Option (Lookup ω)}
    (hlookup : ∀ inner ∈ lookup, inner.Takes rules P)
    (place : Place) (header : Action.Header) (task : Action.Task)
    (hown : (Action.task header task).Admits P) :
    (runTask team lookup place header task).Takes rules P := by
  match task, hown with
  | .mouse task, _ => exact takes_runMouse h task
  | .keyboard task, _ => exact takes_runKeyboard h task
  | .wait task, _ => exact takes_runWait h task
  | .variable task, _ => exact takes_runVariable h place header task
  | .clipboard task, hown => exact takes_runClipboard h hown task
  | .payload task, hown => exact takes_runPayload h hown hlookup task
  | .browser task, hown => exact takes_runBrowser h hallow place header task hown
  | .file task, hown => exact takes_runFile h hown task

end Run
end DesktopMacro
