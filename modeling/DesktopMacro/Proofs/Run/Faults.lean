/-
What actions can fail with, said once.

The work of an action raises failures, and some of them escape from the action. What breaks in a
collaborator is raised but does not escape: it becomes a fault of the action. A failure for which an
action is to blame escapes unless the action tolerates errors, and it is blamed on the action unless
the work inside blames another one. The two are defined by what can happen in the code, constructor
by constructor, and `DesktopMacro.Proofs.Run.Actions` proves that nothing else comes out of an
action.

While a sequence runs, its variables can be named and its points can be replaced, so the action that
is blamed is one that the action in the tree has become.
-/
import DesktopMacro.Proofs.Run.Tasks

set_option autoImplicit false

namespace DesktopMacro

variable {ω : Type}

/-! ## Failures -/

namespace Failure

theorem isCancelled_of_isAction {f : Failure} (h : f.isAction = true) : f.isCancelled = false := by
  cases f with
  | cancelled message => cases h
  | failed cause blamed => rfl
  | exhausted label attempts last blamed => rfl

end Failure

/-! ## What becomes of actions -/

/-- **What an action can become** while its sequence runs, by edits that are permitted. -/
inductive Action.Becomes (permits : Edit → Prop) (action : Action) : Action → Prop where
  | same : Becomes permits action action
  | changed {header : Action.Header} {task : Action.Task} (edit : Edit)
    (before : Becomes permits action (.task header task)) (permitted : permits edit) :
    Becomes permits action (.task (edit.header header) (edit.change.apply task))

/-- An edit that puts no point there, or one of which both numbers can be written. -/
def Edit.IsWritable (edit : Edit) : Prop :=
  ∀ x y, edit.change = .point x y → Integer.IsWritable x ∧ Integer.IsWritable y

/-- A change of a task shows no number that was not shown, but for a point. -/
theorem Change.shownNumbers_apply (change : Change) (task : Action.Task) :
    ∀ n ∈ (change.apply task).shownNumbers,
      n ∈ task.shownNumbers ∨ ∃ x y, change = .point x y ∧ (n = x ∨ n = y) := by
  intro n hn
  cases change with
  | variableName name =>
    cases task <;> exact .inl hn
  -- Only a browser task has a point; and the point is all that is new in it.
  | point x y =>
    cases task with
    | browser task =>
      refine .inr ⟨x, y, rfl, ?_⟩
      have hshown : n ∈ ({ task with x, y } : BrowserTask).shownNumbers := hn
      unfold BrowserTask.shownNumbers at hshown
      split at hshown
      · simpa using hshown
      · cases hshown
    | _ => exact .inl hn

namespace Action.Becomes

variable {permits : Edit → Prop} {action current later : Action}

theorem trans (h : action.Becomes permits current) (h' : current.Becomes permits later) :
    action.Becomes permits later := by
  induction h' with
  | same => exact h
  | changed edit _ permitted ih => exact .changed edit ih permitted

/-- Only the name and the description of a header change. -/
theorem header (h : action.Becomes permits current) :
    ∃ name description, current.header = { action.header with name, description } := by
  induction h with
  | same => exact ⟨_, _, rfl⟩
  | @changed header task edit _ _ ih =>
    obtain ⟨name, description, hheader⟩ := ih
    have hbefore : header = { action.header with name, description } := hheader
    refine ⟨edit.name, edit.description, ?_⟩
    rw [hbefore]
    rfl

theorem continueOnError (h : action.Becomes permits current) :
    current.header.continueOnError = action.header.continueOnError := by
  obtain ⟨_, _, hheader⟩ := h.header
  rw [hheader]

theorem enabled (h : action.Becomes permits current) :
    current.header.enabled = action.header.enabled := by
  obtain ⟨_, _, hheader⟩ := h.header
  rw [hheader]

theorem delayBefore (h : action.Becomes permits current) :
    current.header.delayBefore = action.header.delayBefore := by
  obtain ⟨_, _, hheader⟩ := h.header
  rw [hheader]

theorem children (h : action.Becomes permits current) : current.children = action.children := by
  induction h with
  | same => rfl
  | changed _ _ _ ih => exact ih

/-- An action can still be described once a point is reported that can be written. -/
theorem isDescribable (h : action.Becomes permits current) (hdescribable : action.IsDescribable)
    (hpermits : ∀ edit, permits edit → edit.IsWritable) : current.IsDescribable := by
  induction h with
  | same => exact hdescribable
  | @changed header task edit _ permitted ih =>
    intro n hn
    -- A number that is shown was shown before, or it belongs to the point that was reported.
    rcases Change.shownNumbers_apply edit.change task n hn with hbefore | ⟨x, y, hpoint, hxy⟩
    · exact ih n hbefore
    · obtain ⟨hx, hy⟩ := hpermits edit permitted x y hpoint
      rcases hxy with rfl | rfl
      · exact hx
      · exact hy

end Action.Becomes

/-- The action at a place of a frame is one that the action of the tree has become. -/
theorem Frame.becomes_current {rules : Rules ω} {frame : Frame}
    (h : ∀ edit ∈ frame.edits, rules.Permits edit) (place : Place) (header : Action.Header)
    (task : Action.Task) :
    (Action.task header task).Becomes rules.Permits
      (.task (frame.current place header task).1 (frame.current place header task).2) := by
  unfold Frame.current
  split
  · next edit hedit => exact .changed edit .same (h edit (List.mem_of_find?_eq_some hedit))
  · exact .same

/-! ## What is raised and what escapes -/

section

variable (team : Collaborators ω) (rules : Rules ω) (lookedUp : Failure → Prop)

mutual

/-- **What the work of an action raises**, where looking a sequence up fails as `lookedUp` says. -/
inductive Action.Raises : Action → Failure → Prop where
  | stopped (action : Action) : Raises action .stopped
  | cause (action : Action) (cause : Cause) : Raises action (.failed cause none)
  | call (action : Action) {f : Failure} (h : team.FailsWith f) : Raises action f
  | pause (action : Action) {f : Failure} (slice : Binary64) (world : ω)
    (h : (team.pause slice world).result = .error f) : Raises action f
  | lookup (action : Action) {f : Failure} (h : lookedUp f) : Raises action f
  | fault {action current : Action} (h : action.Becomes rules.Permits current)
    (fault : ActionFault) : Raises action (.atAction fault current)
  | exhausted {action current : Action} (h : action.Becomes rules.Permits current)
    (intolerant : current.header.continueOnError = false) (label : String) (attempts : Nat)
    (last : Failure) : Raises action (.exhausted label attempts last (some current))
  | inside {action child : Action} {f : Failure} (h : child ∈ action.children)
    (escapes : Action.Escapes child f) : Raises action f

/-- **What escapes from an action** that is run in a sequence. -/
inductive Action.Escapes : Action → Failure → Prop where
  | stopped (action : Action) : Escapes action .stopped
  | pause (action : Action) {f : Failure} (slice : Binary64) (world : ω)
    (h : (team.pause slice world).result = .error f) : Escapes action f
  | delay {action : Action} {cause : Cause}
    (h : Pause.seconds action.header.delayBefore = .error cause) :
    Escapes action (.failed cause none)
  | undescribed {action current : Action} (h : action.Becomes rules.Permits current)
    (undescribable : ¬ current.IsDescribable) : Escapes action (.failed .numberUnwritable none)
  | cancelled {action : Action} {f : Failure} (h : Action.Raises action f)
    (cancelled : f.isCancelled = true) : Escapes action f
  | blamed {action current : Action} {f : Failure} (h : action.Becomes rules.Permits current)
    (enabled : action.header.enabled = true)
    (intolerant : action.header.continueOnError = false) (raised : Action.Raises action f)
    (atFault : f.isAction = true) : Escapes action (f.blame current)

end

end

namespace Action

variable {team : Collaborators ω} {rules : Rules ω} {lookedUp : Failure → Prop}

theorem Raises.admits (action : Action) :
    team.Admits (action.Raises team rules lookedUp) where
  stopped := .stopped action
  cause := .cause action
  call _ := .call action
  pause slice world _ := .pause action slice world

theorem Becomes.admits {action current : Action} (h : action.Becomes rules.Permits current) :
    current.Admits (action.Raises team rules lookedUp) where
  fault := .fault h
  exhausted := .exhausted h

/-- What the work of an action raises after a change, it can raise anyway. -/
theorem Raises.of_becomes {action current : Action} (h : action.Becomes rules.Permits current)
    {f : Failure} (hf : current.Raises team rules lookedUp f) :
    action.Raises team rules lookedUp f := by
  cases hf with
  | stopped => exact .stopped action
  | cause _ cause => exact .cause action cause
  | call _ hcall => exact .call action hcall
  | pause _ slice world hpause => exact .pause action slice world hpause
  | lookup _ hlookup => exact .lookup action hlookup
  | fault hnow fault => exact .fault (h.trans hnow) fault
  | exhausted hnow intolerant label attempts last =>
    exact .exhausted (h.trans hnow) intolerant label attempts last
  | inside hchild escapes => exact .inside (h.children ▸ hchild) escapes

/-- What escapes from an action after a change, can escape from it anyway. -/
theorem Escapes.of_becomes {action current : Action} (h : action.Becomes rules.Permits current)
    {f : Failure} (hf : current.Escapes team rules lookedUp f) :
    action.Escapes team rules lookedUp f := by
  cases hf with
  | stopped => exact .stopped action
  | pause _ slice world hpause => exact .pause action slice world hpause
  | delay hseconds => exact .delay (h.delayBefore ▸ hseconds)
  | undescribed hnow undescribable => exact .undescribed (h.trans hnow) undescribable
  | cancelled hraised hcancelled => exact .cancelled (hraised.of_becomes h) hcancelled
  | blamed hnow enabled intolerant raised atFault =>
    exact .blamed (h.trans hnow) (h.enabled ▸ enabled) (h.continueOnError ▸ intolerant)
      (raised.of_becomes h) atFault

end Action
end DesktopMacro
