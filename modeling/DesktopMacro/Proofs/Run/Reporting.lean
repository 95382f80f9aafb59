/-
There is a report on every ending of a run.

A report names the action to blame, and an action without a name is named by its description, which
can be too long to be written. But an action is described before its work begins, and its label is
taken before a failure that is blamed on it passes on. So whoever is to blame can be named, as long
as the collaborators blame nobody who cannot. The proof follows the tree of actions, over what
`DesktopMacro.Proofs.Run.Actions` says of dispatching one.
-/
import DesktopMacro.Proofs.Run.Blame
import DesktopMacro.Run.Engine

set_option autoImplicit false

namespace DesktopMacro

variable {ω : Type} {team : Collaborators ω} {rules : Rules ω}

/-! ## Failures that can be reported -/

/-- **A failure that can be reported**: if an action is at fault and is known, it can be named. -/
def Failure.IsReportable (f : Failure) : Prop :=
  f.isAction = true → ∀ culprit, f.blamed? = some culprit → ∃ label, culprit.label? = .ok label

namespace Failure

theorem isReportable_of_not_isAction {f : Failure} (h : f.isAction = false) : f.IsReportable := by
  intro hfault
  rw [h] at hfault
  cases hfault

theorem isReportable_of_unblamed {f : Failure} (h : f.blamed? = none) : f.IsReportable := by
  intro _ culprit hculprit
  rw [h] at hculprit
  cases hculprit

/-- A failure that is blamed on an action that can be named can be reported, if it could be before
or nobody was to blame. -/
theorem IsReportable.blame {f : Failure} {action : Action} (h : f.IsReportable)
    {label : String} (hlabel : action.label? = .ok label) : (f.blame action).IsReportable := by
  intro hfault culprit hculprit
  cases f with
  | cancelled message => cases hfault
  | failed cause blamed =>
    cases blamed with
    | none =>
      cases hculprit
      exact ⟨label, hlabel⟩
    | some other => exact h hfault culprit hculprit
  | exhausted name attempts last blamed =>
    cases blamed with
    | none =>
      cases hculprit
      exact ⟨label, hlabel⟩
    | some other => exact h hfault culprit hculprit

end Failure

/-- **There is a report on a failure exactly if it can be reported.** -/
theorem Engine.isSome_reportOn {f : Failure} :
    (reportOn (.error f)).isSome = true ↔ f.IsReportable := by
  by_cases hcancelled : f.isCancelled = true
  · have hreport : reportOn (.error f) = some ⟨false, "Cancelled"⟩ := if_pos hcancelled
    have hforeign : f.isAction = false := by
      cases f with
      | cancelled message => rfl
      | failed cause blamed => cases hcancelled
      | exhausted label attempts last blamed => cases hcancelled
    rw [hreport]
    exact iff_of_true rfl (Failure.isReportable_of_not_isAction hforeign)
  · by_cases hfault : f.isAction = true
    · rw [reportOn, if_neg hcancelled, if_pos hfault]
      cases hblamed : f.blamed? with
      | none => exact iff_of_true rfl (Failure.isReportable_of_unblamed hblamed)
      | some culprit =>
        dsimp only
        cases hlabel : culprit.label? with
        | ok label =>
          refine iff_of_true rfl fun _ other hother => ⟨label, ?_⟩
          cases hblamed.symm.trans hother
          exact hlabel
        | error cause =>
          refine iff_of_false Bool.false_ne_true fun h => ?_
          obtain ⟨label, hok⟩ := h hfault culprit hblamed
          rw [hlabel] at hok
          cases hok
    · rw [reportOn, if_neg hcancelled, if_neg hfault]
      rw [Bool.not_eq_true] at hfault
      exact iff_of_true rfl (Failure.isReportable_of_not_isAction hfault)

/-! ## Actions that can be named -/

namespace Action

theorem label?_of_isDescribable {action : Action} (h : action.IsDescribable) :
    ∃ label, action.label? = .ok label := by
  unfold label?
  split
  · exact ⟨action.describe, if_pos h⟩
  · exact ⟨_, rfl⟩

/-- What an action that can be described is at fault for can be reported. -/
theorem admits_reportable {action : Action} (h : action.IsDescribable) :
    action.Admits Failure.IsReportable := by
  have hlabel := label?_of_isDescribable h
  constructor
  · intro fault _ culprit hculprit
    cases hculprit
    exact hlabel
  · intro _ label attempts last _ culprit hculprit
    cases hculprit
    exact hlabel

end Action

/-! ## Collaborators -/

/-- **Collaborators whose failures can be reported**: they blame nobody who cannot be named. -/
structure Collaborators.Reportable (team : Collaborators ω) : Prop where
  calls : ∀ f, team.FailsWith f → f.IsReportable
  pauses : ∀ slice world f, (team.pause slice world).result = .error f → f.IsReportable

/-- What is bound fails so, too: a library does anyway. -/
def Binding.Reportable : Binding ω → Prop
  | .foreign answer => ∀ name values world f,
      (answer name values world).result = .error f → f.IsReportable
  | _ => True

theorem Binding.Reportable.failsWith {binding : Binding ω} (h : binding.Reportable) {f : Failure}
    (hf : binding.FailsWith f) : f.IsReportable := by
  cases binding with
  | none => exact hf.elim
  | library sequences => exact Failure.isReportable_of_not_isAction hf
  | foreign answer =>
    obtain ⟨name, values, world, hanswer⟩ := hf
    exact h name values world f hanswer

theorem Collaborators.Reportable.admits (h : team.Reportable) :
    team.Admits Failure.IsReportable where
  stopped := Failure.isReportable_of_not_isAction rfl
  cause _ := Failure.isReportable_of_unblamed rfl
  call := h.calls
  pause := h.pauses

/-! ## The tree -/

namespace Run

/-- An action lets out only what can be reported, if its work fails with nothing else. -/
theorem letsOut_reportable (h : team.Reportable) (action : Action) :
    LetsOut team rules action Failure.IsReportable Failure.IsReportable where
  stopped := h.admits.stopped
  pause := h.pauses
  delay cause _ := h.admits.cause cause
  undescribed _ _ _ := h.admits.cause _
  cancelled _ hf _ := hf
  fault _ fault _ hdescribable := (Action.admits_reportable hdescribable).fault fault
  blamed _ _ _ _ hlabel _ _ hf _ := hf.blame hlabel

variable {lookup : Option (Lookup ω)}

mutual

/-- **What comes out of an action can be reported.** -/
theorem reportable_runAction (h : team.Reportable) (hallow : rules.Allow team)
    (hlookup : ∀ inner ∈ lookup, inner.Takes rules Failure.IsReportable) (place : Place)
    (action : Action) : (runAction team lookup place action).Takes rules Failure.IsReportable := by
  match action with
  | .task header task =>
    refine fun m => .of_within fun hm => ?_
    obtain ⟨header', task', -, hcurrent⟩ := on_current hm place header task
    -- A task fails in the name of the action that was described when its work began.
    have hdispatch : (dispatch team place (.task header' task')
        (runTask team lookup place header' task')).Takes rules Failure.IsReportable :=
      takes_dispatch (letsOut_reportable h _) fun hdescribable =>
        takes_runTask h.admits hallow hlookup place header' task'
          (Action.admits_reportable hdescribable)
    exact .after (on_bind_ok hcurrent) (.rest m) (hdispatch m)
  | .loop header spec actions =>
    have hbody := reportable_runActions h hallow hlookup (0 :: place) 0 actions
    exact takes_dispatch (letsOut_reportable h _) fun _ => takes_runLoop h.admits hbody
  | .choice header spec thenActions elseActions =>
    have hthen := reportable_runActions h hallow hlookup (0 :: place) 0 thenActions
    have helse := reportable_runActions h hallow hlookup (1 :: place) 0 elseActions
    exact takes_dispatch (letsOut_reportable h _) fun _ => takes_runChoice h.admits hthen helse _ _

/-- What comes out of actions side by side can be reported. -/
theorem reportable_runActions (h : team.Reportable) (hallow : rules.Allow team)
    (hlookup : ∀ inner ∈ lookup, inner.Takes rules Failure.IsReportable) (place : Place)
    (index : Nat) (actions : List Action) :
    (runActions team lookup place index actions).Takes rules Failure.IsReportable := by
  match actions with
  | [] => exact .pure ()
  | action :: actions =>
    have hrest := reportable_runActions h hallow hlookup place (index + 1) actions
    exact (reportable_runAction h hallow hlookup (index :: place) action).bind fun _ => hrest

end

/-- **What comes out of a sequence can be reported**, whatever it is bound to and whatever was
running below. -/
theorem reportable_runSequence (h : team.Reportable) {binding : Binding ω}
    (hbinding : binding.Reportable) {slot : Option Nat} {sequence : Sequence} {m : Machine ω}
    {f : Failure}
    (hf : ((runSequence team (binding.lookup team) slot sequence).on m).1 = .error f) :
    f.IsReportable := by
  have hlookup : ∀ inner ∈ binding.lookup team,
      inner.Takes (Rules.free ω) Failure.IsReportable := by
    intro inner hinner name values
    have htakes := takes_binding (Rules.allow_free team) Rules.opens_free binding inner hinner
    exact (htakes name values).mono fun _ => hbinding.failsWith
  exact of_runSequence_error
    (reportable_runActions h (Rules.allow_free team) hlookup [] 0 sequence.actions) hf

/-- **There is a report on every ending of a run.** -/
theorem reportOn_runSequence (h : team.Reportable) {binding : Binding ω}
    (hbinding : binding.Reportable) (slot : Option Nat) (sequence : Sequence) (m : Machine ω) :
    ∃ report,
      Engine.reportOn ((runSequence team (binding.lookup team) slot sequence).on m).1
        = some report := by
  rcases hending : ((runSequence team (binding.lookup team) slot sequence).on m).1 with f | _
  · exact Option.isSome_iff_exists.1
      (Engine.isSome_reportOn.2 (reportable_runSequence h hbinding hending))
  · exact ⟨_, rfl⟩

end Run
end DesktopMacro
