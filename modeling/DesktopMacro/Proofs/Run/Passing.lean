/-
Failures that pass an action.

A cancellation passes every action, and a failure with an action to blame passes every action that
tolerates no errors; neither is changed on the way. What is left unblamed does not pass: it becomes
a fault of the action. So an action whose work fails with what passes does outwardly what its work
does.

What escapes from an action passes those around it, unless the action cannot be described or its
delay is no double. Such an action fails with nobody to blame.
-/
import DesktopMacro.Proofs.Run.Blame
import DesktopMacro.Proofs.Run.Blindness

set_option autoImplicit false

namespace DesktopMacro

variable {ω : Type} {team : Collaborators ω}

/-! ## Settled failures -/

/-- **A settled failure** is a cancellation, or an action's fault that has an action to blame. -/
def Failure.IsSettled (f : Failure) : Prop :=
  f.isCancelled = true ∨ f.isAction = true ∧ ∃ culprit, f.blamed? = some culprit

/-- Whom an action blames is to blame, or somebody was before. -/
theorem Failure.isSettled_blame {f : Failure} (atFault : f.isAction = true) (action : Action) :
    (f.blame action).IsSettled := by
  refine .inr ⟨by cases f <;> exact atFault, ?_⟩
  cases hblamed : f.blamed? with
  | none => exact ⟨action, blamed?_blame_of_none atFault hblamed action⟩
  | some culprit => exact ⟨culprit, by rw [blame_of_some hblamed]; exact hblamed⟩

/-- **Collaborators that keep apart**: what is logged goes to no file that is read, pauses fail with
cancellations only, and the results of scripts have no number that is too long. -/
structure Collaborators.KeepApart (team : Collaborators ω) : Prop where
  files : team.ReadsNoLog
  pauses : ∀ slice world f, (team.pause slice world).result = .error f → f.isCancelled = true
  results : ∀ evaluate script world result, team.evaluate = some evaluate →
    (evaluate script world).result = .ok result → result.isWritable = true

theorem Collaborators.KeepApart.allow (h : team.KeepApart) : (Rules.written ω).Allow team := by
  rintro x y ⟨evaluate, script, world, result, there, hresult, hpoint⟩
  exact Run.isWritable_of_pointOf? (h.results evaluate script world result there hresult) hpoint

/-- **What escapes from a modest action is settled.** -/
theorem Action.Escapes.isSettled {lookedUp : Failure → Prop} (hteam : team.KeepApart)
    {action : Action} (hmodest : action.IsModest) {f : Failure}
    (h : action.Escapes team (Rules.written ω) lookedUp f) : f.IsSettled := by
  cases h with
  | stopped => exact .inl rfl
  | pause _ slice world hpause => exact .inl (hteam.pauses slice world f hpause)
  | delay hdelay =>
    obtain ⟨seconds, hseconds⟩ := hmodest.delay
    rw [hseconds] at hdelay
    cases hdelay
  | undescribed hbecomes undescribable =>
    exact absurd (hbecomes.isDescribable hmodest.describable fun _ => id) undescribable
  | cancelled _ hcancelled => exact .inl hcancelled
  | blamed _ _ _ _ atFault => exact Failure.isSettled_blame atFault _

namespace Run

/-- Modest actions in a row fail with what is settled. -/
theorem takes_runActions_settled (hteam : team.KeepApart) (binding : Binding ω)
    {actions : List Action} (hmodest : ∀ action ∈ actions, action.IsModest) (place : Place)
    (index : Nat) :
    (runActions team (binding.lookup team) place index actions).Takes (Rules.written ω)
      Failure.IsSettled := by
  have hlookup := takes_binding hteam.allow (fun _ _ _ _ => trivial) binding
  refine (takes_runActions hteam.allow hlookup place index actions).mono ?_
  rintro f ⟨action, haction, hescapes⟩
  exact hescapes.isSettled hteam (hmodest action haction)

/-! ## Dispatching -/

variable {place : Place} {action : Action}

/-- The work of an action that can be described is carried out as it is, if its failures are
settled. -/
theorem on_execute_of_settled (hdescribable : action.IsDescribable) {work : Run ω Unit}
    {m : Machine ω} (hsettled : ∀ f, (work.on m).1 = .error f → f.IsSettled) :
    (execute place action work).on m = work.on m := by
  have hshown : action.describe? = .ok action.describe := if_pos hdescribable
  unfold execute
  simp only [hshown, ofExcept, pure_bind]
  rw [on_outcome_bind]
  rcases hr : work.on m with ⟨r, m'⟩
  cases r with
  | ok a => rfl
  | error f =>
    -- What is settled is thrown again as it is.
    have hpass : (f.isAction || f.isCancelled) = true := by
      rcases hsettled f (by rw [hr]) with hcancelled | ⟨hfault, -⟩
      · simp [hcancelled]
      · simp [hfault]
    simp only [if_pos hpass]
    rfl

/-- An action that tolerates no errors lets settled failures pass, and logs them at most. -/
theorem settleAction_of_settled (intolerant : action.header.continueOnError = false)
    (hdescribable : action.IsDescribable)
    (hcurrent : (currentAction place action : Run ω Action) = pure action) {f : Failure}
    (hsettled : f.IsSettled) (m : Machine ω) :
    ((settleAction place action (.error f)).on m).1 = .error f ∧
      ((settleAction place action (.error f)).on m).2.outward = m.outward := by
  rcases hsettled with hcancelled | ⟨hfault, culprit, hblamed⟩
  · have hpass : ¬ f.isAction = true := fun hfault => by
      rw [Failure.isCancelled_of_isAction hfault] at hcancelled
      cases hcancelled
    simp only [settleAction, if_neg hpass, on_throw, and_self]
  · -- The message on the failure names the action, which is why it has to be one that can be shown.
    obtain ⟨label, hlabel⟩ : ∃ label, action.label? = .ok label := by
      unfold Action.label?
      split
      · exact ⟨_, if_pos hdescribable⟩
      · exact ⟨_, rfl⟩
    simp only [settleAction, if_pos hfault, hcurrent, pure_bind, Failure.blame_of_some hblamed,
      hlabel, ofExcept, intolerant, Bool.false_eq_true, if_false]
    exact ⟨rfl, Machine.outward_log _ _ _⟩

/-- An enabled action that does not wait is carried out at once, unless the run has been stopped. -/
theorem on_dispatch (place : Place) (enabled : action.header.enabled = true)
    (undelayed : action.header.delayBefore ≤ 0) (work : Run ω Unit) {m : Machine ω}
    (awake : m.isStopped = false) :
    (dispatch team place action work).on m
      = (settleAction place action
          ((execute place action work).on (m.mark (.dispatched place))).1).on
          ((execute place action work).on (m.mark (.dispatched place))).2 := by
  unfold dispatch
  rw [on_bind_ok (on_check_awake awake), if_pos enabled]
  dsimp only
  rw [if_neg (not_lt.2 undelayed), on_bind_ok (on_mark _ m), on_outcome_bind]

/-- **An action comes to what its work comes to**, if it is enabled, does not wait, tolerates no
errors and can be shown, and the failures of its work are settled. -/
theorem meet_dispatch (hdescribable : action.IsDescribable)
    (enabled : action.header.enabled = true) (undelayed : action.header.delayBefore ≤ 0)
    (intolerant : action.header.continueOnError = false)
    (hcurrent : (currentAction place action : Run ω Action) = pure action) {work : Run ω Unit}
    {m : Machine ω} (awake : m.isStopped = false)
    (hsettled : ∀ f, (work.on (m.mark (.dispatched place))).1 = .error f → f.IsSettled) :
    Meet (dispatch team place action work) work m (m.mark (.dispatched place)) := by
  have hstart : (dispatch team place action work).on m = _ :=
    on_dispatch place enabled undelayed work awake
  rw [on_execute_of_settled hdescribable hsettled] at hstart
  rcases hr : work.on (m.mark (.dispatched place)) with ⟨r, m'⟩
  rw [hr] at hstart hsettled
  cases r with
  | ok a =>
    cases a
    exact .of_eq (hstart.trans hr.symm)
  | error f =>
    obtain ⟨hresult, houtward⟩ :=
      settleAction_of_settled intolerant hdescribable hcurrent (hsettled f rfl) m'
    exact ⟨by rw [hstart, hr]; exact hresult, by rw [hstart, hr]; exact houtward⟩

/-- What fails with nobody to blame in the work of an action fails in the name of the action. -/
theorem blame_dispatch (hdescribable : action.IsDescribable)
    (enabled : action.header.enabled = true) (undelayed : action.header.delayBefore ≤ 0)
    (intolerant : action.header.continueOnError = false)
    (hcurrent : (currentAction place action : Run ω Action) = pure action) {work : Run ω Unit}
    {m m' : Machine ω} (awake : m.isStopped = false) {f : Failure}
    (hwork : work.on (m.mark (.dispatched place)) = (.error f, m'))
    (hforeign : f.isAction = false) (huncancelled : f.isCancelled = false) :
    ((dispatch team place action work).on m).1
      = .error (.atAction (.stated .injection s!"{action.describe}: {f.text}") action) := by
  have hshown : action.describe? = .ok action.describe := if_pos hdescribable
  have hexecute : (execute place action work).on (m.mark (.dispatched place))
      = (.error (.atAction (.stated .injection s!"{action.describe}: {f.text}") action),
        m'.mark (.failed (.atAction (.stated .injection s!"{action.describe}: {f.text}")
          action))) := by
    unfold execute
    simp only [hshown, ofExcept, pure_bind]
    rw [on_outcome_bind, hwork]
    simp only [hforeign, huncancelled, Bool.or_self, Bool.false_eq_true, if_false, hcurrent,
      pure_bind, hshown]
    rfl
  rw [on_dispatch place enabled undelayed work awake, hexecute]
  exact (settleAction_of_settled intolerant hdescribable hcurrent (.inr ⟨rfl, action, rfl⟩) _).1

end Run
end DesktopMacro
