/-
Pauses and attempts take courses.

A pause looks whether the run has been stopped before its first slice and after every slice, so no
slice is asked for in a stopped run, and a pause that ends well leaves a run that has not been
stopped. An attempt begins right after a check. A failed attempt is put up with unless it is a
cancellation.

What the collaborators of a run can fail with is named here too, because pauses are the first to ask
one for something.
-/
import DesktopMacro.Proofs.Run.Course

set_option autoImplicit false

namespace DesktopMacro

variable {ω : Type}

/-! ## The failures that come up anyway -/

/-- What the collaborators of a run can fail with, pauses left aside. -/
inductive Collaborators.FailsWith (team : Collaborators ω) (f : Failure) : Prop where
  | input (input : Input) (world : ω) (h : (team.input input world).result = .error f)
  | reading (world : ω) (h : (team.readClipboard world).result = .error f)
  | writing (text : String) (world : ω) (h : (team.writeClipboard text world).result = .error f)
  | evaluating (evaluate : String → Effect ω Json) (script : String) (world : ω)
    (there : team.evaluate = some evaluate) (h : (evaluate script world).result = .error f)

/-- `P` lets pass what a check, a collaborator, or a value that cannot be written or converted fails
with. -/
structure Collaborators.Admits (team : Collaborators ω) (P : Failure → Prop) : Prop where
  stopped : P .stopped
  cause : ∀ cause, P (.failed cause none)
  call : ∀ f, team.FailsWith f → P f
  pause : ∀ slice world f, (team.pause slice world).result = .error f → P f

/-- `P` lets pass what an action is at fault for. -/
structure Action.Admits (action : Action) (P : Failure → Prop) : Prop where
  fault : ∀ fault, P (.atAction fault action)
  exhausted : action.header.continueOnError = false →
    ∀ label attempts last, P (.exhausted label attempts last (some action))

variable {team : Collaborators ω} {rules : Rules ω} {P : Failure → Prop}

namespace Run

theorem takes_makeInput (h : team.Admits P) (input : Input) :
    (team.makeInput input).Takes rules P :=
  takes_ask rfl fun w f hf => h.call f (.input input w hf)

theorem takes_fetchClipboard (h : team.Admits P) : team.fetchClipboard.Takes rules P :=
  takes_ask rfl fun w f hf => h.call f (.reading w hf)

theorem takes_fillClipboard (h : team.Admits P) (text : String) :
    (team.fillClipboard text).Takes rules P :=
  takes_ask rfl fun w f hf => h.call f (.writing text w hf)

/-! ## Pauses -/

/-- The slices of a pause are asked for in a run that has not been stopped. The induction follows
the time that is left; the check behind every slice is what carries it. -/
theorem takesFrom_countDown (hstop : P .stopped)
    (hpause : ∀ slice world f, (team.pause slice world).result = .error f → P f)
    (remaining : Binary64) (m : Machine ω) (awake : m.isStopped = false) :
    (Pause.countDown team.passSlice remaining).TakesFrom rules P m := by
  fun_induction Pause.countDown team.passSlice remaining generalizing m with
  | case1 remaining left ih =>
    have hslice : (team.passSlice (Pause.slice remaining)).TakesFrom rules P m :=
      takesFrom_ask (fun _ => awake) fun f hf => hpause _ m.world f hf
    refine hslice.bind fun _ m₁ _ => ?_
    -- A slice may cancel the run; the check behind it is what the next slice relies on.
    refine (takes_check hstop m₁).bind fun _ m₂ hm₂ => ?_
    split
    · next progress => exact ih progress m₂ (awake_of_check hm₂)
    · exact Takes.pure _ m₂
  | case2 remaining left => exact Takes.pure _ m

/-- A pause fails only with a slice, with a length that is beyond doubles, or because the run has
been stopped. -/
theorem takes_sleep {milliseconds : Int} (hstop : P .stopped)
    (hpause : ∀ slice world f, (team.pause slice world).result = .error f → P f)
    (hlong : ∀ cause, Pause.seconds milliseconds = .error cause → P (.failed cause none)) :
    (team.sleep milliseconds).Takes rules P := by
  intro m
  unfold Collaborators.sleep Pause.sleep
  refine (takes_check hstop m).bind fun _ m₁ hm₁ => ?_
  -- The length is converted before the first slice, and only here it can be too large.
  cases hseconds : Pause.seconds milliseconds with
  | error cause => exact .of_error rfl (.failed m₁ _) (hlong cause hseconds)
  | ok remaining =>
    have hcount : (Pause.countDown team.passSlice remaining).TakesFrom rules P m₁ :=
      takesFrom_countDown hstop hpause remaining m₁ (awake_of_check hm₁)
    refine (Takes.pure remaining m₁).bind fun a m₂ ha => ?_
    cases ha
    exact hcount.bind fun _ m₃ _ => takes_check hstop m₃

/-- A run that has slept through a pause has not been stopped. -/
theorem awake_of_sleep {milliseconds : Int} {m m' : Machine ω}
    (h : (team.sleep milliseconds).on m = (.ok (), m')) : m'.isStopped = false := by
  unfold Collaborators.sleep Pause.sleep at h
  obtain ⟨_, m₁, -, h⟩ := of_bind_ok h
  obtain ⟨_, m₂, -, h⟩ := of_bind_ok h
  -- The last thing in a pause is a check.
  obtain ⟨_, m₃, -, h⟩ := of_bind_ok h
  exact awake_of_check h

/-- A pause of any length, where failures of values are let pass. -/
theorem takes_sleep_any (h : team.Admits P) (milliseconds : Int) :
    (team.sleep milliseconds).Takes rules P :=
  takes_sleep h.stopped h.pause fun cause _ => h.cause cause

/-! ## Attempts -/

/-- An attempt begins in a run that has not been stopped. What it fails with is put up with, unless
it is a cancellation. -/
theorem takes_attemptOnce (h : team.Admits P) (plan : Retry.Plan ω) {attempt : Run ω Unit}
    (hattempt : attempt.Takes rules P) (number : Nat) :
    (Retry.attemptOnce plan attempt number).Takes rules P := by
  refine takes_check_mark rfl h.stopped fun _ => ?_
  refine hattempt.outcome_bind (fun _ => .pure none) fun f hf => ?_
  -- A cancellation is thrown again as it is. Anything else is over with the attempt.
  by_cases hcancelled : f.isCancelled = true
  · refine .inl ⟨?_, hf⟩
    dsimp only
    rw [if_pos hcancelled]
    rfl
  · refine .inr ⟨by simpa using hcancelled, ?_⟩
    dsimp only
    rw [if_neg hcancelled]
    refine (takes_check h.stopped).bind fun _ => (takes_ofExcept h.cause).bind fun text => ?_
    exact (takes_log text .warning).bind fun _ => .pure (some f)

/-- Attempts end with a failure only if a check or an attempt was cancelled, or a pause or a message
failed. The induction is on the attempts that are left. -/
theorem takes_attemptFrom (h : team.Admits P) (plan : Retry.Plan ω) {attempt : Run ω Unit}
    (hback : plan.backOff.Takes rules P) (hattempt : attempt.Takes rules P) (left number : Nat) :
    (Retry.attemptFrom plan attempt left number).Takes rules P := by
  induction left generalizing number with
  | zero => exact takes_attemptOnce h plan hattempt number
  | succ left ih =>
    refine (takes_attemptOnce h plan hattempt number).bind fun failure => ?_
    match failure with
    | none => exact .pure none
    | some _ => exact hback.bind fun _ => ih (number + 1)

/-- An action that makes attempts fails for itself only when it does not tolerate errors. -/
theorem takes_retry (h : team.Admits P) {action : Action} (hown : action.Admits P)
    {label : String} {retries pause : Int} {attempt : Run ω Unit}
    (hattempt : attempt.Takes rules P) :
    (Retry.run team action label retries pause attempt).Takes rules P := by
  unfold Retry.run
  have hattempts := takes_attemptFrom h ⟨label, Retry.attemptsFor retries, team.sleep pause⟩
    (takes_sleep_any h pause) hattempt (Retry.attemptsFor retries - 1) 1
  -- Without a last failure an attempt went well; with one it is for the action to decide.
  refine hattempts.bind fun last => ?_
  cases last with
  | none => exact .pure true
  | some last =>
    refine .ite (fun _ => (takes_log _ _).bind fun _ => .pure false) fun htolerant => ?_
    exact takes_fail (hown.exhausted (by simpa using htolerant) _ _ _)

end Run
end DesktopMacro
