/-
Loops unroll.

A loop that counts does what its actions do when they are written so many times in a row. One with a
condition does what so many rounds do, each of them a check, a look at the condition and the
actions. The loop logs more on the way, and it is dispatched itself; but its actions cannot tell
what was logged, and a failure that has found its culprit passes the loop unchanged. Where the
actions are written in a row they are the same actions, so each runs at the place that it has in
the loop.

An action that cannot be shown fails without a culprit, and the loop takes the blame. So the actions
of the loop have to be ones that can be shown.
-/
import DesktopMacro.Proofs.Run.Agreement
import DesktopMacro.Proofs.Run.Passing

set_option autoImplicit false

namespace DesktopMacro

variable {ω : Type} {team : Collaborators ω} {lookup : Option (Lookup ω)}

/-! ## Actions in a row -/

/-- Actions that stand side by side below a place, from a number on, each with its own place. -/
def Action.placed (place : Place) : (index : Nat) → List Action → List (Place × Action)
  | _, [] => []
  | index, action :: actions => (index :: place, action) :: placed place (index + 1) actions

namespace Run

/-- Runs actions in a row, each at its own place. -/
def runPlaced (team : Collaborators ω) (lookup : Option (Lookup ω)) :
    List (Place × Action) → Run ω Unit
  | [] => pure ()
  | (place, action) :: row => do
    runAction team lookup place action
    runPlaced team lookup row

/-- Runs up to so many rounds: each checks, looks whether the rounds are over, and runs the body. -/
def runUntil (isOver : Run ω Bool) (body : Run ω Unit) : (left : Nat) → Run ω Unit
  | 0 => pure ()
  | left + 1 => do
    check
    if ← isOver then return
    body
    runUntil isOver body left

theorem runPlaced_placed (place : Place) (index : Nat) (actions : List Action) :
    runPlaced team lookup (Action.placed place index actions)
      = runActions team lookup place index actions := by
  induction actions generalizing index with
  | nil => rfl
  | cons action actions ih => simp only [Action.placed, runPlaced, runActions, ih]

theorem runPlaced_append (row later : List (Place × Action)) :
    runPlaced team lookup (row ++ later)
      = (do runPlaced team lookup row; runPlaced team lookup later) := by
  induction row with
  | nil => simp [runPlaced]
  | cons entry row ih => simp only [List.cons_append, runPlaced, ih, bind_assoc]

/-- No action starts in a run that has been stopped. -/
theorem on_runAction_stopped {m : Machine ω} (stopped : m.isStopped = true) (place : Place)
    (action : Action) :
    (runAction team lookup place action).on m = (.error .stopped, m.mark .noticed) := by
  cases action with
  | task header task =>
    obtain ⟨_, _, -, hcurrent⟩ := on_current m.within_free place header task
    exact (on_bind_ok hcurrent).trans (on_bind_error (on_check_stopped stopped))
  | loop | choice => exact on_bind_error (on_check_stopped stopped)

/-- Rounds that are never over are the actions written so often in a row. Each round begins with a
check that its first action makes once more; where there is no action, the checks find what they
found at the start. -/
theorem on_runUntil_never (row : List (Place × Action)) (left : Nat) {m : Machine ω}
    (awake : m.isStopped = false) :
    (runUntil (pure false) (runPlaced team lookup row) left).on m
      = (runPlaced team lookup (List.replicate left row).flatten).on m := by
  cases row with
  | nil =>
    -- No action checks here, so the rounds do, and each finds the machine as it was.
    induction left with
    | zero => rfl
    | succ left ih =>
      rw [runUntil, on_bind_ok (on_check_awake awake)]
      exact ih
  | cons entry row =>
    clear awake
    induction left generalizing m with
    | zero => rfl
    | succ left ih =>
      rw [List.replicate_succ, List.flatten_cons, runPlaced_append, runUntil]
      by_cases stopped : m.isStopped = true
      -- The first action of a round makes the check of the round once more.
      · rw [on_bind_error (on_check_stopped stopped)]
        exact (on_bind_error (on_bind_error (on_runAction_stopped stopped _ _))).symm
      · rw [on_bind_ok (on_check_awake (by simpa using stopped))]
        rcases hr : (runPlaced team lookup (entry :: row)).on m with ⟨r, m'⟩
        cases r with
        | ok a =>
          rw [on_bind_ok hr, ← ih]
          exact on_bind_ok hr
        | error f => exact (on_bind_error hr).trans (on_bind_error hr).symm

/-! ## Rounds -/

/-- How the rounds of a loop look whether they are over. -/
def isOver (team : Collaborators ω) (spec : LoopSpec) : Run ω Bool :=
  if spec.useCondition then evaluate team spec.condition else pure false

/-- **Rounds of a loop that counts** come to rounds that only check, look whether they are over and
run the body. The induction is on the rounds that are left. -/
theorem alike_runRounds {spec : LoopSpec} {body : Run ω Unit} (hbody : body.Blind)
    (left round : Nat) :
    Alike (runRounds team spec body left round none) (runUntil (isOver team spec) body left) := by
  induction left generalizing round with
  | zero => exact blind_pure ()
  | succ left ih =>
    have hround : Alike
        (do
          log s!"Loop iteration {round + 1}/{Integer.toText spec.maxIterations}"
          body
          runRounds team spec body left (round + 1) none)
        (do
          body
          runUntil (isOver team spec) body left) :=
      .of_quiet (quiet_log _ _) (hbody.bind fun _ => ih (round + 1))
    refine Alike.bind blind_check fun _ => .of_quiet (quiet_mark rfl) ?_
    by_cases hcondition : spec.useCondition = true
    · have hover : isOver team spec = evaluate team spec.condition := if_pos hcondition
      rw [if_pos hcondition]
      rw [hover] at hround ⊢
      refine Alike.bind (habit_blind.evaluate spec.condition) fun ended => ?_
      cases ended with
      | true => exact .of_quiet (quiet_log _ _) (blind_pure ())
      | false => exact hround
    · have hover : isOver team spec = pure false := if_neg hcondition
      rw [if_neg hcondition]
      rw [hover] at hround ⊢
      exact hround

/-- **Rounds from a machine on look on another** whether they are over. -/
inductive LooksOn (isOver : Run ω Bool) (body : Run ω Unit) :
    Nat → Machine ω → Machine ω → Prop where
  | now {left : Nat} {m : Machine ω} (awake : m.isStopped = false) :
    LooksOn isOver body (left + 1) m m
  | later {left : Nat} {m m₁ m₂ m' : Machine ω} (awake : m.isStopped = false)
    (goesOn : isOver.on m = (.ok false, m₁)) (ran : body.on m₁ = (.ok (), m₂))
    (looks : LooksOn isOver body left m₂ m') : LooksOn isOver body (left + 1) m m'

/-- Rounds fail with what is settled if their body does, and looking never fails. -/
theorem isSettled_of_runUntil {rules : Rules ω} {isOver : Run ω Bool} {body : Run ω Unit}
    (hover : isOver.Takes rules fun _ => True) (hbody : body.Takes rules Failure.IsSettled)
    (left : Nat) {m : Machine ω} (hm : m.Within rules)
    (hlooks : ∀ m', LooksOn isOver body left m m' → ∃ ended, (isOver.on m').1 = .ok ended)
    {f : Failure} (h : ((runUntil isOver body left).on m).1 = .error f) : f.IsSettled := by
  induction left generalizing m with
  | zero => cases h
  | succ left ih =>
    rw [runUntil] at h
    by_cases stopped : m.isStopped = true
    · rw [on_bind_error (on_check_stopped stopped)] at h
      cases h
      exact .inl rfl
    · have awake : m.isStopped = false := by simpa using stopped
      rw [on_bind_ok (on_check_awake awake)] at h
      obtain ⟨ended, hresult⟩ := hlooks m (.now awake)
      have hwithin₁ := ((hover m).course hm).within hm
      rcases hlook : isOver.on m with ⟨r, m₁⟩
      rw [hlook] at hresult hwithin₁
      cases hresult
      rw [on_bind_ok hlook] at h
      cases ended with
      | true => cases h
      | false =>
        have hwithin₂ := ((hbody m₁).course hwithin₁).within hwithin₁
        have hfails := (hbody m₁).fails hwithin₁
        have hround : ((body >>= fun _ => runUntil isOver body left).on m₁).1 = .error f := h
        rcases hr : body.on m₁ with ⟨r, m₂⟩
        rw [hr] at hwithin₂ hfails
        cases r with
        | error g =>
          rw [on_bind_error hr] at hround
          exact hfails f (by rw [← hround])
        | ok a =>
          rw [on_bind_ok hr] at hround
          exact ih hwithin₂ (fun m' hm' => hlooks m' (.later awake hlook hr hm')) hround

/-! ## Unrolling -/

/-- **A loop that counts**: it is enabled, does not wait, tolerates no errors, walks over no list,
and can be shown; and so can its actions, whose delays are doubles. -/
structure Counts (header : Action.Header) (spec : LoopSpec) (actions : List Action) : Prop where
  enabled : header.enabled = true
  undelayed : header.delayBefore ≤ 0
  intolerant : header.continueOnError = false
  listless : spec.listName = ""
  describable : (Action.loop header spec actions).IsDescribable
  modest : ∀ action ∈ actions, action.IsModest

variable {header : Action.Header} {spec : LoopSpec} {actions : List Action}

theorem runLoop_listless (h : spec.listName = "") (body : Run ω Unit) :
    runLoop team spec body = runRounds team spec body spec.maxIterations.toNat 0 none := by
  simp [runLoop, loopItems, h]

/-- **A loop that counts comes to its rounds**, as long as looking whether they are over never
fails. -/
theorem meet_rounds (hteam : team.KeepApart) (binding : Binding ω)
    (hloop : Counts header spec actions) (place : Place) (index : Nat) {m : Machine ω}
    (awake : m.isStopped = false) (hm : m.Within (Rules.written ω))
    (hlooks : ∀ m', LooksOn (isOver team spec)
      (runActions team (binding.lookup team) (0 :: index :: place) 0 actions)
      spec.maxIterations.toNat m m' → ∃ ended, ((isOver team spec).on m').1 = .ok ended) :
    Meet (runActions team (binding.lookup team) place index [.loop header spec actions])
      (runUntil (isOver team spec)
        (runActions team (binding.lookup team) (0 :: index :: place) 0 actions)
        spec.maxIterations.toNat) m m := by
  let body := runActions team (binding.lookup team) (0 :: index :: place) 0 actions
  let rounds := runUntil (isOver team spec) body spec.maxIterations.toNat
  have hblind : body.Blind := blind_runActions hteam.files (blind_binding hteam.files binding) _ _ _
  have hover : (isOver team spec).Takes (Rules.written ω) fun _ => True := by
    unfold isOver
    split
    · exact takes_evaluate (admits_any team) _
    · exact .pure false
  -- What the loop is dispatched for comes to the rounds, on the machine that has seen it start.
  have hrounds : Meet (runLoop team spec body) rounds (m.mark (.dispatched (index :: place)))
      m := by
    rw [runLoop_listless hloop.listless]
    exact alike_runRounds hblind _ 0 _ _ (Machine.outward_mark rfl m)
  have hsettled : ∀ f, ((runLoop team spec body).on (m.mark (.dispatched (index :: place)))).1
      = .error f → f.IsSettled := fun f hf =>
    isSettled_of_runUntil hover (takes_runActions_settled hteam binding hloop.modest _ _) _ hm
      hlooks (hrounds.result.symm.trans hf)
  have hwork : runActions team (binding.lookup team) place index [.loop header spec actions]
      = dispatch team (index :: place) (.loop header spec actions) (runLoop team spec body) := by
    simp only [runActions, runAction, bind_pure_unit, body]
  rw [hwork]
  exact (meet_dispatch hloop.describable hloop.enabled hloop.undelayed hloop.intolerant rfl awake
    hsettled).trans hrounds

/-- **Loops unroll.** A loop that counts, started in a run that has not been stopped, comes to the
same as its actions written as often in a row, if it has no condition; and if it has one that can be
evaluated whenever a round looks at it, it comes to the same as rounds of a check, a look at the
condition and the actions. If it is to count to less than one, it comes to nothing. To come to the
same is to end in the same way, and to have asked collaborators for the same and to leave the same
variables and the same actions behind. -/
theorem loop_unrolls (hteam : team.KeepApart) (binding : Binding ω)
    (hloop : Counts header spec actions) (place : Place) (index : Nat) {m : Machine ω}
    (awake : m.isStopped = false) (hm : m.Within (Rules.written ω)) :
    let loop := runActions team (binding.lookup team) place index [.loop header spec actions]
    let inside : Place := 0 :: index :: place
    let body := runActions team (binding.lookup team) inside 0 actions
    (spec.useCondition = false →
      Meet loop (runPlaced team (binding.lookup team)
        (List.replicate spec.maxIterations.toNat (Action.placed inside 0 actions)).flatten) m m) ∧
    (spec.useCondition = true →
      (∀ m', LooksOn (evaluate team spec.condition) body spec.maxIterations.toNat m m' →
        ∃ holds, ((evaluate team spec.condition).on m').1 = .ok holds) →
      Meet loop (runUntil (evaluate team spec.condition) body spec.maxIterations.toNat) m m) ∧
    (spec.maxIterations ≤ 0 → Meet loop (pure ()) m m) := by
  have hrounds := meet_rounds hteam binding hloop place index awake hm
  refine ⟨fun hnone => ?_, fun hsome hlooks => ?_, fun hnegative => ?_⟩
  · have hover : isOver team spec = pure false := if_neg (by simp [hnone])
    rw [hover] at hrounds
    refine (hrounds fun _ _ => ⟨false, rfl⟩).trans (.of_eq ?_)
    rw [← runPlaced_placed]
    exact on_runUntil_never _ _ awake
  · have hover : isOver team spec = evaluate team spec.condition := if_pos hsome
    rw [hover] at hrounds
    exact hrounds hlooks
  · rw [Int.toNat_of_nonpos hnegative] at hrounds
    exact hrounds nofun

theorem keepApart_withoutDevices : withoutDevices.KeepApart where
  files path events world := rfl
  pauses slice world f h := by cases h
  results evaluate script world result there := by cases there

/-- A loop that counts a variable up, twice, with a condition or without. -/
def countingSpec (useCondition : Bool) : LoopSpec :=
  { LoopSpec.initial with
    maxIterations := 2
    useCondition
    condition := ⟨⟨.text, "", "a"⟩, .equals, ⟨.text, "", "b"⟩⟩ }

/-- Counting up. -/
def countingUp : List Action :=
  [.task (.initial "c")
    (.variable { VariableTask.initial with name := "n", operation := .increment })]

theorem counts_countingUp (useCondition : Bool) :
    Counts (.initial "l") (countingSpec useCondition) countingUp where
  enabled := rfl
  undelayed := by decide
  intolerant := rfl
  listless := rfl
  describable := by cases useCondition <;> decide
  modest action h := by
    cases List.mem_singleton.1 h
    exact ⟨by decide, _, rfl⟩

/-- Counting up twice comes to the same in a loop, in a row, and in rounds that go on. -/
theorem loop_unrolls_counting :
    let m := pushFrame (Machine.initial () .empty) (.enter ⟨"s", "", [], .empty, ""⟩ none)
    let body := runActions withoutDevices none [0, 0] 0 countingUp
    Meet (runActions withoutDevices none [] 0
        [.loop (.initial "l") (countingSpec false) countingUp])
      (runPlaced withoutDevices none
        (List.replicate 2 (Action.placed [0, 0] 0 countingUp)).flatten) m m ∧
    Meet (runActions withoutDevices none [] 0
        [.loop (.initial "l") (countingSpec true) countingUp])
      (runUntil (evaluate withoutDevices (countingSpec true).condition) body 2) m m := by
  intro m body
  have hm : m.Within (Rules.written Unit) := Machine.within_pushFrame _ rfl
  have hplain := loop_unrolls keepApart_withoutDevices .none (counts_countingUp false) [] 0
    (m := m) rfl hm
  have hcondition := loop_unrolls keepApart_withoutDevices .none (counts_countingUp true) [] 0
    (m := m) rfl hm
  exact ⟨hplain.1 rfl, hcondition.2.1 rfl fun _ _ => ⟨false, rfl⟩⟩

/-! ### Where unrolling ends -/

/-- A click at a point. -/
def clickAt (x : Int) : Action := .task (.initial "") (.mouse { MouseTask.initial with x })

/-- A loop that makes the click once. -/
def clickingOnce (x : Int) : Action :=
  .loop (.initial "l") { LoopSpec.initial with maxIterations := 1 } [clickAt x]

section

variable {x : Int} {m : Machine Unit}

/-- A click that is too far away to be shown fails before it is made, and nobody is blamed. -/
theorem on_clickAt_far (hx : ¬ Integer.IsWritable x) (place : Place) (awake : m.isStopped = false)
    (atRest : m.frames = []) :
    ∃ m', (runAction withoutDevices none place (clickAt x)).on m
      = (.error (.failed .numberUnwritable none), m') := by
  have hcurrent : ∀ header task, (current place header task).on m = (.ok (header, task), m) :=
    fun header task => by
      unfold current
      rw [on_get_bind, atRest]
      rfl
  have hshown : (clickAt x).describe? = .error .numberUnwritable :=
    if_neg fun hdescribable => hx (hdescribable x List.mem_cons_self)
  have hexecute : ∀ (work : Run Unit Unit) m, (execute place (clickAt x) work).on m
      = (.error (.failed .numberUnwritable none),
        m.mark (.failed (.failed .numberUnwritable none))) :=
    fun work m => by
      unfold execute
      rw [hshown]
      rfl
  have hdispatch : ∀ work : Run Unit Unit, (dispatch withoutDevices place (clickAt x) work).on m
      = (.error (.failed .numberUnwritable none),
        (m.mark (.dispatched place)).mark (.failed (.failed .numberUnwritable none))) :=
    fun work => by
      have undelayed : (clickAt x).header.delayBefore ≤ 0 := Int.le_refl 0
      rw [on_dispatch place rfl undelayed work awake, hexecute]
      rfl
  exact ⟨_, (on_bind_ok (hcurrent _ _)).trans (hdispatch _)⟩

/-- The work of the loop fails in the same way. -/
theorem on_clickingOnce_work (hx : ¬ Integer.IsWritable x) (awake : m.isStopped = false)
    (atRest : m.frames = []) :
    ∃ m', (runLoop withoutDevices { LoopSpec.initial with maxIterations := 1 }
        (runActions withoutDevices none [0, 0] 0 [clickAt x])).on m
      = (.error (.failed .numberUnwritable none), m') := by
  let text := s!"Loop iteration {0 + 1}/{Integer.toText 1}"
  -- The click is run on a machine that has seen the round start.
  let m₁ := ((m.mark (.rounded 0)).see [.logged ⟨.info, text⟩]).tell text
  have houtward : m₁.outward = m.outward :=
    (Machine.outward_log _ _ text).trans (Machine.outward_mark rfl m)
  have awake₁ : m₁.isStopped = false := (Machine.isStopped_of_outward houtward).trans awake
  have atRest₁ : m₁.frames = [] := (Machine.frames_tell _ text).trans atRest
  obtain ⟨m', hclick⟩ := on_clickAt_far hx [0, 0, 0] awake₁ atRest₁
  have hbody : (runActions withoutDevices none [0, 0] 0 [clickAt x]).on m₁
      = (.error (.failed .numberUnwritable none), m') := by
    simp only [runActions]
    exact on_bind_error hclick
  refine ⟨m', ?_⟩
  rw [runLoop_listless rfl]
  show (runRounds withoutDevices _ _ 1 0 none).on m = _
  rw [runRounds, on_bind_ok (on_check_awake awake)]
  exact Eq.trans rfl (on_bind_error (f := fun _ => runRounds withoutDevices _ _ 0 1 none) hbody)

/-- The loop fails, too, but it takes the blame. -/
theorem on_clickingOnce_far (hx : ¬ Integer.IsWritable x) (awake : m.isStopped = false)
    (atRest : m.frames = []) :
    ((runActions withoutDevices none [] 0 [clickingOnce x]).on m).1
      = .error (.atAction (.stated .injection
          s!"{(clickingOnce x).describe}: {Cause.numberUnwritable.text}") (clickingOnce x)) := by
  have hloop : runActions withoutDevices none [] 0 [clickingOnce x]
      = dispatch withoutDevices [0] (clickingOnce x)
          (runLoop withoutDevices { LoopSpec.initial with maxIterations := 1 }
            (runActions withoutDevices none [0, 0] 0 [clickAt x])) := by
    simp only [runActions, clickingOnce, runAction, bind_pure_unit]
  have undelayed : (clickingOnce x).header.delayBefore ≤ 0 := Int.le_refl 0
  obtain ⟨m', hwork⟩ := on_clickingOnce_work (m := m.mark (.dispatched [0])) hx awake atRest
  have hdescribable : (clickingOnce x).IsDescribable := fun n hn => by
    cases List.mem_singleton.1 hn
    decide
  rw [hloop]
  exact blame_dispatch hdescribable rfl undelayed rfl rfl awake hwork rfl rfl

/-- **What cannot be shown** fails with nobody to blame where it stands in a row, and in a loop the
loop is to blame. -/
theorem blame_of_far (hx : ¬ Integer.IsWritable x) (awake : m.isStopped = false)
    (atRest : m.frames = []) :
    ((runPlaced withoutDevices none (Action.placed [0, 0] 0 [clickAt x])).on m).1
        = .error (.failed .numberUnwritable none) ∧
      ((runActions withoutDevices none [] 0 [clickingOnce x]).on m).1
        = .error (.atAction (.stated .injection
            s!"{(clickingOnce x).describe}: {Cause.numberUnwritable.text}") (clickingOnce x)) := by
  obtain ⟨m', hrow⟩ := on_clickAt_far hx [0, 0, 0] awake atRest
  refine ⟨?_, on_clickingOnce_far hx awake atRest⟩
  simp only [Action.placed, runPlaced]
  rw [on_bind_error hrow]

end

/-- A click too far away to be shown. -/
theorem loop_not_unrolled :
    ((runPlaced withoutDevices none (Action.placed [0, 0] 0 [clickAt (10 ^ 4300)])).on
        (Machine.initial () .empty)).1 = .error (.failed .numberUnwritable none) ∧
    ((runActions withoutDevices none [] 0 [clickingOnce (10 ^ 4300)]).on
        (Machine.initial () .empty)).1
      = .error (.atAction (.stated .injection
          s!"{(clickingOnce (10 ^ 4300)).describe}: {Cause.numberUnwritable.text}")
          (clickingOnce (10 ^ 4300))) := by
  have hfar : ¬ Integer.IsWritable (10 ^ 4300) := Integer.not_isWritable_pow (Nat.le_refl _)
  exact blame_of_far hfar rfl rfl

end Run
end DesktopMacro
