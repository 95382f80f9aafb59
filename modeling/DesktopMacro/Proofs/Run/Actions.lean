/-
Actions take courses.

An action is dispatched after a check, or after a pause that ends with one, so it starts in a run
that has not been stopped; and so does every round of a loop. What comes out of an action is what
escapes from it. The proof follows the tree of actions: one recursion for an action and for actions
side by side, over one lemma for each function that is run at a node.
-/
import DesktopMacro.Proofs.Run.Faults

set_option autoImplicit false

namespace DesktopMacro.Run

variable {ω : Type} {team : Collaborators ω} {rules : Rules ω} {P : Failure → Prop}

/-! ## Conditions -/

theorem takes_resolve (h : team.Admits P) (operand : Operand) :
    (resolve team operand).Takes rules P := by
  unfold resolve
  split
  · refine takes_store.bind fun store => ?_
    have htext : (ofExcept (store.text operand.variableName "") : Run ω String).Takes rules P :=
      takes_ofExcept h.cause
    exact .ite (fun _ => (takes_log _ _).bind fun _ => htext) fun _ => htext
  · exact takes_clipboardContent h
  · exact .pure _

theorem takes_evaluate (h : team.Admits P) (condition : Condition) :
    (evaluate team condition).Takes rules P := by
  unfold evaluate
  refine (takes_resolve h condition.left).bind fun left => ?_
  refine (takes_resolve h condition.right).bind fun right => ?_
  exact (takes_log _ _).bind fun _ => .pure _

/-! ## Loops and choices -/

/-- A round of a loop behind its beginning: unless the condition is met, the body and the rest. -/
theorem takes_roundBody (h : team.Admits P) (spec : LoopSpec) {body next : Run ω Unit}
    (hbody : body.Takes rules P) (hnext : next.Takes rules P) (text : String) :
    (do
      if spec.useCondition then
        if ← evaluate team spec.condition then
          log "Loop condition met, ending loop"
          return
      log text
      body
      next : Run ω Unit).Takes rules P := by
  have hround : (log text >>= fun _ => body >>= fun _ => next : Run ω Unit).Takes rules P :=
    (takes_log _ _).bind fun _ => hbody.bind fun _ => hnext
  refine .ite (fun _ => ?_) fun _ => hround
  refine (takes_evaluate h spec.condition).bind fun met => ?_
  exact .ite (fun _ => (takes_log _ _).bind fun _ => .pure ()) fun _ => hround

/-- Rounds begin in a run that has not been stopped. The induction is on the rounds that are left;
every one of them begins with a check. -/
theorem takes_runRounds (h : team.Admits P) {spec : LoopSpec} {body : Run ω Unit}
    (hbody : body.Takes rules P) (left round : Nat) (items : Option (List String)) :
    (runRounds team spec body left round items).Takes rules P := by
  induction left generalizing round items with
  | zero => exact .pure ()
  | succ left ih =>
    -- Behind its beginning a round is the same, whether the loop goes through items or counts.
    have hround := takes_roundBody h spec hbody (ih (round + 1) (items.map List.tail))
      s!"Loop iteration {round + 1}/{Integer.toText spec.maxIterations}"
    match items with
    | none => exact takes_check_mark rfl h.stopped fun _ => hround
    | some [] => exact (takes_check h.stopped).bind fun _ => .pure ()
    | some (item :: rest) =>
      exact takes_check_mark rfl h.stopped fun _ => (takes_setVariable _ _ _).bind fun _ => hround

theorem takes_loopItems (spec : LoopSpec) :
    (loopItems spec : Run ω (Option (List String))).Takes rules P :=
  .ite (fun _ => .pure none) fun _ => takes_store.bind fun _ => .pure _

theorem takes_runLoop (h : team.Admits P) {spec : LoopSpec} {body : Run ω Unit}
    (hbody : body.Takes rules P) : (runLoop team spec body).Takes rules P :=
  (takes_loopItems spec).bind fun items => takes_runRounds h hbody _ 0 items

theorem takes_runChoice (h : team.Admits P) {spec : ChoiceSpec} {thenBody elseBody : Run ω Unit}
    (hthen : thenBody.Takes rules P) (helse : elseBody.Takes rules P) (thenCount elseCount : Nat) :
    (runChoice team spec thenCount elseCount thenBody elseBody).Takes rules P := by
  unfold runChoice
  refine (takes_evaluate h spec.condition).bind fun holds => ?_
  refine .ite (fun _ => (takes_log _ _).bind fun _ => hthen) fun _ => ?_
  exact .ite (fun _ => (takes_log _ _).bind fun _ => helse) fun _ => .pure ()

/-! ## Dispatching -/

/-- What a run finds at a place is what the action of the tree has become. -/
theorem on_current {m : Machine ω} (hm : m.Within rules) (place : Place) (header : Action.Header)
    (task : Action.Task) :
    ∃ header' task', (Action.task header task).Becomes rules.Permits (.task header' task') ∧
      (current place header task).on m = (.ok (header', task'), m) := by
  cases hframes : m.frames with
  | nil =>
    refine ⟨header, task, .same, ?_⟩
    unfold current
    rw [on_get_bind, hframes]
    rfl
  | cons frame frames =>
    have hedits : ∀ edit ∈ frame.edits, rules.Permits edit := hm frame frames hframes
    refine ⟨_, _, frame.becomes_current hedits place header task, ?_⟩
    unfold current
    rw [on_get_bind, hframes]
    rfl

theorem on_currentAction {m : Machine ω} (hm : m.Within rules) (place : Place) (action : Action) :
    ∃ now, action.Becomes rules.Permits now ∧ (currentAction place action).on m = (.ok now, m) := by
  match action with
  | .loop header spec actions => exact ⟨_, .same, rfl⟩
  | .choice header spec thenActions elseActions => exact ⟨_, .same, rfl⟩
  | .task header task =>
    obtain ⟨header', task', hbecomes, hcurrent⟩ := on_current hm place header task
    exact ⟨_, hbecomes, on_bind_ok hcurrent⟩

/-- Whatever is done with the action at a place is done with one that it has become. -/
theorem takes_currentAction_bind {place : Place} {action : Action} {next : Action → Run ω Unit}
    (hnext : ∀ now, action.Becomes rules.Permits now → (next now).Takes rules P) :
    (currentAction place action >>= next).Takes rules P := by
  refine fun m => .of_within fun hm => ?_
  obtain ⟨now, hbecomes, heq⟩ := on_currentAction hm place action
  exact .after (on_bind_ok heq) (.rest m) (hnext now hbecomes m)

theorem of_describe?_error {action : Action} {cause : Cause}
    (h : action.describe? = .error cause) : ¬ action.IsDescribable ∧ cause = .numberUnwritable := by
  unfold Action.describe? at h
  split at h
  · cases h
  · next hundescribable =>
    cases h
    exact ⟨hundescribable, rfl⟩

theorem of_label?_error {action : Action} {cause : Cause} (h : action.label? = .error cause) :
    ¬ action.IsDescribable ∧ cause = .numberUnwritable := by
  unfold Action.label? at h
  split at h
  · exact of_describe?_error h
  · cases h

/-- **What an action lets out**: where its work fails as `inner` says, it fails as `outer` says. The
work fails with what the action is at fault for, too. -/
structure LetsOut (team : Collaborators ω) (rules : Rules ω) (action : Action)
    (inner outer : Failure → Prop) : Prop where
  stopped : outer .stopped
  pause : ∀ slice world f, (team.pause slice world).result = .error f → outer f
  delay : ∀ cause, Pause.seconds action.header.delayBefore = .error cause →
    outer (.failed cause none)
  undescribed : ∀ now, action.Becomes rules.Permits now → ¬ now.IsDescribable →
    outer (.failed .numberUnwritable none)
  cancelled : ∀ f, inner f → f.isCancelled = true → outer f
  fault : ∀ now fault, action.Becomes rules.Permits now → now.IsDescribable →
    inner (.atAction fault now)
  blamed : ∀ f now label, action.Becomes rules.Permits now → now.label? = .ok label →
    action.header.enabled = true → action.header.continueOnError = false → inner f →
    f.isAction = true → outer (f.blame now)

variable {inner outer : Failure → Prop}

/-- What comes out of the work of an action that is carried out in its name. -/
def Executes (rules : Rules ω) (inner : Failure → Prop) (action : Action) (f : Failure) : Prop :=
  inner f ∧ (f.isAction = true ∨ f.isCancelled = true) ∨
    ∃ now, action.Becomes rules.Permits now ∧ ¬ now.IsDescribable
      ∧ f = .failed .numberUnwritable none

/-- Whatever is done with the words for an action is done with one that can be described. -/
theorem takes_describe_bind {action : Action} {next : String → Run ω Unit}
    (h : ¬ action.IsDescribable → P (.failed .numberUnwritable none))
    (hnext : action.IsDescribable → ∀ shown, (next shown).Takes rules P) :
    (ofExcept action.describe? >>= next).Takes rules P := by
  by_cases hdescribable : action.IsDescribable
  · have hshown : action.describe? = .ok action.describe := if_pos hdescribable
    rw [hshown]
    exact Takes.bind (.pure _) (hnext hdescribable)
  · have hshown : action.describe? = .error .numberUnwritable := if_neg hdescribable
    rw [hshown]
    exact takes_fail_bind (h hdescribable)

/-- What breaks inside fails in the name of the action. -/
theorem takes_execute {place : Place} {action : Action} {work : Run ω Unit}
    (hlets : LetsOut team rules action inner outer)
    (hwork : action.IsDescribable → work.Takes rules inner) :
    (execute place action work).Takes rules (Executes rules inner action) := by
  unfold execute
  refine takes_describe_bind (fun h => .inr ⟨action, .same, h, rfl⟩) fun hdescribable _ => ?_
  refine (hwork hdescribable).outcome_bind (fun _ => .pure ()) fun f hf => ?_
  -- What passes on has been raised by the work; anything else becomes a fault of the action.
  by_cases hpass : (f.isAction || f.isCancelled) = true
  · exact .inl ⟨if_pos hpass, .inl ⟨hf, by simpa using hpass⟩⟩
  · refine .inr ⟨by simp_all, ?_⟩
    dsimp only
    rw [if_neg hpass]
    refine takes_currentAction_bind fun now hbecomes => ?_
    refine takes_describe_bind (fun h => .inr ⟨now, hbecomes, h, rfl⟩) fun hnow _ => ?_
    exact takes_fail (.inl ⟨hlets.fault now _ hbecomes hnow, .inl rfl⟩)

/-- A failure that is an action's fault is put up with if the action tolerates errors, and passes on
with the action to blame if it does not. Any other failure passes on as it is. -/
theorem takes_settleAction {place : Place} {action : Action}
    (hlets : LetsOut team rules action inner outer)
    (enabled : action.header.enabled = true) {work : Run ω Unit}
    (hwork : work.Takes rules (Executes rules inner action)) :
    (work.outcome >>= settleAction place action).Takes rules outer := by
  refine fun m => .of_within fun hm => ?_
  have hcourse := (hwork m).course hm
  have hfails := (hwork m).fails hm
  have heq := on_outcome_bind work (settleAction place action) m
  rcases hr : work.on m with ⟨r, m'⟩
  rw [hr] at hcourse hfails heq
  cases r with
  | ok a => exact .after heq hcourse (Takes.pure () m')
  | error f =>
    have hexecutes := hfails f rfl
    by_cases hfault : f.isAction = true
    · obtain ⟨now, hbecomes, hnow⟩ := on_currentAction (hcourse.within hm) place action
      have htolerable := Failure.isCancelled_of_isAction hfault
      have hinner : inner f := by
        rcases hexecutes with ⟨hinner, -⟩ | ⟨_, -, -, rfl⟩
        · exact hinner
        · cases hfault
      simp only [settleAction, if_pos hfault] at heq
      rw [on_bind_ok hnow] at heq
      -- It is shown before anything is decided, so one that cannot be shown fails for itself.
      cases hlabel : now.label? with
      | error cause =>
        obtain ⟨hundescribable, rfl⟩ := of_label?_error hlabel
        simp only [hlabel, ofExcept] at heq
        exact .after heq (.tolerated htolerable hcourse)
          (takes_fail_bind (hlets.undescribed now hbecomes hundescribable) m')
      | ok label =>
        simp only [hlabel, ofExcept, pure_bind] at heq
        -- The action may have changed while it ran, but not in what it tolerates.
        by_cases htolerant : action.header.continueOnError = true
        · simp only [hbecomes.continueOnError, if_pos htolerant] at heq
          exact .after heq (.tolerated htolerable hcourse) (takes_log _ _ m')
        · simp only [hbecomes.continueOnError, if_neg htolerant] at heq
          rw [on_bind_ok (on_log _ _ m'), on_throw] at heq
          have hintolerant : action.header.continueOnError = false := by simpa using htolerant
          exact .of_error heq (.told _ (.noted [_] (.blamed now hcourse)))
            (hlets.blamed f now label hbecomes hlabel enabled hintolerant hinner hfault)
    · simp only [settleAction, if_neg hfault] at heq
      refine .of_error heq hcourse ?_
      rcases hexecutes with ⟨hinner, hcancelled⟩ | ⟨now, hbecomes, hundescribable, rfl⟩
      · exact hlets.cancelled f hinner (hcancelled.resolve_left hfault)
      · exact hlets.undescribed now hbecomes hundescribable

/-- An action starts in a run that has not been stopped: the last thing before it is a check, or a
pause, which ends with one. Its work is begun only if it can be described. -/
theorem takes_dispatch {place : Place} {action : Action} {work : Run ω Unit}
    (hlets : LetsOut team rules action inner outer)
    (hwork : action.IsDescribable → work.Takes rules inner) :
    (dispatch team place action work).Takes rules outer := by
  refine fun m => (takes_check hlets.stopped m).bind fun _ m₁ hcheck => ?_
  -- Both ways to the start end with a check: the one here, or the last one of the delay.
  by_cases enabled : action.header.enabled = true
  · have hstart : ∀ m' : Machine ω, m'.isStopped = false →
        (mark (.dispatched place) >>= fun _ =>
          (execute place action work).outcome >>= settleAction place action).TakesFrom rules
          outer m' := fun m' awake =>
      .after (on_bind_ok (on_mark _ m')) (.started m' _ rfl awake)
        (takes_settleAction hlets enabled (takes_execute hlets hwork) _)
    rw [if_pos enabled]
    by_cases hdelay : 0 < action.header.delayBefore
    · rw [if_pos hdelay]
      have hsleep : (team.sleep action.header.delayBefore).Takes rules outer :=
        takes_sleep hlets.stopped hlets.pause hlets.delay
      exact (hsleep m₁).bind fun _ m₂ hslept => hstart m₂ (awake_of_sleep hslept)
    · rw [if_neg hdelay]
      exact hstart m₁ (awake_of_check hcheck)
  · rw [if_neg enabled]
    exact Takes.pure () m₁

variable {lookedUp : Failure → Prop}

/-- An action lets out what escapes from it. -/
theorem letsOut_escapes (action : Action) :
    LetsOut team rules action (action.Raises team rules lookedUp)
      (action.Escapes team rules lookedUp) where
  stopped := .stopped action
  pause slice world _ := .pause action slice world
  delay _ := .delay
  undescribed _ := .undescribed
  cancelled _ := .cancelled
  fault _ fault hbecomes _ := .fault hbecomes fault
  blamed _ _ _ hbecomes _ enabled intolerant := .blamed hbecomes enabled intolerant

/-! ## The tree -/

mutual

/-- **An action takes a course**, and fails as what escapes from it. -/
theorem takes_runAction (hallow : rules.Allow team) {lookup : Option (Lookup ω)}
    (hlookup : ∀ inner ∈ lookup, inner.Takes rules lookedUp) (place : Place) (action : Action) :
    (runAction team lookup place action).Takes rules (action.Escapes team rules lookedUp) := by
  match action with
  | .task header task =>
    refine fun m => .of_within fun hm => ?_
    obtain ⟨header', task', hbecomes, hcurrent⟩ := on_current hm place header task
    -- What runs is what the task in the tree has become, and so is what escapes from it.
    have hwork : (runTask team lookup place header' task').Takes rules
        ((Action.task header' task').Raises team rules lookedUp) :=
      takes_runTask (Action.Raises.admits _) hallow
        (fun inner hinner name values => (hlookup inner hinner name values).mono fun _ => .lookup _)
        place header' task' (Action.Becomes.admits .same)
    have hdispatch : (dispatch team place (.task header' task')
        (runTask team lookup place header' task')).Takes rules
        ((Action.task header task).Escapes team rules lookedUp) :=
      (takes_dispatch (letsOut_escapes _) fun _ => hwork).mono fun _ =>
        Action.Escapes.of_becomes hbecomes
    exact .after (on_bind_ok hcurrent) (.rest m) (hdispatch m)
  | .loop header spec actions =>
    have hbody := takes_runActions hallow hlookup (0 :: place) 0 actions
    refine takes_dispatch (letsOut_escapes _) fun _ =>
      takes_runLoop (Action.Raises.admits _) (hbody.mono ?_)
    exact fun f ⟨child, hchild, hescapes⟩ => .inside hchild hescapes
  | .choice header spec thenActions elseActions =>
    have hthen := takes_runActions hallow hlookup (0 :: place) 0 thenActions
    have helse := takes_runActions hallow hlookup (1 :: place) 0 elseActions
    refine takes_dispatch (letsOut_escapes _) fun _ =>
      takes_runChoice (Action.Raises.admits _) (hthen.mono ?_) (helse.mono ?_) _ _
    · exact fun f ⟨child, hchild, hescapes⟩ =>
        .inside (List.mem_append_left elseActions hchild) hescapes
    · exact fun f ⟨child, hchild, hescapes⟩ =>
        .inside (List.mem_append_right thenActions hchild) hescapes

/-- Actions side by side take a course, and fail as what escapes from one of them. -/
theorem takes_runActions (hallow : rules.Allow team) {lookup : Option (Lookup ω)}
    (hlookup : ∀ inner ∈ lookup, inner.Takes rules lookedUp) (place : Place) (index : Nat)
    (actions : List Action) :
    (runActions team lookup place index actions).Takes rules
      (fun f => ∃ action ∈ actions, action.Escapes team rules lookedUp f) := by
  match actions with
  | [] => exact .pure ()
  | action :: actions =>
    have hfirst := (takes_runAction hallow hlookup (index :: place) action).mono
      (Q := fun f => ∃ a ∈ action :: actions, a.Escapes team rules lookedUp f)
      fun f hf => ⟨action, List.mem_cons_self, hf⟩
    have hrest := (takes_runActions hallow hlookup place (index + 1) actions).mono
      (Q := fun f => ∃ a ∈ action :: actions, a.Escapes team rules lookedUp f)
      fun f ⟨later, hlater, hf⟩ => ⟨later, List.mem_cons_of_mem action hlater, hf⟩
    exact hfirst.bind fun _ => hrest

end

end DesktopMacro.Run
