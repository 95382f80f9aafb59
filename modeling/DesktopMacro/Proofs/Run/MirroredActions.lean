/-
Actions that mirror one another.

A disabled action only looks whether the run has been cancelled. So where the run of some actions is
never cancelled, it is mirrored by the run of those that pruning leaves of them: task by task, and
up through loops and choices. What can be told apart are the texts that count actions, and the
action that is blamed, which is the one that pruning has left.
-/
import DesktopMacro.Proofs.Run.Mirroring

set_option autoImplicit false

namespace DesktopMacro
namespace Run

variable {ω : Type} {team : Collaborators ω} {root : List Action} {p q : Place}
  {kept : Action}

/-! ## Tasks that change themselves -/

section

variable (hmoved : Action.Moved root p q kept)
include hmoved

/-- What a task changes of itself at its old place, it changes at the new one. -/
theorem mirrored_editTask (header : Action.Header) (task : Action.Task) (change : Change) :
    Mirrored root Eq Eq (editTask p header task change : Run ω Unit)
      (editTask q header task change) := by
  have hedit : ∀ name description : String, Mirrored root Eq Eq
      (modify (·.putEdit ⟨p, change, name, description⟩) : Run ω Unit)
      (modify (·.putEdit ⟨q, change, name, description⟩)) := fun name description =>
    .of_change (fun m => by unfold Machine.putEdit Machine.modifyFrame; split <;> rfl)
      fun _ _ hm => hm.putEdit hmoved change name description
  exact (hedit _ _).andThen fun _ => ((habit_mirrored root).ofExcept _).andThen fun _ => hedit _ _

theorem mirrored_runVariable (hfiles : team.ReadsNoLog) (header : Action.Header)
    (task : VariableTask) :
    Mirrored root Eq Eq (runVariable team p header task) (runVariable team q header task) := by
  have h := taskHabit_mirrored hfiles root
  have hnamed : Mirrored root Eq Eq (nameVariable team p header task)
      (nameVariable team q header task) := by
    unfold nameVariable
    refine .ite ?_ (h.pure _)
    exact (mirrored_editTask hmoved _ _ _).andThen fun _ => (h.log _ _).andThen fun _ => h.pure _
  refine hnamed.andThen fun named => (h.operate named).andThen fun _ => ?_
  exact h.bind h.store fun _ => h.bind (h.ofExcept _) fun _ => h.log _ _

theorem mirrored_runBrowser (hfiles : team.ReadsNoLog) (header : Action.Header)
    (task : BrowserTask) :
    Mirrored root Eq Eq (runBrowser team p header task) (runBrowser team q header task) := by
  have h := taskHabit_mirrored hfiles root
  have hkeep : ∀ point, Mirrored root Eq Eq (keepPoint p header task point : Run ω Unit)
      (keepPoint q header task point) := fun _ => mirrored_editTask hmoved _ _ _
  unfold runBrowser
  refine .ite (h.bind (h.log _ _) fun _ => h.ask _ _) ?_
  split
  · exact h.log _ _
  · next evaluate _ =>
    refine .ite ?_ ?_
    · unfold findAndClick
      refine .ite ((h.fail _).andThen fun _ => ?_) ?_
      all_goals
        refine (h.ask _ _).andThen fun result => (h.ofExcept _).andThen fun point => ?_
        cases point with
        | none => exact h.fail _
        | some point => exact (hkeep point).andThen fun _ => h.ask _ _
    · unfold runScript
      refine (h.ask _ _).andThen fun result => (h.ofExcept _).andThen fun point => ?_
      cases point with
      | some point => exact hkeep point
      | none =>
        have hshow : Mirrored root Eq Eq (if task.operation = .getCoordinates then
            fail (.atAction (.noCoordinates result) (.task header (.browser task)))
            else log s!"Script result: {result.quoted}" : Run ω Unit)
            (if task.operation = .getCoordinates then
            fail (.atAction (.noCoordinates result) (.task header (.browser task)))
            else log s!"Script result: {result.quoted}") := .ite (h.fail _) (h.log _ _)
        exact .ite ((h.fail _).andThen fun _ => hshow) hshow

/-- **A task is mirrored by the same task at its new place.** -/
theorem mirrored_runTask (hfiles : team.ReadsNoLog) {lookup : Option (Lookup ω)}
    (hlookup : ∀ inner ∈ lookup, ∀ name texts,
      Mirrored root Eq Eq (inner name texts) (inner name texts))
    (header : Action.Header) (task : Action.Task) :
    Mirrored root Eq Eq (runTask team lookup p header task)
      (runTask team lookup q header task) := by
  have h := taskHabit_mirrored hfiles root
  match task with
  | .mouse task => exact h.runMouse task
  | .keyboard task => exact h.runKeyboard task
  | .wait task => exact h.runWait task
  | .variable task => exact mirrored_runVariable hmoved hfiles header task
  | .clipboard task => exact h.runClipboard _ task
  | .payload task => exact h.runPayloadOver _ task hlookup
  | .browser task => exact mirrored_runBrowser hmoved hfiles header task
  | .file task => exact h.runFile _ task

/-! ## Dispatching -/

theorem mirrored_current (header : Action.Header) (task : Action.Task) :
    Mirrored root Failure.Recounted Eq (current p header task : Run ω _)
      (current q header task) := by
  refine .get_bind (fun m hm => ?_) fun m m' hm => ?_
  · rw [on_get_bind]
    split <;> exact hm
  · obtain ⟨frame, frames, frame', frames', hframes, hframes', hmirrors⟩ := hm.top
    rw [hframes, hframes']
    exact .pure (hmirrors.current hmoved header task).symm

/-- What an action has become, pruned, is what the pruned action has become. -/
theorem mirrored_currentAction (action : Action) :
    Mirrored root Failure.Recounted (fun now now' => now' = now.pruned)
      (currentAction p action : Run ω Action) (currentAction q action.pruned) := by
  cases action with
  | task header task =>
    exact (mirrored_current hmoved header task).andThen fun _ => .pure rfl
  | loop | choice => exact .pure rfl

/-- What breaks in the work of an action fails in the name of the action that pruning has left. -/
theorem mirrored_execute (action : Action) {work work' : Run ω Unit}
    (hwork : Mirrored root Failure.Recounted Eq work work') :
    Mirrored root Failure.Recounted Eq (execute p action work)
      (execute q action.pruned work') := by
  refine (mirrored_ofExcept .same action.matching_describe?).bind (fun shown => ⟨shown, .same _⟩)
    fun _ _ _ => ?_
  refine hwork.outcome.bind (fun r => ⟨r, .refl .same (fun _ => rfl) r⟩) fun r r' hr => ?_
  cases hr with
  | ok => exact .pure rfl
  | @error f f' hfailure =>
    dsimp only
    rw [hfailure.isAction, hfailure.isCancelled]
    by_cases hpasses : (f.isAction || f.isCancelled) = true
    · rw [if_pos hpasses, if_pos hpasses]
      exact .throw hfailure
    · rw [if_neg hpasses, if_neg hpasses]
      have hfault : f.isAction = false := by
        cases h : f.isAction <;> simp_all
      cases hfailure.eq_of_not_isAction hfault
      refine (mirrored_currentAction hmoved action).bind (fun now => ⟨now.pruned, rfl⟩)
        fun now _ hnow => ?_
      subst hnow
      refine (mirrored_ofExcept .same now.matching_describe?).bind (fun shown => ⟨shown, .same _⟩)
        fun shown shown' hshown => ?_
      exact mirrored_fail (.broken now ((hshown.append (.same _)).append (.same _)))

/-- **The blame goes to the action that pruning has left**, and is put up with by the same ones. -/
theorem mirrored_settleAction (action : Action) {r r' : Except Failure Unit}
    (hr : Matching Failure.Recounted Eq r r') :
    Mirrored root Failure.Recounted Eq (settleAction p action r : Run ω Unit)
      (settleAction q action.pruned r') := by
  cases hr with
  | ok => exact .pure rfl
  | @error f f' hfailure =>
    unfold settleAction
    dsimp only
    rw [hfailure.isAction]
    by_cases hfault : f.isAction = true
    · rw [if_pos hfault, if_pos hfault]
      refine (mirrored_currentAction hmoved action).bind (fun now => ⟨now.pruned, rfl⟩)
        fun now _ hnow => ?_
      subst hnow
      have hblamed := hfailure.blame hfault now
      refine (mirrored_ofExcept .same now.matching_label?).bind (fun shown => ⟨shown, .same _⟩)
        fun label label' hlabel => ?_
      rw [Action.header_pruned]
      have htext : ∀ before between : String, Text.Recounted
          (before ++ label ++ between ++ (f.blame now).text)
          (before ++ label' ++ between ++ (f'.blame now.pruned).text) := fun before between =>
        (((Text.Recounted.same before).append hlabel).append (.same between)).append hblamed.text
      refine .ite (mirrored_log (htext "Error in '" "' ignored: ") .warning) ?_
      exact (mirrored_log (htext "Error in '" "': ") .error).andThen fun _ => .throw hblamed
    · rw [if_neg hfault, if_neg hfault]
      exact .throw hfailure

theorem mirrored_dispatch (action : Action) {work work' : Run ω Unit}
    (hwork : Mirrored root Failure.Recounted Eq work work') :
    Mirrored root Failure.Recounted Eq (dispatch team p action work)
      (dispatch team q action.pruned work') := by
  unfold dispatch
  rw [Action.header_pruned]
  refine (mirrored_check (.same _)).andThen fun _ => .ite ?_ (.pure rfl)
  have hstart : Mirrored root Failure.Recounted Eq
      (do mark (.dispatched p); settleAction p action (← outcome (execute p action work)))
      (do
        mark (.dispatched q)
        settleAction q action.pruned (← outcome (execute q action.pruned work'))) :=
    (mirrored_mark (.dispatched p) (.dispatched q) rfl).andThen fun _ =>
      (mirrored_execute hmoved action hwork).outcome.bind
        (fun r => ⟨r, .refl .same (fun _ => rfl) r⟩) fun _ _ hr =>
          mirrored_settleAction hmoved action hr
  exact .ite (((habit_mirrored root).sleep _).recounted.andThen fun _ => hstart) hstart

end

/-! ## Loops and choices -/

/-- Rounds are mirrored if the body is. The induction is on the rounds that are left. -/
theorem mirrored_runRounds (hfiles : team.ReadsNoLog) {spec : LoopSpec} {body body' : Run ω Unit}
    (hbody : Mirrored root Failure.Recounted Eq body body') (left round : Nat)
    (items : Option (List String)) :
    Mirrored root Failure.Recounted Eq (runRounds team spec body left round items)
      (runRounds team spec body' left round items) := by
  have h := taskHabit_mirrored hfiles root
  induction left generalizing round items with
  | zero => exact .pure rfl
  | succ left ih =>
    have hrest : Mirrored root Failure.Recounted Eq
        (do
          log s!"Loop iteration {round + 1}/{Integer.toText spec.maxIterations}"
          body
          runRounds team spec body left (round + 1) (items.map List.tail))
        (do
          log s!"Loop iteration {round + 1}/{Integer.toText spec.maxIterations}"
          body'
          runRounds team spec body' left (round + 1) (items.map List.tail)) :=
      (h.log _ _).recounted.andThen fun _ => hbody.andThen fun _ => ih (round + 1) _
    have hround : Mirrored root Failure.Recounted Eq
        (do
          if spec.useCondition then
            if ← evaluate team spec.condition then
              log "Loop condition met, ending loop"
              return
          log s!"Loop iteration {round + 1}/{Integer.toText spec.maxIterations}"
          body
          runRounds team spec body left (round + 1) (items.map List.tail))
        (do
          if spec.useCondition then
            if ← evaluate team spec.condition then
              log "Loop condition met, ending loop"
              return
          log s!"Loop iteration {round + 1}/{Integer.toText spec.maxIterations}"
          body'
          runRounds team spec body' left (round + 1) (items.map List.tail)) := by
      refine .ite ((h.evaluate spec.condition).recounted.andThen fun met => ?_) hrest
      exact .ite ((h.log _ _).recounted.andThen fun _ => .pure rfl) hrest
    match items with
    | none => exact h.check.recounted.andThen fun _ => (h.mark _).recounted.andThen fun _ => hround
    | some [] => exact h.check.recounted.andThen fun _ => .pure rfl
    | some (item :: rest) =>
      exact h.check.recounted.andThen fun _ => (h.mark _).recounted.andThen fun _ =>
        (h.setVariable _ _ _).recounted.andThen fun _ => hround

theorem mirrored_runLoop (hfiles : team.ReadsNoLog) (spec : LoopSpec) {body body' : Run ω Unit}
    (hbody : Mirrored root Failure.Recounted Eq body body') :
    Mirrored root Failure.Recounted Eq (runLoop team spec body) (runLoop team spec body') := by
  have h := taskHabit_mirrored hfiles root
  have hitems : Mirrored root Eq Eq (loopItems spec : Run ω (Option (List String)))
      (loopItems spec) := .ite (h.pure none) (h.bind h.store fun _ => h.pure _)
  exact hitems.recounted.andThen fun items => mirrored_runRounds hfiles hbody _ 0 items

/-- A choice logs how many actions are in the branch, and runs the branch. -/
theorem mirrored_runChoice (spec : ChoiceSpec) (thenActions elseActions : List Action)
    {thenBody thenBody' elseBody elseBody' : Run ω Unit}
    (hthen : Mirrored root Failure.Recounted Eq thenBody thenBody')
    (helse : Mirrored root Failure.Recounted Eq elseBody elseBody') :
    Mirrored root Failure.Recounted Eq
      (runChoice team spec thenActions.length elseActions.length thenBody elseBody)
      (runChoice team spec (Action.prunedAll thenActions).length
        (Action.prunedAll elseActions).length thenBody' elseBody') := by
  have h := habit_mirrored (ω := ω) root
  have htext : ∀ (before : String) (actions : List Action), Text.Recounted
      (before ++ toString actions.length ++ " actions)")
      (before ++ toString (Action.prunedAll actions).length ++ " actions)") := fun before actions =>
    ((Text.Recounted.same before).append (.count actions)).append (.same _)
  unfold runChoice
  refine (h.evaluate spec.condition).recounted.andThen fun holds => .ite ?_ (.ite ?_ (.pure rfl))
  · exact (mirrored_log (htext _ thenActions) .info).andThen fun _ => hthen
  · exact (mirrored_log (htext _ elseActions) .info).andThen fun _ => helse

/-! ## The tree -/

/-- **A disabled action only looks whether the run has been cancelled.** -/
theorem on_runAction_disabled {lookup : Option (Lookup ω)} {place : Place} {action : Action}
    (disabled : action.header.enabled = false) (m : Machine ω) :
    (runAction team lookup place action).on m = (check : Run ω Unit).on m := by
  have hdispatch : ∀ (now : Action) (work : Run ω Unit), now.header.enabled = false →
      (dispatch team place now work).on m = (check : Run ω Unit).on m := fun now work hnow => by
    unfold dispatch
    rw [if_neg (by simp [hnow]), on_bind]
    rcases (check : Run ω Unit).on m with ⟨⟨⟩ | ⟨⟩, m'⟩ <;> rfl
  cases action with
  | task header task =>
    obtain ⟨frame, hcurrent⟩ := exists_on_current place header task m
    have henabled := frame.enabled_current place header task
    exact (on_bind_ok hcurrent).trans (hdispatch _ _ (henabled.trans disabled))
  | loop | choice => exact hdispatch _ _ disabled

/-- What only looks whether the run has been cancelled can be left out. -/
theorem Mirrored.skip {β : Type} {F : Failure → Failure → Prop} {x : Run ω Unit} {y z : Run ω β}
    (hx : ∀ m, x.on m = (check : Run ω Unit).on m) (h : Mirrored root F Eq y z) :
    Mirrored root F Eq (x >>= fun _ => y) z := by
  refine ⟨fun m hm => ?_, fun {m m'} hm hawake => ?_⟩
  · rw [on_bind, hx, on_check]
    by_cases stopped : m.isStopped = true
    · rw [if_pos stopped]
      exact hm
    · rw [if_neg stopped]
      exact h.stays m hm
  · rw [on_bind, hx, on_check] at hawake ⊢
    by_cases stopped : m.isStopped = true
    · rw [if_pos stopped] at hawake
      unfold Machine.isStopped at stopped
      rw [show m.cancelled = false from hawake] at stopped
      cases stopped
    · rw [if_neg stopped] at hawake ⊢
      exact h.meets hm hawake

section

variable {lookup : Option (Lookup ω)}

mutual

/-- **An action is mirrored by what pruning leaves of it.** -/
theorem mirrored_runAction (hfiles : team.ReadsNoLog)
    (hlookup : ∀ inner ∈ lookup, ∀ name texts,
      Mirrored root Eq Eq (inner name texts) (inner name texts))
    {p q : Place} (action : Action) (hmoved : Action.Moved root p q action) :
    Mirrored root Failure.Recounted Eq (runAction team lookup p action)
      (runAction team lookup q action.pruned) := by
  match action with
  | .task header task =>
    refine (mirrored_current hmoved header task).andThen fun now => ?_
    exact mirrored_dispatch hmoved (.task now.1 now.2)
      (mirrored_runTask hmoved hfiles hlookup now.1 now.2).recounted
  | .loop header spec actions =>
    exact mirrored_dispatch hmoved (.loop header spec actions)
      (mirrored_runLoop hfiles spec (mirrored_runActions hfiles hlookup actions (.inLoop hmoved)))
  | .choice header spec thenActions elseActions =>
    exact mirrored_dispatch hmoved (.choice header spec thenActions elseActions)
      (mirrored_runChoice spec thenActions elseActions
        (mirrored_runActions hfiles hlookup thenActions (.inThen hmoved))
        (mirrored_runActions hfiles hlookup elseActions (.inElse hmoved)))

/-- Actions side by side are mirrored by those that pruning leaves of them. -/
theorem mirrored_runActions (hfiles : team.ReadsNoLog)
    (hlookup : ∀ inner ∈ lookup, ∀ name texts,
      Mirrored root Eq Eq (inner name texts) (inner name texts))
    {place place' : Place} {index index' : Nat} (actions : List Action)
    (hmoved : Action.AllMoved root place place' index index' actions) :
    Mirrored root Failure.Recounted Eq (runActions team lookup place index actions)
      (runActions team lookup place' index' (Action.prunedAll actions)) := by
  match actions with
  | [] => exact .pure rfl
  | action :: actions =>
    cases enabled : action.header.enabled with
    | true =>
      rw [Action.prunedAll_enabled enabled]
      exact (mirrored_runAction hfiles hlookup action (hmoved.head enabled)).andThen fun _ =>
        mirrored_runActions hfiles hlookup actions (hmoved.tail enabled)
    | false =>
      rw [Action.prunedAll_disabled enabled]
      exact .skip (on_runAction_disabled enabled)
        (mirrored_runActions hfiles hlookup actions (hmoved.tail_disabled enabled))

end

end
end Run
end DesktopMacro
