/-
The input that a run makes.

The journal shows what input a run has asked for. A run makes some input if, wherever nothing has
stopped it, it ends well, asks for this input and no other, and has not been stopped then. Runs in a
row make the input of all of them, in the same order.

With collaborators that never fail or cancel, messages, checks and pauses make no input, and an
action makes that of its work. A pause has to have a length in doubles for that, and an action has
to be one that can be described.
-/
import DesktopMacro.Proofs.Run.Evaluation
import DesktopMacro.Proofs.Run.Journal

set_option autoImplicit false

namespace DesktopMacro

variable {ω α β : Type}

/-! ## Input in a journal -/

/-- The input that a step asks for. -/
def Step.input? : Step → Option Input
  | asked (.input input) => some input
  | _ => none

namespace Machine

/-- **The input that a run has asked for**, in its order. -/
def inputs (m : Machine ω) : List Input := m.journal.reverse.filterMap (·.step.input?)

theorem inputs_mark (m : Machine ω) (step : Step) :
    (m.mark step).inputs = m.inputs ++ step.input?.toList := by
  change (_ :: m.journal).reverse.filterMap _ = _
  rw [List.reverse_cons, List.filterMap_append]
  cases h : step.input? <;> simp [inputs, h]

end Machine

/-! ## Making input -/

namespace Run

/-- **A run makes input** where nothing has stopped it: it ends well, asks for this input alone, and
has not been stopped then. -/
def Makes (run : Run ω α) (made : List Input) : Prop :=
  ∀ m : Machine ω, m.isStopped = false →
    ∃ a m', run.on m = (.ok a, m') ∧ m'.isStopped = false ∧ m'.inputs = m.inputs ++ made

variable {x : Run ω α} {made more : List Input}

theorem Makes.pure (a : α) : Makes (pure a : Run ω α) [] := fun m hm =>
  ⟨a, m, rfl, hm, (List.append_nil _).symm⟩

/-- **Runs in a row make the input of both.** -/
theorem Makes.bind {f : α → Run ω β} (h : x.Makes made) (hf : ∀ a, (f a).Makes more) :
    (x >>= f).Makes (made ++ more) := by
  intro m hm
  obtain ⟨a, m₁, hx, hm₁, hmade⟩ := h m hm
  obtain ⟨b, m₂, hb, hm₂, hmore⟩ := hf a m₁ hm₁
  exact ⟨b, m₂, (on_bind_ok hx).trans hb, hm₂, by rw [hmore, hmade, List.append_assoc]⟩

/-- A run that makes no input, and another one after it. -/
theorem Makes.after {f : α → Run ω β} (h : x.Makes []) (hf : ∀ a, (f a).Makes made) :
    (x >>= f).Makes made := h.bind hf

/-- **A run makes only one input** from a machine that nothing has stopped. -/
theorem Makes.unique (h : x.Makes made) (h' : x.Makes more) {m : Machine ω}
    (hm : m.isStopped = false) : made = more := by
  obtain ⟨a, m₁, hx, -, hmade⟩ := h m hm
  obtain ⟨b, m₂, hx', -, hmore⟩ := h' m hm
  rw [hx] at hx'
  cases hx'
  exact List.append_cancel_left (hmade.symm.trans hmore)

theorem makes_check : Makes (check : Run ω Unit) [] := by
  intro m hm
  refine ⟨(), m, ?_, hm, (List.append_nil _).symm⟩
  rw [on_check, hm]
  rfl

theorem makes_log (text : String) (level : Level) : Makes (log text level : Run ω Unit) [] := by
  intro m hm
  refine ⟨(), _, on_log text level m, ?_, ?_⟩
  · rw [Machine.isStopped_tell]
    exact hm
  · rw [List.append_nil]
    unfold Machine.inputs
    rw [Machine.journal_tell]
    rfl

theorem makes_mark (step : Step) : Makes (mark step : Run ω Unit) step.input?.toList := fun m hm =>
  ⟨(), m.mark step, on_mark step m, hm, m.inputs_mark step⟩

theorem makes_ofExcept {result : Except Cause α} {a : α} (h : result = .ok a) :
    Makes (ofExcept result : Run ω α) [] := by
  subst h
  exact .pure a

/-- Whoever asks for the outcome of a run that makes input does nothing after a good one. -/
theorem Makes.settled {f : Except Failure α → Run ω β} (h : x.Makes made)
    (hf : ∀ a, (f (.ok a)).Makes []) : (x.outcome >>= f).Makes made := by
  intro m hm
  obtain ⟨a, m₁, hx, hm₁, hmade⟩ := h m hm
  obtain ⟨b, m₂, hb, hm₂, hmore⟩ := hf a m₁ hm₁
  refine ⟨b, m₂, ?_, hm₂, by rw [hmore, hmade, List.append_nil]⟩
  rw [on_outcome_bind, hx]
  exact hb

end Run

/-! ## Collaborators -/

/-- An effect that ends well and does not cancel the run. -/
def Effect.IsCalm (effect : Effect ω Unit) : Prop :=
  ∀ world, (effect world).result = .ok () ∧ (effect world).cancels = false

/-- **Collaborators that can be relied on**: input and pauses never fail and never cancel the
run. -/
structure Collaborators.IsReliable (team : Collaborators ω) : Prop where
  input : ∀ input, (team.input input).IsCalm
  pause : ∀ slice, (team.pause slice).IsCalm

/-- A desktop where everything works and nothing shows. -/
def withCalmDevices : Collaborators Unit where
  input _ := .done ()
  readClipboard := .done none
  writeClipboard _ := .done ()
  evaluate := none
  readFile path _ _ := .error (.file .missing path none)
  pause _ := .done ()
  freshDigits := ""

theorem isReliable_withCalmDevices : withCalmDevices.IsReliable :=
  ⟨fun _ _ => ⟨rfl, rfl⟩, fun _ _ => ⟨rfl, rfl⟩⟩

namespace Run

/-- Asking for something that goes well makes the input that is asked for. -/
theorem makes_ask {request : Request} {effect : Effect ω Unit} (h : effect.IsCalm) :
    (ask request effect).Makes (Step.asked request).input?.toList := by
  intro m hm
  obtain ⟨hresult, hcancels⟩ := h m.world
  refine ⟨(), (m.mark (.asked request)).after (effect m.world), ?_, ?_, m.inputs_mark _⟩
  · have hworld : (m.mark (.asked request)).world = m.world := rfl
    rw [on_ask, on_perform, hworld, hresult]
  · change ((m.cancelled || (effect m.world).cancels) && !m.detached) = false
    rw [hcancels, Bool.or_false]
    exact hm

variable {team : Collaborators ω}

theorem makes_makeInput (h : team.IsReliable) (input : Input) :
    (team.makeInput input).Makes [input] :=
  makes_ask (h.input input)

/-- Counting down makes no input. -/
theorem makes_countDown (h : team.IsReliable) (remaining : Binary64) :
    (Pause.countDown team.passSlice remaining).Makes [] := by
  fun_induction Pause.countDown team.passSlice remaining with
  | case1 remaining left ih =>
    have hslice : (team.passSlice (Pause.slice remaining)).Makes [] := makes_ask (h.pause _)
    refine hslice.after fun _ => makes_check.after fun _ => ?_
    split
    · next progress => exact ih progress
    · exact .pure ()
  | case2 remaining left => exact .pure ()

/-- **A pause with a length in doubles makes no input.** -/
theorem makes_sleep (h : team.IsReliable) {milliseconds : Int} {length : Binary64}
    (hlength : Pause.seconds milliseconds = .ok length) : (team.sleep milliseconds).Makes [] :=
  makes_check.after fun _ => (makes_ofExcept hlength).after fun _ =>
    (makes_countDown h _).after fun _ => makes_check

/-! ## Actions -/

/-- The work of an action that can be described makes the input of the action. -/
theorem makes_execute {place : Place} {action : Action} {work : Run ω Unit} {made : List Input}
    (hdescribable : action.IsDescribable) (hwork : work.Makes made) :
    (execute place action work).Makes made := by
  have hdescribed : action.describe? = .ok action.describe := if_pos hdescribable
  exact (makes_ofExcept hdescribed).after fun _ => hwork.settled fun _ => .pure ()

/-- **An enabled action makes the input of its work**, after its delay. -/
theorem makes_dispatch (h : team.IsReliable) {place : Place} {action : Action} {work : Run ω Unit}
    {made : List Input} (henabled : action.header.enabled = true)
    (hdelay : ∃ length, Pause.seconds action.header.delayBefore = .ok length)
    (hdescribable : action.IsDescribable) (hwork : work.Makes made) :
    (dispatch team place action work).Makes made := by
  obtain ⟨length, hlength⟩ := hdelay
  have hrest : (do
      mark (.dispatched place)
      settleAction place action (← outcome (execute place action work))).Makes made :=
    (makes_mark (.dispatched place)).after fun _ =>
      (makes_execute hdescribable hwork).settled fun _ => .pure ()
  unfold dispatch
  refine makes_check.after fun _ => ?_
  rw [if_pos henabled]
  dsimp only
  split
  · exact (makes_sleep h hlength).after fun _ => hrest
  · exact hrest

end Run

/-! ## Devices -/

/-- The input that a keyboard task asks for. -/
def KeyboardTask.inputs (task : KeyboardTask) : List Input :=
  match task.mode with
  | .typeText =>
    if task.useClipboard then [.pressCombination ["LeftCtrl", "V"]]
    else if task.text.isEmpty then [] else [.typeText task.text task.charDelay]
  | .keyPress => task.keys.map .pressKey
  | _ => if task.keys.isEmpty then [] else [.pressCombination task.keys]

/-- The input that a task asks for, if it is one of the mouse or the keyboard. -/
def Action.Task.inputs? : Action.Task → Option (List Input)
  | .mouse spec => some [Run.mouseInput spec]
  | .keyboard spec => some spec.inputs
  | _ => none

namespace Run

variable {team : Collaborators ω}

/-- Keys are pressed one by one. -/
theorem makes_pressAfterGap (h : team.IsReliable) (keys : List String) :
    (pressAfterGap team keys).Makes (keys.map .pressKey) := by
  induction keys with
  | nil => exact .pure ()
  | cons key keys ih =>
    have hgap : Pause.seconds keyGap = .ok (Binary64.div (.ofInt 30) (.ofInt 1000)) := rfl
    exact (makes_sleep h hgap).after fun _ => (makes_makeInput h (.pressKey key)).bind fun _ => ih

theorem makes_pressKeys (h : team.IsReliable) (keys : List String) :
    (pressKeys team keys).Makes (keys.map .pressKey) := by
  cases keys with
  | nil => exact .pure ()
  | cons key keys =>
    exact (makes_makeInput h (.pressKey key)).bind fun _ => makes_pressAfterGap h keys

theorem makes_runMouse (h : team.IsReliable) (task : MouseTask) :
    (runMouse team task).Makes [mouseInput task] :=
  (makes_log _ _).after fun _ => makes_makeInput h _

theorem makes_runKeyboard (h : team.IsReliable) (task : KeyboardTask) :
    (runKeyboard team task).Makes task.inputs := by
  refine (makes_log _ _).after fun _ => ?_
  obtain ⟨mode, text, keys, charDelay, useClipboard⟩ := task
  unfold KeyboardTask.inputs
  cases mode with
  | typeText =>
    dsimp only
    split
    · exact makes_makeInput h _
    split
    · exact makes_log _ _
    · exact makes_makeInput h _
  | keyPress =>
    dsimp only
    split
    · next hempty =>
      rw [List.isEmpty_iff.1 hempty]
      exact makes_log _ _
    · exact makes_pressKeys h keys
  | combination =>
    dsimp only
    split
    · exact makes_log _ _
    · exact makes_makeInput h _
  | hotkey =>
    dsimp only
    split
    · exact makes_log _ _
    · exact makes_makeInput h _

/-! ## Actions in a row -/

/-- Nothing that a run keeps of an action concerns a task of the mouse or the keyboard. -/
theorem apply_of_inputs {task : Action.Task} {made : List Input}
    (hinputs : task.inputs? = some made) (change : Change) : change.apply task = task := by
  cases task <;> cases change <;> cases hinputs <;> rfl

/-- **An enabled action on the mouse or the keyboard makes the input of its task.** -/
theorem makes_runAction (h : team.IsReliable) (lookup : Option (Lookup ω)) (place : Place)
    {header : Action.Header} {task : Action.Task} {made : List Input}
    (hinputs : task.inputs? = some made) (henabled : header.enabled = true)
    (hdelay : ∃ length, Pause.seconds header.delayBefore = .ok length)
    (hnumbers : ∀ n ∈ task.shownNumbers, Integer.IsWritable n) :
    (runAction team lookup place (.task header task)).Makes made := by
  intro m hm
  obtain ⟨now, hcurrent, hnow, hbefore⟩ :=
    on_current_of_unchanged place header (apply_of_inputs hinputs) m
  have hwork : (runTask team lookup place now task).Makes made := by
    cases task with
    | mouse task =>
      cases hinputs
      exact makes_runMouse h task
    | keyboard task =>
      cases hinputs
      exact makes_runKeyboard h task
    | _ => cases hinputs
  have hdispatch : (dispatch team place (.task now task)
      (runTask team lookup place now task)).Makes made :=
    makes_dispatch h (hnow.trans henabled) (hbefore ▸ hdelay) hnumbers hwork
  obtain ⟨a, m', hrun, hm', hmade⟩ := hdispatch m hm
  exact ⟨a, m', (on_bind_ok hcurrent).trans hrun, hm', hmade⟩

/-- **Actions in a row make the input of each of them.** -/
theorem makes_runActions {lookup : Option (Lookup ω)} {inputs : Action → List Input}
    {actions : List Action}
    (h : ∀ action ∈ actions, ∀ place, (runAction team lookup place action).Makes (inputs action))
    (place : Place) (index : Nat) :
    (runActions team lookup place index actions).Makes (actions.flatMap inputs) := by
  induction actions generalizing index with
  | nil => exact .pure ()
  | cons action actions ih =>
    rw [List.flatMap_cons]
    exact (h action List.mem_cons_self _).bind fun _ =>
      ih (fun other hother => h other (List.mem_cons_of_mem _ hother)) _

end Run
end DesktopMacro
