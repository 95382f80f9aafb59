/-
What a run comes to, part by part.

A run is a function of a machine, and every statement about runs is about that function at a
machine. The equations here say what it is for the parts that runs are put together from. After them
no proof has to look at how runs are made.
-/
import DesktopMacro.Run.Sequences

set_option autoImplicit false

namespace DesktopMacro

variable {ω α β : Type}

namespace Run

/-! ## Putting runs together -/

@[simp] theorem on_throw (f : Failure) (m : Machine ω) :
    (throw f : Run ω α).on m = (.error f, m) := rfl

/-- One run after another: the second one starts where the first one ended, unless that failed. -/
theorem on_bind (x : Run ω α) (f : α → Run ω β) (m : Machine ω) :
    (x >>= f).on m =
      match x.on m with
      | (.ok a, m') => (f a).on m'
      | (.error e, m') => (.error e, m') := by
  rcases h : x.on m with ⟨r, m'⟩
  have h' : x m = (r, m') := h
  -- A run is an exception on top of a state, so its bind is two binds, one inside the other.
  show (ExceptT.bind x f) m = _
  cases r with
  | ok a =>
    simp only [ExceptT.bind, ExceptT.mk, bind, StateT.bind, ExceptT.bindCont, h']
    rfl
  | error e =>
    simp only [ExceptT.bind, ExceptT.mk, bind, StateT.bind, ExceptT.bindCont, h']
    rfl

theorem on_bind_ok {x : Run ω α} {f : α → Run ω β} {m m' : Machine ω} {a : α}
    (h : x.on m = (.ok a, m')) : (x >>= f).on m = (f a).on m' := by
  rw [on_bind, h]

theorem on_bind_error {x : Run ω α} {f : α → Run ω β} {m m' : Machine ω} {e : Failure}
    (h : x.on m = (.error e, m')) : (x >>= f).on m = (.error e, m') := by
  rw [on_bind, h]

/-- A run that ends well came through both of its parts. -/
theorem of_bind_ok {x : Run ω α} {f : α → Run ω β} {m m' : Machine ω} {b : β}
    (h : (x >>= f).on m = (.ok b, m')) :
    ∃ a m₁, x.on m = (.ok a, m₁) ∧ (f a).on m₁ = (.ok b, m') := by
  rw [on_bind] at h
  rcases hx : x.on m with ⟨r, m₁⟩
  rw [hx] at h
  cases r with
  | ok a => exact ⟨a, m₁, rfl, h⟩
  | error e => cases h

/-- A run that fails does so in one of its parts. -/
theorem of_bind_error {x : Run ω α} {f : α → Run ω β} {m m' : Machine ω} {e : Failure}
    (h : (x >>= f).on m = (.error e, m')) :
    x.on m = (.error e, m') ∨ ∃ a m₁, x.on m = (.ok a, m₁) ∧ (f a).on m₁ = (.error e, m') := by
  rw [on_bind] at h
  rcases hx : x.on m with ⟨r, m₁⟩
  rw [hx] at h
  cases r with
  | ok a => exact .inr ⟨a, m₁, rfl, h⟩
  | error e' =>
    cases h
    exact .inl rfl

/-- Reading the machine changes nothing. -/
theorem on_get_bind (f : Machine ω → Run ω α) (m : Machine ω) : (get >>= f).on m = (f m).on m :=
  rfl

/-- Changing the machine never fails. -/
theorem on_modify_bind (step : Machine ω → Machine ω) (f : Unit → Run ω α) (m : Machine ω) :
    (modify step >>= f).on m = (f ()).on (step m) := rfl

/-- Whoever asks for the outcome of a run goes on where the run ended. -/
theorem on_outcome_bind (x : Run ω α) (f : Except Failure α → Run ω β) (m : Machine ω) :
    (x.outcome >>= f).on m = (f (x.on m).1).on (x.on m).2 := rfl

/-! ## The smallest runs -/

theorem on_mark (step : Step) (m : Machine ω) :
    (mark step : Run ω Unit).on m = (.ok (), m.mark step) := rfl

theorem on_fail (f : Failure) (m : Machine ω) :
    (fail f : Run ω α).on m = (.error f, m.mark (.failed f)) := rfl

theorem on_log (text : String) (level : Level) (m : Machine ω) :
    (log text level : Run ω Unit).on m
      = (.ok (), (m.see [.logged ⟨level, text⟩]).tell text) := rfl

/-- A check stops a run that has been cancelled, and does nothing else. -/
theorem on_check (m : Machine ω) :
    (check : Run ω Unit).on m
      = if m.isStopped then (.error .stopped, m.mark .noticed) else (.ok (), m) := by
  unfold check
  rw [on_get_bind]
  split <;> rfl

theorem on_check_stopped {m : Machine ω} (stopped : m.isStopped = true) :
    (check : Run ω Unit).on m = (.error .stopped, m.mark .noticed) := by
  rw [on_check, if_pos stopped]

theorem on_check_awake {m : Machine ω} (awake : m.isStopped = false) :
    (check : Run ω Unit).on m = (.ok (), m) := by
  rw [on_check, if_neg (by simp [awake])]

/-- A collaborator changes the machine in the same way whether it fails or not. -/
theorem on_perform (effect : Effect ω α) (m : Machine ω) :
    (perform effect).on m =
      match (effect m.world).result with
      | .ok a => (.ok a, m.after (effect m.world))
      | .error f => (.error f, (m.after (effect m.world)).mark (.failed f)) := by
  unfold perform
  rw [on_get_bind, on_modify_bind]
  cases (effect m.world).result <;> rfl

theorem on_ask (request : Request) (effect : Effect ω α) (m : Machine ω) :
    (ask request effect).on m = (perform effect).on (m.mark (.asked request)) := rfl

theorem on_inFrame (frame : Frame) (body : Run ω Unit) (m : Machine ω) :
    (inFrame frame body).on m
      = ((body.on (pushFrame m frame)).1, popFrame (body.on (pushFrame m frame)).2) := by
  unfold inFrame
  rw [on_modify_bind, on_outcome_bind]
  cases (body.on (pushFrame m frame)).1 <;> rfl

end Run

/-! ## What actions have become -/

/-- A frame has an action as the sequence came with it, or as an edit has left it. -/
theorem Frame.current_cases (frame : Frame) (place : Place) (header : Action.Header)
    (task : Action.Task) :
    frame.current place header task = (header, task) ∨
      ∃ edit : Edit, frame.current place header task
        = (edit.header header, edit.change.apply task) := by
  unfold Frame.current
  split
  · next edit _ => exact .inr ⟨edit, rfl⟩
  · exact .inl rfl

namespace Run

/-- Whatever is running, an action is found as some frame has it. -/
theorem exists_on_current (place : Place) (header : Action.Header) (task : Action.Task)
    (m : Machine ω) : ∃ frame : Frame,
      (current place header task).on m = (.ok (frame.current place header task), m) := by
  unfold current
  rw [on_get_bind]
  cases m.frames with
  | nil => exact ⟨⟨"", none, .empty, []⟩, rfl⟩
  | cons frame _ => exact ⟨frame, rfl⟩

/-- A task that no change is one of is found as it was, and runs if and when it did. -/
theorem on_current_of_unchanged (place : Place) (header : Action.Header) {task : Action.Task}
    (h : ∀ change : Change, change.apply task = task) (m : Machine ω) :
    ∃ now : Action.Header, (current place header task).on m = (.ok (now, task), m)
      ∧ now.enabled = header.enabled ∧ now.delayBefore = header.delayBefore := by
  obtain ⟨frame, hcurrent⟩ := exists_on_current place header task m
  rw [hcurrent]
  obtain hsame | ⟨edit, hedited⟩ := frame.current_cases place header task
  · exact ⟨header, by rw [hsame], rfl, rfl⟩
  · exact ⟨edit.header header, by rw [hedited, h], rfl, rfl⟩

end Run
end DesktopMacro
