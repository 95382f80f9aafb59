/-
The course of a run: everything that a run can do, said once.

A `Course` leads from a machine to the machine at the end, and says how it ended: well, or with a
failure that is still on its way out. Its constructors are the smallest things that runs are made
of, each with the condition under which it happens: nothing starts in a run that has been stopped,
only a check stops one, no cancellation is tolerated, and while a failure passes on nothing happens
but logging and the leaving of frames. What is true of every course is proved by induction on
courses, without looking at any action. That the runs of the library take courses is proved once, in
`DesktopMacro.Proofs.Run.Tasks` and behind it.

Two of the conditions are left open in `Rules`, because they depend on who runs: which sequence may
come on top of a machine, and which points a browser script can report.
-/
import DesktopMacro.Proofs.Run.Evaluation

set_option autoImplicit false

namespace DesktopMacro

variable {ω α β : Type}

/-- **A machine offers a name**: at this number its library has a sequence of the name, and none of
the name is running. -/
def Machine.Offers (m : Machine ω) (slot : Nat) (name : String) : Prop :=
  m.library.sequences[slot]?.map Sequence.name = some name ∧ Run.isRunning m name = false

/-- What a course is held to. -/
structure Rules (ω : Type) where
  /-- May a sequence, with its number if the library has it, come on top of a machine? -/
  entry : Machine ω → Option Nat → Sequence → Prop
  /-- Can a script report a point? -/
  point : Int → Int → Prop

namespace Rules

/-- Nothing is held to anything. -/
def free (ω : Type) : Rules ω := ⟨fun _ _ _ => True, fun _ _ => True⟩

/-- A change that is no point, or a point that can be reported. -/
def Permits (rules : Rules ω) (edit : Edit) : Prop :=
  ∀ x y, edit.change = .point x y → rules.point x y

/-- A sequence that a machine offers may come on top of it. -/
def Opens (rules : Rules ω) : Prop :=
  ∀ (m : Machine ω) (slot : Nat) (sequence : Sequence), m.Offers slot sequence.name →
    rules.entry m (some slot) sequence

end Rules

/-- **A machine within the rules**: what was changed of the innermost sequence is permitted. -/
def Machine.Within (rules : Rules ω) (m : Machine ω) : Prop :=
  ∀ frame frames, m.frames = frame :: frames → ∀ edit ∈ frame.edits, rules.Permits edit

/-- **The course of a run** from a machine to another, with the failure that it ends in, if any. -/
inductive Course (rules : Rules ω) : Machine ω → Option Failure → Machine ω → Prop where
  /-- Nothing happens. -/
  | rest (m : Machine ω) : Course rules m none m
  /-- What went well is followed by something else. -/
  | next {m m₁ m₂ : Machine ω} {e : Option Failure} :
    Course rules m none m₁ → Course rules m₁ e m₂ → Course rules m e m₂
  /-- Something is noted, also on the way out. -/
  | noted {m m₁ : Machine ω} {e : Option Failure} (notes : List Note) :
    Course rules m e m₁ → Course rules m e (m₁.see (notes.map .logged))
  /-- A message is told, also on the way out. -/
  | told {m m₁ : Machine ω} {e : Option Failure} (text : String) :
    Course rules m e m₁ → Course rules m e (m₁.tell text)
  /-- The innermost sequence gets other variables. -/
  | stored (m : Machine ω) (store : Store) :
    Course rules m none ((m.mark .stored).putStore store)
  /-- A sequence that the machine offers gets variables. -/
  | given (m : Machine ω) (slot : Nat) (values : List (String × String)) (name : String)
    (offered : m.Offers slot name) :
    Course rules m none (Run.withVariables (m.mark .stored) slot values)
  /-- An action of the innermost sequence changes. -/
  | edited (m : Machine ω) (edit : Edit) (permitted : rules.Permits edit) :
    Course rules m none (m.putEdit edit)
  /-- A collaborator is asked and does something; a slice of a pause is not asked for in a run that
  has been stopped. -/
  | asked {γ : Type} (m : Machine ω) (request : Request) (reply : Reply ω γ)
    (awake : (Step.asked request).isStart = true → m.isStopped = false) :
    Course rules m none ((m.mark (.asked request)).after reply)
  /-- Something starts, in a run that has not been stopped. -/
  | started (m : Machine ω) (step : Step) (isStart : step.isStart = true)
    (awake : m.isStopped = false) : Course rules m none (m.mark step)
  /-- A failure comes up. -/
  | failed (m : Machine ω) (f : Failure) : Course rules m (some f) (m.mark (.failed f))
  /-- A collaborator's failure is put up with on the spot, even one that looks like a
  cancellation. -/
  | mended (m : Machine ω) (f : Failure) : Course rules m none (m.mark (.failed f))
  /-- A check finds the run cancelled. -/
  | noticed (m : Machine ω) (stopped : m.isStopped = true) :
    Course rules m (some .stopped) (m.mark .noticed)
  /-- A failure that is no cancellation is put up with. -/
  | tolerated {m m₁ : Machine ω} {f : Failure} (tolerable : f.isCancelled = false) :
    Course rules m (some f) m₁ → Course rules m none m₁
  /-- A failure on its way out is blamed on an action. -/
  | blamed {m m₁ : Machine ω} {f : Failure} (action : Action) :
    Course rules m (some f) m₁ → Course rules m (some (f.blame action)) m₁
  /-- A sequence runs in a frame of its own. -/
  | framed {m m₁ : Machine ω} {e : Option Failure} (sequence : Sequence) (slot : Option Nat)
    (allowed : rules.entry m slot sequence) :
    Course rules (Run.pushFrame m (.enter sequence slot)) e m₁ →
    Course rules m e (Run.popFrame m₁)
  /-- A sequence that nothing else is running under cannot be cancelled and is not listened to. -/
  | detached {m m₁ : Machine ω} {e : Option Failure} (atRest : m.frames = []) :
    Course rules { m with detached := true } e m₁ →
    Course rules m e { m₁ with detached := m.detached }

/-! ## What is below the innermost sequence -/

namespace Machine

theorem frames_tell (m : Machine ω) (text : String) : (m.tell text).frames = m.frames := by
  unfold tell
  split <;> rfl

theorem library_tell (m : Machine ω) (text : String) :
    (m.tell text).library = m.library := by
  unfold tell
  split <;> rfl

theorem tail_modifyFrame (m : Machine ω) (change : Frame → Frame) :
    (m.modifyFrame change).frames.tail = m.frames.tail := by
  unfold modifyFrame
  split
  · rfl
  · next hframes => rw [hframes]; rfl

end Machine

theorem Run.frames_popFrame (m : Machine ω) : (popFrame m).frames = m.frames.tail := by
  unfold popFrame
  split
  · next hframes => rw [hframes]; rfl
  · next hframes => rw [hframes]; rfl

/-- A course leaves alone what is below the innermost sequence. -/
theorem Course.tail {rules : Rules ω} {m m' : Machine ω} {e : Option Failure}
    (hc : Course rules m e m') : m'.frames.tail = m.frames.tail := by
  induction hc with
  | next _ _ ih₁ ih₂ => exact ih₂.trans ih₁
  | told text _ ih => rw [Machine.frames_tell, ih]
  | stored m s => exact Machine.tail_modifyFrame (m.mark .stored) _
  | edited m edit => exact m.tail_modifyFrame _
  -- What was put on top is what the pop takes off, because the inside left the rest alone.
  | framed sequence slot _ _ ih =>
    rw [Run.frames_popFrame, ih]
    rfl
  | noted _ _ ih => exact ih
  | tolerated _ _ ih => exact ih
  | blamed _ _ ih => exact ih
  | detached _ _ ih => exact ih
  | _ => rfl

/-- What was put on top is taken away again, and nothing else. -/
theorem Course.frames_popFrame {rules : Rules ω} {m m₁ : Machine ω} {frame : Frame}
    {e : Option Failure} (hc : Course rules (Run.pushFrame m frame) e m₁) :
    (Run.popFrame m₁).frames = m.frames := by
  rw [Run.frames_popFrame, hc.tail]
  rfl

/-! ## The variables of the innermost sequence -/

namespace Machine

@[simp] theorem store_mark (m : Machine ω) (step : Step) : (m.mark step).store = m.store := rfl

@[simp] theorem store_see (m : Machine ω) (events : List Event) :
    (m.see events).store = m.store := rfl

@[simp] theorem store_tell (m : Machine ω) (text : String) : (m.tell text).store = m.store := by
  unfold Machine.store
  rw [frames_tell]

theorem store_congr {m m' : Machine ω} (h : m'.frames = m.frames) : m'.store = m.store := by
  unfold Machine.store
  rw [h]

/-- A running sequence has the variables that it was given. -/
theorem store_putStore {m : Machine ω} (hframes : m.frames ≠ []) (store : Store) :
    (m.putStore store).store = store := by
  unfold putStore modifyFrame Machine.store
  cases hm : m.frames with
  | nil => exact absurd hm hframes
  | cons frame frames => rfl

end Machine

/-! ## Machines within the rules -/

theorem Machine.Within.of_frames {rules : Rules ω} {m m' : Machine ω} (h : m.Within rules)
    (hframes : m'.frames = m.frames) : m'.Within rules :=
  fun frame frames hm => h frame frames (hframes ▸ hm)

theorem Machine.within_pushFrame {rules : Rules ω} (m : Machine ω) {frame : Frame}
    (hframe : frame.edits = []) : (Run.pushFrame m frame).Within rules := by
  intro top frames htop edit hedit
  cases htop
  rw [hframe] at hedit
  cases hedit

theorem Machine.Within.modifyFrame {rules : Rules ω} {m : Machine ω} (h : m.Within rules)
    {change : Frame → Frame}
    (hchange : ∀ frame, ∀ edit ∈ (change frame).edits, edit ∈ frame.edits ∨ rules.Permits edit) :
    (m.modifyFrame change).Within rules := by
  unfold Machine.modifyFrame
  split
  · exact h
  · next top frames hframes =>
    intro frame below hframe edit hedit
    cases hframe
    exact (hchange top edit hedit).elim (h top frames hframes edit) id

/-- **A course keeps a machine within the rules.** Only an edit could lead out of them. -/
theorem Course.within {rules : Rules ω} {m m' : Machine ω} {e : Option Failure}
    (hc : Course rules m e m') (h : m.Within rules) : m'.Within rules := by
  induction hc with
  | next _ _ ih₁ ih₂ => exact ih₂ (ih₁ h)
  | told text _ ih => exact (ih h).of_frames (Machine.frames_tell _ text)
  | stored m s => exact Machine.Within.modifyFrame (m := m.mark .stored) h fun _ _ => .inl
  | edited m edit permitted =>
    refine h.modifyFrame fun frame old hold => ?_
    -- The newest edit is the one that is permitted here; the others were there before.
    rcases List.mem_cons.1 hold with rfl | hbefore
    · exact .inr permitted
    · exact .inl hbefore
  | framed sequence slot _ hinside => exact h.of_frames hinside.frames_popFrame
  | noted _ _ ih => exact ih h
  | tolerated _ _ ih => exact ih h
  | blamed _ _ ih => exact ih h
  | detached _ _ ih => exact ih h
  | _ => exact h

/-! ## Runs that take a course -/

/-- How a run ended. -/
def Run.ending : Except Failure α → Option Failure
  | .ok _ => none
  | .error f => some f

namespace Run

/-- A run, started on a machine within the rules, takes a course, and fails only as `P` says. -/
structure TakesFrom (rules : Rules ω) (P : Failure → Prop) (run : Run ω α) (m : Machine ω) :
    Prop where
  -- Both parts may use that nothing was changed before that is not permitted.
  course : m.Within rules → Course rules m (ending (run.on m).1) (run.on m).2
  fails : m.Within rules → ∀ f, (run.on m).1 = .error f → P f

/-- **A run that takes a course** wherever it starts, and fails only as `P` says. -/
def Takes (rules : Rules ω) (P : Failure → Prop) (run : Run ω α) : Prop :=
  ∀ m, run.TakesFrom rules P m

variable {rules : Rules ω} {P Q : Failure → Prop}

/-! ### Putting runs together -/

/-- What has to be shown may be shown for machines within the rules. -/
theorem TakesFrom.of_within {x : Run ω α} {m : Machine ω}
    (h : m.Within rules → x.TakesFrom rules P m) : x.TakesFrom rules P m where
  course hm := (h hm).course hm
  fails hm := (h hm).fails hm

theorem TakesFrom.of_ok {x : Run ω α} {m m' : Machine ω} {a : α} (h : x.on m = (.ok a, m'))
    (hc : Course rules m none m') : x.TakesFrom rules P m where
  course _ := by rw [h]; exact hc
  fails _ f hf := by rw [h] at hf; cases hf

theorem TakesFrom.of_error {x : Run ω α} {m m' : Machine ω} {f : Failure}
    (h : x.on m = (.error f, m')) (hc : Course rules m (some f) m') (hP : P f) :
    x.TakesFrom rules P m where
  course _ := by rw [h]; exact hc
  fails _ g hg := by
    rw [h] at hg
    cases hg
    exact hP

/-- A run that goes on as another one does after a course. -/
theorem TakesFrom.after {x y : Run ω α} {m m' : Machine ω} (heq : x.on m = y.on m')
    (hc : Course rules m none m') (hy : y.TakesFrom rules P m') : x.TakesFrom rules P m where
  course hm := by rw [heq]; exact .next hc (hy.course (hc.within hm))
  fails hm := by rw [heq]; exact hy.fails (hc.within hm)

theorem TakesFrom.bind {x : Run ω α} {f : α → Run ω β} {m : Machine ω}
    (hx : x.TakesFrom rules P m)
    (hf : ∀ a m', x.on m = (.ok a, m') → (f a).TakesFrom rules P m') :
    (x >>= f).TakesFrom rules P m := by
  refine .of_within fun hm => ?_
  rcases h : x.on m with ⟨r, m'⟩
  have hcourse := hx.course hm
  rw [h] at hcourse
  cases r with
  | ok a => exact .after (on_bind_ok h) hcourse (hf a m' h)
  | error e => exact .of_error (on_bind_error h) hcourse (hx.fails hm e (by rw [h]))

theorem Takes.bind {x : Run ω α} {f : α → Run ω β} (hx : x.Takes rules P)
    (hf : ∀ a, (f a).Takes rules P) : (x >>= f).Takes rules P :=
  fun m => (hx m).bind fun a m' _ => hf a m'

theorem Takes.pure (a : α) : (pure a : Run ω α).Takes rules P :=
  fun m => .of_ok rfl (.rest m)

theorem Takes.get_bind {f : Machine ω → Run ω α} (hf : ∀ m, (f m).TakesFrom rules P m) :
    (get >>= f).Takes rules P :=
  fun m => .after (on_get_bind f m) (.rest m) (hf m)

theorem Takes.modify {step : Machine ω → Machine ω} (h : ∀ m, Course rules m none (step m)) :
    (modify step : Run ω Unit).Takes rules P :=
  fun m => .of_ok rfl (h m)

theorem Takes.ite {c : Prop} [Decidable c] {x y : Run ω α} (hx : c → x.Takes rules P)
    (hy : ¬ c → y.Takes rules P) : (if c then x else y).Takes rules P := by
  split
  · next h => exact hx h
  · next h => exact hy h

theorem Takes.mono {x : Run ω α} (h : x.Takes rules P) (hPQ : ∀ f, P f → Q f) :
    x.Takes rules Q :=
  fun m => ⟨(h m).course, fun hm f hf => hPQ f ((h m).fails hm f hf)⟩

/-- Asking for the outcome: what was put up with is followed by something else, and a failure may
also pass on as it is. -/
theorem TakesFrom.outcome_bind {x : Run ω α} {h : Except Failure α → Run ω β} {m : Machine ω}
    (hx : x.TakesFrom rules Q m) (hok : ∀ a, (h (.ok a)).Takes rules P)
    (herr : ∀ f, Q f → h (.error f) = throw f ∧ P f ∨
      f.isCancelled = false ∧ (h (.error f)).Takes rules P) :
    (x.outcome >>= h).TakesFrom rules P m := by
  refine .of_within fun hm => ?_
  have hcourse := hx.course hm
  have hfails := hx.fails hm
  have heq := on_outcome_bind x h m
  rcases hr : x.on m with ⟨r, m'⟩
  rw [hr] at hcourse hfails heq
  cases r with
  | ok a => exact .after heq hcourse (hok a m')
  | error f =>
    -- Thrown again, the failure is still on its way out; put up with, it was no cancellation.
    rcases herr f (hfails f rfl) with ⟨hthrow, hP⟩ | ⟨htolerable, hnext⟩
    · rw [hthrow] at heq
      exact .of_error heq hcourse hP
    · exact .after heq (.tolerated htolerable hcourse) (hnext m')

theorem Takes.outcome_bind {x : Run ω α} {h : Except Failure α → Run ω β}
    (hx : x.Takes rules Q) (hok : ∀ a, (h (.ok a)).Takes rules P)
    (herr : ∀ f, Q f → h (.error f) = throw f ∧ P f ∨
      f.isCancelled = false ∧ (h (.error f)).Takes rules P) :
    (x.outcome >>= h).Takes rules P :=
  fun m => (hx m).outcome_bind hok herr

/-! ### The smallest runs -/

theorem takes_fail {f : Failure} (h : P f) : (fail f : Run ω α).Takes rules P :=
  fun m => .of_error (on_fail f m) (.failed m f) h

/-- What stands behind a failure is never reached. -/
theorem takes_fail_bind {f : Failure} (h : P f) {next : α → Run ω β} :
    (fail f >>= next).Takes rules P :=
  fun m => .of_error (on_bind_error (on_fail f m)) (.failed m f) h

/-- What is refused fails, and what is not refused goes on. -/
theorem Takes.unless {c : Prop} [Decidable c] {f : Failure} {next : α → Run ω β} {a : α}
    (h : c → P f) (hnext : (next a).Takes rules P) :
    (if c then fail f >>= next else next a).Takes rules P :=
  .ite (fun hc => takes_fail_bind (h hc)) fun _ => hnext

theorem takes_ofExcept {r : Except Cause α} (h : ∀ cause, P (.failed cause none)) :
    (ofExcept r : Run ω α).Takes rules P := by
  cases r with
  | ok a => exact .pure a
  | error cause => exact takes_fail (h cause)

theorem takes_note (notes : List Note) : (note notes : Run ω Unit).Takes rules P :=
  .modify fun m => .noted notes (.rest m)

theorem takes_log (text : String) (level : Level) :
    (log text level : Run ω Unit).Takes rules P :=
  fun m => .of_ok (on_log text level m) (.told text (.noted [⟨level, text⟩] (.rest m)))

theorem takes_check (h : P .stopped) : (check : Run ω Unit).Takes rules P := by
  intro m
  have heq := on_check m
  by_cases hs : m.isStopped = true
  · rw [if_pos hs] at heq
    exact .of_error heq (.noticed m hs) h
  · rw [if_neg hs] at heq
    exact .of_ok heq (.rest m)

/-- A run that a check has let through has not been stopped. -/
theorem awake_of_check {m m' : Machine ω} (h : (check : Run ω Unit).on m = (.ok (), m')) :
    m'.isStopped = false := by
  rw [on_check] at h
  by_cases hs : m.isStopped = true
  · rw [if_pos hs] at h
    cases h
  · rw [if_neg hs] at h
    cases h
    simpa using hs

/-- Something starts right after a check. -/
theorem takes_check_mark {step : Step} (hstep : step.isStart = true) (h : P .stopped)
    {next : Unit → Run ω α} (hnext : ∀ u, (next u).Takes rules P) :
    (check >>= fun _ => mark step >>= next).Takes rules P := by
  intro m
  -- Between the check and the mark nothing happens, so what the check saw still holds.
  refine (takes_check h m).bind fun u m' hm' => ?_
  refine TakesFrom.bind ?_ fun u' m'' _ => hnext u' m''
  exact .of_ok (on_mark step m') (.started m' step hstep (awake_of_check hm'))

theorem takesFrom_ask {request : Request} {effect : Effect ω α} {m : Machine ω}
    (awake : (Step.asked request).isStart = true → m.isStopped = false)
    (h : ∀ f, (effect m.world).result = .error f → P f) :
    (ask request effect).TakesFrom rules P m := by
  have hasked : Course rules m none ((m.mark (.asked request)).after (effect m.world)) :=
    .asked m request (effect m.world) awake
  have heq := on_ask request effect m
  rw [on_perform] at heq
  -- The mark comes before the collaborator does anything, and changes nothing in the world.
  rcases hr : (effect m.world).result with f | a
  · have hworld : (effect (m.mark (.asked request)).world).result = .error f := hr
    simp only [hworld] at heq
    exact .of_error heq (.next hasked (.failed _ f)) (h f hr)
  · have hworld : (effect (m.mark (.asked request)).world).result = .ok a := hr
    simp only [hworld] at heq
    exact .of_ok heq hasked

/-- Asking for the outcome of a request: whatever it failed with can be put up with. -/
theorem takes_ask_outcome_bind {request : Request} {effect : Effect ω α}
    {h : Except Failure α → Run ω β} (hrequest : (Step.asked request).isStart = false)
    (hok : ∀ a, (h (.ok a)).Takes rules P)
    (herr : ∀ w f, (effect w).result = .error f → h (.error f) = throw f ∧ P f ∨
      (h (.error f)).Takes rules P) :
    ((ask request effect).outcome >>= h).Takes rules P := by
  intro m
  have awake : (Step.asked request).isStart = true → m.isStopped = false := fun hstart => by
    rw [hrequest] at hstart
    cases hstart
  have hasked : Course rules m none ((m.mark (.asked request)).after (effect m.world)) :=
    .asked m request (effect m.world) awake
  have heq := on_outcome_bind (ask request effect) h m
  rw [on_ask, on_perform] at heq
  rcases hr : (effect m.world).result with f | a
  · have hworld : (effect (m.mark (.asked request)).world).result = .error f := hr
    simp only [hworld] at heq
    rcases herr m.world f hr with ⟨hthrow, hP⟩ | hnext
    · rw [hthrow] at heq
      exact .of_error heq (.next hasked (.failed _ f)) hP
    · exact .after heq (.next hasked (.mended _ f)) (hnext _)
  · have hworld : (effect (m.mark (.asked request)).world).result = .ok a := hr
    simp only [hworld] at heq
    exact .after heq hasked (hok a _)

/-- A request that starts nothing can be made at any time. -/
theorem takes_ask {request : Request} {effect : Effect ω α}
    (hrequest : (Step.asked request).isStart = false)
    (h : ∀ w f, (effect w).result = .error f → P f) : (ask request effect).Takes rules P :=
  fun m => takesFrom_ask (fun hstart => by rw [hrequest] at hstart; cases hstart) (h m.world)

theorem takes_store : (store : Run ω Store).Takes rules P := fun m => .of_ok rfl (.rest m)

theorem takes_setStore (s : Store) : (setStore s : Run ω Unit).Takes rules P :=
  .modify fun m => .stored m s

end Run
end DesktopMacro
