/-
Runs that cannot tell what was logged.

What a run keeps in its journal, tells and logs is for others: nothing in it asks for any of that
again. So from two machines that are the same outwardly a run comes to the same, and it leads to
machines that are the same outwardly. That is a habit in the sense of
`DesktopMacro.Proofs.Run.Habits`, and the lookup of other sequences has it, too.

Only one thing could give the log away: a file that is read may be the one that the log goes to.
-/
import DesktopMacro.Proofs.Run.Habits
import DesktopMacro.Proofs.Run.Journal

set_option autoImplicit false

namespace DesktopMacro

variable {ω α β : Type}

/-! ## Changes that show outwardly -/

namespace Machine

/-- **A change goes by what shows outwardly**: outwardly, it makes the same of a machine as of the
machine without its log. -/
def IsOutward (change : Machine ω → Machine ω) : Prop :=
  ∀ m, (change m).outward = (change m.outward).outward

theorem IsOutward.congr {change : Machine ω → Machine ω} (h : IsOutward change) {m m' : Machine ω}
    (hsame : m.outward = m'.outward) : (change m).outward = (change m').outward := by
  rw [h m, h m', hsame]

theorem isOutward_mark (step : Step) : IsOutward (ω := ω) (·.mark step) := fun m => by
  cases h : step.isRequest <;> simp [outward, mark, h, isStopped, callStack]

theorem isOutward_after (reply : Reply ω α) : IsOutward (ω := ω) (·.after reply) := fun m => by
  simp [outward, after, see, List.filter_append]

theorem isOutward_modifyFrame (change : Frame → Frame) :
    IsOutward (ω := ω) (·.modifyFrame change) := fun m => by
  cases hframes : m.frames <;> simp [outward, modifyFrame, hframes]

theorem isOutward_pushFrame (frame : Frame) : IsOutward (ω := ω) (Run.pushFrame · frame) :=
  fun m => isOutward_mark .entered { m with frames := frame :: m.frames }

theorem isOutward_popFrame : IsOutward (ω := ω) Run.popFrame := fun m => by
  cases hframes : m.frames with
  | nil => simp [Run.popFrame, outward, hframes]
  | cons frame frames =>
    have hmark := isOutward_mark .left
      { m with frames, library := Run.settle m.library frame }
    simpa [Run.popFrame, outward, hframes] using hmark

end Machine

/-! ## Coming to the same -/

namespace Run

/-- **Two runs come to the same** on two machines: they end in the same way, and outwardly on the
same machine. -/
structure Meet (x y : Run ω α) (m m' : Machine ω) : Prop where
  result : (x.on m).1 = (y.on m').1
  outward : (x.on m).2.outward = (y.on m').2.outward

/-- **Runs that are alike** come to the same on machines that are the same outwardly. -/
def Alike (x y : Run ω α) : Prop := ∀ m m' : Machine ω, m.outward = m'.outward → Meet x y m m'

/-- **A blind run** cannot tell what was logged: it is like itself. -/
def Blind (x : Run ω α) : Prop := Alike x x

theorem Meet.of_eq {x y : Run ω α} {m m' : Machine ω} (h : x.on m = y.on m') : Meet x y m m' :=
  ⟨congrArg Prod.fst h, congrArg (fun r => r.2.outward) h⟩

theorem Meet.trans {x y z : Run ω α} {m m' m'' : Machine ω} (h : Meet x y m m')
    (h' : Meet y z m' m'') : Meet x z m m'' :=
  ⟨h.result.trans h'.result, h.outward.trans h'.outward⟩

/-- What follows runs that come to the same is only run where they end well. -/
theorem Meet.bind {x y : Run ω α} {f g : α → Run ω β} {m m' : Machine ω} (h : Meet x y m m')
    (hfg : ∀ a, Alike (f a) (g a)) : Meet (x >>= f) (y >>= g) m m' := by
  obtain ⟨hresult, houtward⟩ := h
  rcases hx : x.on m with ⟨r, m₁⟩
  rcases hy : y.on m' with ⟨r', m₁'⟩
  rw [hx, hy] at hresult houtward
  cases hresult
  cases r with
  | ok a =>
    have hnext := hfg a m₁ m₁' houtward
    exact ⟨by rw [on_bind_ok hx, on_bind_ok hy]; exact hnext.result,
      by rw [on_bind_ok hx, on_bind_ok hy]; exact hnext.outward⟩
  | error f =>
    exact ⟨by rw [on_bind_error hx, on_bind_error hy],
      by rw [on_bind_error hx, on_bind_error hy]; exact houtward⟩

theorem Alike.bind {x y : Run ω α} {f g : α → Run ω β} (h : Alike x y)
    (hfg : ∀ a, Alike (f a) (g a)) : Alike (x >>= f) (y >>= g) :=
  fun m m' hsame => (h m m' hsame).bind hfg

/-- A run that does nothing outwardly. -/
def Quiet (x : Run ω Unit) : Prop :=
  ∀ m : Machine ω, ∃ m', x.on m = (.ok (), m') ∧ m'.outward = m.outward

theorem quiet_mark {step : Step} (h : step.isRequest = false) : (mark step : Run ω Unit).Quiet :=
  fun m => ⟨_, rfl, Machine.outward_mark h m⟩

theorem quiet_log (text : String) (level : Level) : (log text level : Run ω Unit).Quiet :=
  fun m => ⟨_, rfl, m.outward_log level text⟩

/-- What does nothing outwardly can be left out. -/
theorem Alike.of_quiet {x : Run ω Unit} {y z : Run ω α} (hx : x.Quiet) (h : Alike y z) :
    Alike (x >>= fun _ => y) z := by
  intro m m' hsame
  obtain ⟨m₁, heq, hquiet⟩ := hx m
  have hnext := h m₁ m' (hquiet.trans hsame)
  exact ⟨by rw [on_bind_ok heq]; exact hnext.result, by rw [on_bind_ok heq]; exact hnext.outward⟩

/-- Changing a machine is blind if the change goes by what shows outwardly. -/
theorem blind_modify {change : Machine ω → Machine ω} (h : Machine.IsOutward change) :
    (modify change : Run ω Unit).Blind :=
  fun _ _ hsame => ⟨rfl, h.congr hsame⟩

/-- Reading a machine is blind if only what shows outwardly is read. -/
theorem blind_get_bind {f : Machine ω → Run ω α} (hread : ∀ m, f m = f m.outward)
    (hf : ∀ m, (f m).Blind) : (get >>= f).Blind := by
  intro m m' hsame
  have hnext := hf m m m' hsame
  have hequal : f m = f m' := by rw [hread m, hread m', hsame]
  exact ⟨hnext.result.trans (by rw [hequal]; rfl), hnext.outward.trans (by rw [hequal]; rfl)⟩

end Run

/-- A lookup that cannot tell what was logged, whatever it is asked for. -/
def Lookup.Blind (lookup : Lookup ω) : Prop := ∀ name values, (lookup name values).Blind

/-! ## Blindness is a habit -/

/-- **What is logged goes to no file that is read.** -/
def Collaborators.ReadsNoLog (team : Collaborators ω) : Prop :=
  ∀ path events world, team.readFile path events world
    = team.readFile path (events.filter fun event => !event.isLogged) world

namespace Run

variable {team : Collaborators ω}

theorem blind_pure (a : α) : (pure a : Run ω α).Blind := fun _ _ hsame => ⟨rfl, hsame⟩

theorem blind_throw (f : Failure) : (throwThe Failure f : Run ω α).Blind :=
  fun _ _ hsame => ⟨rfl, hsame⟩

theorem blind_mark (step : Step) : (mark step : Run ω Unit).Blind :=
  blind_modify (Machine.isOutward_mark step)

theorem blind_perform (effect : Effect ω α) : (perform effect).Blind := by
  refine blind_get_bind (fun m => rfl) fun m => ?_
  refine Alike.bind (blind_modify (Machine.isOutward_after _)) fun _ => ?_
  cases (effect m.world).result with
  | ok a => exact blind_pure a
  | error f => exact Alike.bind (blind_mark _) fun _ => blind_throw f

theorem blind_check : (check : Run ω Unit).Blind := by
  refine blind_get_bind (fun m => rfl) fun m => ?_
  split
  · exact Alike.bind (blind_mark _) fun _ => blind_throw _
  · exact blind_pure ()

theorem blind_current (place : Place) (header : Action.Header) (task : Action.Task) :
    (current place header task : Run ω _).Blind := by
  refine blind_get_bind (fun m => rfl) fun m => ?_
  cases m.frames with
  | nil => exact blind_pure _
  | cons frame frames => exact blind_pure _

/-- **Blindness is a habit.** -/
theorem habit_blind : Habit (fun _ run => Blind (ω := ω) run) where
  pure := blind_pure
  throw := blind_throw
  bind := Alike.bind
  outcome h m m' hsame := ⟨congrArg Except.ok (h m m' hsame).result, (h m m' hsame).outward⟩
  mark := blind_mark
  note notes m m' hsame := ⟨rfl, by
    show (m.see (notes.map .logged)).outward = (m'.see (notes.map .logged)).outward
    rw [Machine.outward_logged, Machine.outward_logged, hsame]⟩
  tell text m m' hsame := ⟨rfl, by
    show (m.tell text).outward = (m'.tell text).outward
    rw [Machine.outward_tell, Machine.outward_tell, hsame]⟩
  check := blind_check
  ask _ effect := Alike.bind (blind_mark _) fun _ => blind_perform effect
  store := blind_get_bind (fun _ => rfl) fun _ => blind_pure _
  current := blind_current

/-- It is one of actions, if what is logged goes to no file that is read. -/
theorem storeHabit_blind (hfiles : team.ReadsNoLog) :
    StoreHabit team (fun _ run => Blind (ω := ω) run) where
  toHabit := habit_blind
  setStore store := blind_modify fun m => by
    exact (Machine.isOutward_modifyFrame _).congr (Machine.isOutward_mark .stored m)
  readText task path := by
    refine blind_get_bind (fun m => ?_) fun _ => blind_pure _
    -- The log is what a file that is read could have got from the run.
    have hread : fileText team task path m = fileText team task path m.outward := by
      unfold fileText
      rw [hfiles path m.events m.world]
      rfl
    exact congrArg pure hread

/-! ## Actions -/

theorem blind_editTask (place : Place) (header : Action.Header) (task : Action.Task)
    (change : Change) : (editTask place header task change : Run ω Unit).Blind := by
  have hedit : ∀ edit : Edit, (modify (·.putEdit edit) : Run ω Unit).Blind := fun _ =>
    blind_modify (Machine.isOutward_modifyFrame _)
  exact Alike.bind (hedit _) fun _ => Alike.bind (habit_blind.ofExcept _) fun _ => hedit _

variable {lookup : Option (Lookup ω)}

theorem blind_runTask (hfiles : team.ReadsNoLog) (hlookup : ∀ inner ∈ lookup, inner.Blind)
    (place : Place) (header : Action.Header) (task : Action.Task) :
    (runAction team lookup place (.task header task)).Blind := by
  have habit := storeHabit_blind hfiles
  refine habit.bind (habit.current place header task) fun now => ?_
  exact habit.dispatch place _ (habit.runTask hlookup
    (fun _ _ _ _ => blind_editTask _ _ _ _) fun _ _ _ _ => blind_editTask _ _ _ _)

/-- **Actions cannot tell what was logged.** -/
theorem blind_runActions (hfiles : team.ReadsNoLog) (hlookup : ∀ inner ∈ lookup, inner.Blind)
    (place : Place) (index : Nat) (actions : List Action) :
    (runActions team lookup place index actions).Blind :=
  -- Wherever a task stands, it is blind, so nothing is asked of its place.
  have hdown : Action.HandsDown fun _ _ => True :=
    ⟨fun _ _ _ _ => trivial, fun _ _ _ _ => trivial, fun _ _ _ _ => trivial⟩
  (storeHabit_blind hfiles).runActions hdown
    (fun place header task _ => blind_runTask hfiles hlookup place header task) actions
    fun _ _ _ => trivial

/-! ## Sequences that are looked up -/

theorem blind_inFrame (frame : Frame) {body : Run ω Unit} (hbody : body.Blind) :
    (inFrame frame body).Blind := by
  have hpop : (modify popFrame : Run ω Unit).Blind := blind_modify Machine.isOutward_popFrame
  refine Alike.bind (blind_modify (Machine.isOutward_pushFrame frame)) fun _ => ?_
  refine habit_blind.outcome_bind hbody fun r => ?_
  match r with
  | .ok () => exact hpop
  | .error f => exact Alike.bind hpop fun _ => blind_throw f

theorem blind_detachedAtRest {body : Run ω Unit} (hbody : body.Blind) :
    (detachedAtRest body).Blind := by
  have hdetach : ∀ detached : Bool,
      (modify (fun machine : Machine ω => { machine with detached }) : Run ω Unit).Blind :=
    fun detached => blind_modify fun m => by simp [Machine.outward]
  refine blind_get_bind (fun _ => rfl) fun m => WorkHabit.ite ?_ hbody
  refine Alike.bind (hdetach true) fun _ => habit_blind.outcome_bind hbody fun r => ?_
  refine Alike.bind (hdetach m.detached) fun _ => ?_
  match r with
  | .ok () => exact blind_pure ()
  | .error f => exact blind_throw f

theorem blind_findIdle (name : String) : (findIdle name : Run ω _).Blind := by
  refine blind_get_bind (fun _ => rfl) fun m => ?_
  split
  · exact Alike.bind (habit_blind.note _) fun _ => blind_pure _
  · split
    · exact blind_pure _
    · exact WorkHabit.ite (Alike.bind (habit_blind.note _) fun _ => blind_pure _) (blind_pure _)

theorem blind_giveVariables (slot : Nat) (values : List (String × String)) :
    (giveVariables slot values : Run ω Unit).Blind := by
  refine WorkHabit.ite (blind_modify fun m => ?_) (blind_pure ())
  simp [Machine.outward, withVariables, Machine.mark, Step.isRequest]

theorem blind_succeeded (name : String) {body : Run ω Unit} (hbody : body.Blind) :
    (succeeded name body).Blind := by
  refine habit_blind.outcome_bind hbody fun r => ?_
  match r with
  | .ok () => exact blind_pure true
  | .error f =>
    exact WorkHabit.ite (Alike.bind (habit_blind.note _) fun _ => blind_pure false) (blind_throw f)

theorem blind_lookupOver (hfiles : team.ReadsNoLog) (hlookup : ∀ inner ∈ lookup, inner.Blind) :
    (lookupOver team lookup).Blind := by
  intro name values
  refine Alike.bind (blind_findIdle name) fun found => ?_
  match found with
  | none => exact blind_pure false
  | some (slot, sequence) =>
    refine Alike.bind (blind_giveVariables slot values) fun _ => ?_
    cases lookup with
    | none => exact blind_pure false
    | some inner =>
      refine blind_succeeded _ (blind_detachedAtRest (blind_inFrame _ ?_))
      exact Alike.bind (habit_blind.log _ _) fun _ => blind_runActions hfiles hlookup [] 0 _

/-- The induction is on the depth down to which a lookup can look up again. -/
theorem blind_libraryLookup (hfiles : team.ReadsNoLog) (depth : Nat) :
    (libraryLookup team depth).Blind := by
  induction depth with
  | zero => exact blind_lookupOver hfiles nofun
  | succ depth ih =>
    refine blind_lookupOver hfiles fun inner hinner => ?_
    cases hinner
    exact ih

/-- **Whatever a run is bound to**, looking a sequence up cannot tell what was logged. -/
theorem blind_binding (hfiles : team.ReadsNoLog) (binding : Binding ω) :
    ∀ inner ∈ binding.lookup team, inner.Blind := by
  intro inner hinner
  cases binding with
  | none => cases hinner
  | library sequences =>
    cases hinner
    exact blind_libraryLookup hfiles _
  | foreign answer =>
    cases hinner
    exact fun name values => habit_blind.ask _ _

end Run
end DesktopMacro
