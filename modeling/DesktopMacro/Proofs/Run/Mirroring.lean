/-
Runs that mirror one another.

Two machines mirror one another if one has what pruning leaves of the library of the other, if its
innermost frame mirrors the other's, and if everything else is the same but for texts that count
actions. A run mirrors another one if, started on machines that mirror one another, both end in
matching ways, again on such machines. That holds of a run and itself wherever no place is looked
at, which makes it a habit of work in the sense of `DesktopMacro.Proofs.Run.Habits`.

All of it is only said of runs that are never cancelled, and that is known at their end: once it is
cancelled, a run stays so.
-/
import DesktopMacro.Proofs.Run.Blindness
import DesktopMacro.Proofs.Run.Directives
import DesktopMacro.Proofs.Run.Recounting

set_option autoImplicit false

namespace DesktopMacro

variable {ω α β γ δ : Type}

/-! ## Machines -/

namespace Machine

/-- **A machine is akin to another one**: it has the pruned library, and whatever was logged and
heard is recounted. The world is the same, the same was asked of the collaborators, and sequences of
the same names are running. -/
structure Akin (m m' : Machine ω) : Prop where
  world : m'.world = m.world
  cancelled : m'.cancelled = m.cancelled
  detached : m'.detached = m.detached
  listened : m'.listened = m.listened
  heard : List.Forall₂ Text.Recounted m.heard m'.heard
  callStack : m'.callStack = m.callStack
  library : m'.library = m.library.pruned
  events : List.Forall₂ Event.Recounted m.events m'.events
  requests : m'.requests = m.requests

/-- **A machine mirrors another one** whose innermost sequence has a tree. -/
structure Mirrors (root : List Action) (m m' : Machine ω) : Prop extends Akin m m' where
  top : ∃ frame frames frame' frames', m.frames = frame :: frames ∧ m'.frames = frame' :: frames' ∧
    frame.Mirrors root frame'

namespace Akin

variable {m m' : Machine ω}

/-- The running sequences have the same names. -/
theorem names (h : m.Akin m') : m'.frames.map Frame.name = m.frames.map Frame.name :=
  List.reverse_injective h.callStack

theorem isStopped (h : m.Akin m') : m'.isStopped = m.isStopped := by
  unfold Machine.isStopped
  rw [h.cancelled, h.detached]

theorem mark (h : m.Akin m') {step step' : Step} (hstep : step'.request? = step.request?) :
    (m.mark step).Akin (m'.mark step') :=
  { h with
    callStack := h.callStack
    requests := by rw [requests_mark, requests_mark, h.requests, hstep] }

theorem see (h : m.Akin m') {seen seen' : List Event}
    (hseen : List.Forall₂ Event.Recounted seen seen') : (m.see seen).Akin (m'.see seen') :=
  { h with
    callStack := h.callStack
    events := List.rel_append (List.rel_reverse hseen) h.events
    requests := h.requests }

theorem tell (h : m.Akin m') {text text' : String} (htext : Text.Recounted text text') :
    (m.tell text).Akin (m'.tell text') := by
  have hheard : (m'.listened && !m'.detached) = (m.listened && !m.detached) := by
    rw [h.listened, h.detached]
  unfold Machine.tell
  rw [hheard]
  split
  · exact { h with
      callStack := h.callStack
      heard := .cons htext h.heard
      requests := h.requests }
  · exact h

/-- A collaborator does the same in the same world. -/
theorem after (h : m.Akin m') (reply : Reply ω α) : (m.after reply).Akin (m'.after reply) :=
  { h.see (Event.recounted_same reply.events) with
    world := rfl
    cancelled := by
      show (m'.cancelled || reply.cancels) = (m.cancelled || reply.cancels)
      rw [h.cancelled] }

/-- Frames may change, as long as the names of the running sequences stay. -/
theorem framed (h : m.Akin m') {frames frames' : List Frame}
    (hnames : frames'.map Frame.name = frames.map Frame.name) :
    { m with frames }.Akin { m' with frames := frames' } :=
  { h with
    callStack := congrArg List.reverse hnames
    requests := h.requests }

/-- Libraries may change in step. -/
theorem settled (h : m.Akin m') {library library' : Library}
    (hlibrary : library' = library.pruned) :
    { m with library }.Akin { m' with library := library' } :=
  { h with
    callStack := h.callStack
    library := hlibrary
    requests := h.requests }

end Akin

namespace Mirrors

variable {root : List Action} {m m' m₁ m₁' : Machine ω}

/-- What leaves the frames alone keeps machines mirrored if it keeps them akin. -/
theorem of_akin (h : m.Mirrors root m') (hakin : m₁.Akin m₁') (hframes : m₁.frames = m.frames)
    (hframes' : m₁'.frames = m'.frames) : m₁.Mirrors root m₁' := by
  obtain ⟨frame, frames, frame', frames', hm, hm', hmirrors⟩ := h.top
  exact ⟨hakin, frame, frames, frame', frames', hframes.trans hm, hframes'.trans hm', hmirrors⟩

theorem mark (h : m.Mirrors root m') {step step' : Step}
    (hstep : step'.request? = step.request?) : (m.mark step).Mirrors root (m'.mark step') :=
  h.of_akin (h.toAkin.mark hstep) rfl rfl

theorem see (h : m.Mirrors root m') {seen seen' : List Event}
    (hseen : List.Forall₂ Event.Recounted seen seen') :
    (m.see seen).Mirrors root (m'.see seen') :=
  h.of_akin (h.toAkin.see hseen) rfl rfl

theorem tell (h : m.Mirrors root m') {text text' : String} (htext : Text.Recounted text text') :
    (m.tell text).Mirrors root (m'.tell text') :=
  h.of_akin (h.toAkin.tell htext) (m.frames_tell text) (m'.frames_tell text')

theorem after (h : m.Mirrors root m') (reply : Reply ω α) :
    (m.after reply).Mirrors root (m'.after reply) :=
  h.of_akin (h.toAkin.after reply) rfl rfl

theorem store (h : m.Mirrors root m') : m'.store = m.store := by
  obtain ⟨frame, frames, frame', frames', hm, hm', hmirrors⟩ := h.top
  unfold Machine.store
  rw [hm, hm']
  exact hmirrors.store

/-- The innermost frames change in step, and keep their names. -/
theorem modifyFrame (h : m.Mirrors root m') {change change' : Frame → Frame}
    (hname : ∀ frame, (change frame).name = frame.name)
    (hname' : ∀ frame, (change' frame).name = frame.name)
    (hchange : ∀ frame frame', frame.Mirrors root frame' →
      (change frame).Mirrors root (change' frame')) :
    (m.modifyFrame change).Mirrors root (m'.modifyFrame change') := by
  obtain ⟨frame, frames, frame', frames', hm, hm', hmirrors⟩ := h.top
  have hnames : (frame' :: frames').map Frame.name = (frame :: frames).map Frame.name := by
    rw [← hm, ← hm']
    exact h.names
  unfold Machine.modifyFrame
  rw [hm, hm']
  refine ⟨h.toAkin.framed ?_, _, _, _, _, rfl, rfl, hchange frame frame' hmirrors⟩
  rw [List.map_cons, List.map_cons, hname, hname']
  exact hnames

theorem putStore (h : m.Mirrors root m') (store : Store) :
    (m.putStore store).Mirrors root (m'.putStore store) :=
  h.modifyFrame (fun _ => rfl) (fun _ => rfl) fun _ _ hmirrors => hmirrors.putStore store

/-- An action is changed at its old place and at its new one. -/
theorem putEdit (h : m.Mirrors root m') {p q : Place} {action : Action}
    (hmoved : Action.Moved root p q action) (change : Change) (name description : String) :
    (m.putEdit ⟨p, change, name, description⟩).Mirrors root
      (m'.putEdit ⟨q, change, name, description⟩) :=
  h.modifyFrame (fun _ => rfl) (fun _ => rfl) fun _ _ hmirrors =>
    hmirrors.putEdit hmoved change name description

end Mirrors
end Machine

/-! ## Runs -/

namespace Run

/-- **A run that is cancelled stays so.** -/
def Stays (run : Run ω α) : Prop := ∀ m, m.cancelled = true → (run.on m).2.cancelled = true

/-- **A run mirrors another one** under a tree: on machines that mirror one another it comes to a
matching result, and to machines that mirror one another, if the run is not cancelled. -/
structure Mirrored (root : List Action) (F : Failure → Failure → Prop) (A : α → β → Prop)
    (x : Run ω α) (y : Run ω β) : Prop where
  stays : x.Stays
  meets : ∀ {m m'}, m.Mirrors root m' → (x.on m).2.cancelled = false →
    Matching F A (x.on m).1 (y.on m').1 ∧ (x.on m).2.Mirrors root (y.on m').2

variable {root : List Action} {F F' : Failure → Failure → Prop}

namespace Mirrored

theorem mono {A A' : α → β → Prop} {x : Run ω α} {y : Run ω β} (h : Mirrored root F A x y)
    (hF : ∀ f f', F f f' → F' f f') (hA : ∀ a b, A a b → A' a b) : Mirrored root F' A' x y where
  stays := h.stays
  meets hm hawake := ⟨(h.meets hm hawake).1.mono hF hA, (h.meets hm hawake).2⟩

/-- What is the same is also recounted. -/
theorem recounted {x y : Run ω α} (h : Mirrored root Eq Eq x y) :
    Mirrored root Failure.Recounted Eq x y :=
  h.mono (fun f _ heq => heq ▸ .same f) fun _ _ => id

theorem pure {A : α → β → Prop} {a : α} {b : β} (h : A a b) :
    Mirrored root F A (Pure.pure a : Run ω α) (Pure.pure b) :=
  ⟨fun _ => id, fun hm _ => ⟨.ok h, hm⟩⟩

theorem throw {A : α → β → Prop} {f f' : Failure} (h : F f f') :
    Mirrored root F A (throwThe Failure f : Run ω α) (throwThe Failure f') :=
  ⟨fun _ => id, fun hm _ => ⟨.error h, hm⟩⟩

/-- **One run after another.** The second part goes on from the result of the first, whatever it is,
so every result has to have one that matches. -/
theorem bind {A : α → β → Prop} {B : γ → δ → Prop} {x : Run ω α} {y : Run ω β} {f : α → Run ω γ}
    {g : β → Run ω δ} (hx : Mirrored root F A x y) (htotal : ∀ a, ∃ b, A a b)
    (hfg : ∀ a b, A a b → Mirrored root F B (f a) (g b)) :
    Mirrored root F B (x >>= f) (y >>= g) := by
  have hstays : ∀ a, (f a).Stays := fun a => by
    obtain ⟨b, hab⟩ := htotal a
    exact (hfg a b hab).stays
  refine ⟨fun m hm => ?_, fun {m m'} hm hawake => ?_⟩
  · have hfirst := hx.stays m hm
    rcases hr : x.on m with ⟨r, m₁⟩
    rw [hr] at hfirst
    cases r with
    | ok a =>
      rw [on_bind_ok hr]
      exact hstays a m₁ hfirst
    | error e =>
      rw [on_bind_error hr]
      exact hfirst
  · have hmeets := hx.meets hm
    rcases hr : x.on m with ⟨r, m₁⟩
    rcases hr' : y.on m' with ⟨r', m₁'⟩
    rw [hr, hr'] at hmeets
    cases r with
    | error e =>
      rw [on_bind_error hr] at hawake ⊢
      obtain ⟨hresult, hm₁⟩ := hmeets hawake
      cases hresult with
      | error h =>
        rw [on_bind_error hr']
        exact ⟨.error h, hm₁⟩
    | ok a =>
      rw [on_bind_ok hr] at hawake ⊢
      -- Had the first part been cancelled, the second would end cancelled.
      have hfirst : m₁.cancelled = false := by
        cases hcancelled : m₁.cancelled with
        | false => rfl
        | true => rw [hstays a m₁ hcancelled] at hawake; cases hawake
      obtain ⟨hresult, hm₁⟩ := hmeets hfirst
      cases hresult with
      | ok h =>
        rw [on_bind_ok hr']
        exact (hfg a _ h).meets hm₁ hawake

/-- One run after another, where the first parts come to the same. -/
theorem andThen {B : γ → δ → Prop} {x y : Run ω α} {f : α → Run ω γ} {g : α → Run ω δ}
    (hx : Mirrored root F Eq x y) (hfg : ∀ a, Mirrored root F B (f a) (g a)) :
    Mirrored root F B (x >>= f) (y >>= g) :=
  hx.bind (fun a => ⟨a, rfl⟩) fun a _ hab => hab ▸ hfg a

theorem outcome {A : α → β → Prop} {x : Run ω α} {y : Run ω β} (h : Mirrored root F A x y) :
    Mirrored root F' (Matching F A) x.outcome y.outcome :=
  ⟨h.stays, fun hm hawake => ⟨.ok (h.meets hm hawake).1, (h.meets hm hawake).2⟩⟩

theorem ite {A : α → β → Prop} {c : Prop} [Decidable c] {x y : Run ω α} {x' y' : Run ω β}
    (hx : Mirrored root F A x x') (hy : Mirrored root F A y y') :
    Mirrored root F A (if c then x else y) (if c then x' else y') := by
  split
  · exact hx
  · exact hy

/-- Machines are changed in step. -/
theorem of_change {change change' : Machine ω → Machine ω}
    (hstays : ∀ m, (change m).cancelled = m.cancelled)
    (hchange : ∀ m m', m.Mirrors root m' → (change m).Mirrors root (change' m')) :
    Mirrored root F Eq (modify change : Run ω Unit) (modify change') :=
  ⟨fun m hm => (hstays m).trans hm, fun hm _ => ⟨.ok rfl, hchange _ _ hm⟩⟩

/-- The machine is looked at, and what goes on from there goes by what is the same. -/
theorem get_bind {A : α → β → Prop} {f : Machine ω → Run ω α} {g : Machine ω → Run ω β}
    (hstays : (get >>= f).Stays)
    (hfg : ∀ m m', m.Mirrors root m' → Mirrored root F A (f m) (g m')) :
    Mirrored root F A (get >>= f) (get >>= g) :=
  ⟨hstays, fun hm hawake => (hfg _ _ hm).meets hm hawake⟩

end Mirrored

/-! ## Steps -/

theorem mirrored_mark (step step' : Step) (h : step'.request? = step.request?) :
    Mirrored root F Eq (mark step : Run ω Unit) (mark step') :=
  .of_change (fun _ => rfl) fun _ _ hm => hm.mark h

/-- What fails is written down, and asks nobody for anything. -/
theorem mirrored_fail {A : α → β → Prop} {f f' : Failure} (h : F f f') :
    Mirrored root F A (fail f : Run ω α) (fail f') :=
  .andThen (mirrored_mark _ _ rfl) fun _ => .throw h

theorem mirrored_note {notes notes' : List Note}
    (h : List.Forall₂ Event.Recounted (notes.map .logged) (notes'.map .logged)) :
    Mirrored root F Eq (note notes : Run ω Unit) (note notes') :=
  .of_change (fun _ => rfl) fun _ _ hm => hm.see h

theorem cancelled_tell (m : Machine ω) (text : String) : (m.tell text).cancelled = m.cancelled := by
  unfold Machine.tell
  split <;> rfl

theorem mirrored_tell {text text' : String} (h : Text.Recounted text text') :
    Mirrored root F Eq (modify (·.tell text) : Run ω Unit) (modify (·.tell text')) :=
  .of_change (fun m => cancelled_tell m text) fun _ _ hm => hm.tell h

/-- **Messages may count actions.** -/
theorem mirrored_log {text text' : String} (h : Text.Recounted text text') (level : Level) :
    Mirrored root F Eq (log text level : Run ω Unit) (log text' level) :=
  .andThen (mirrored_note (.cons (.logged level h) .nil)) fun _ => mirrored_tell h

theorem mirrored_check (h : F .stopped .stopped) :
    Mirrored root F Eq (check : Run ω Unit) check := by
  refine ⟨fun m hm => ?_, fun {m m'} hm _ => ?_⟩
  · rw [on_check]
    split <;> exact hm
  · rw [on_check, on_check, hm.isStopped]
    split
    · exact ⟨.error h, hm.mark rfl⟩
    · exact ⟨.ok rfl, hm⟩

theorem mirrored_ask (request : Request) (effect : Effect ω α) :
    Mirrored root Eq Eq (ask request effect) (ask request effect) := by
  refine .andThen (mirrored_mark _ _ rfl) fun _ => ⟨fun m hm => ?_, fun {m m'} hm _ => ?_⟩
  · have hafter : (m.after (effect m.world)).cancelled = true := by
      show (m.cancelled || _) = true
      rw [hm, Bool.true_or]
    rw [on_perform]
    split <;> exact hafter
  · rw [on_perform, on_perform, hm.world]
    cases (effect m.world).result with
    | ok a => exact ⟨.ok rfl, hm.after _⟩
    | error f => exact ⟨.error rfl, (hm.after _).mark rfl⟩

theorem mirrored_store : Mirrored root F Eq (store : Run ω Store) store :=
  ⟨fun _ => id, fun hm _ => ⟨.ok hm.store.symm, hm⟩⟩

theorem mirrored_ofExcept (hF : ∀ f, F f f) {A : α → β → Prop} {r : Except Cause α}
    {r' : Except Cause β} (h : Matching Eq A r r') :
    Mirrored root F A (ofExcept r : Run ω α) (ofExcept r') := by
  cases h with
  | ok h => exact .pure h
  | error h =>
    subst h
    exact mirrored_fail (hF _)

/-! ## Mirroring is a habit -/

/-- **That a run mirrors itself is a habit of work.** -/
theorem habit_mirrored (root : List Action) :
    WorkHabit (fun _ run => Mirrored (ω := ω) root Eq Eq run run) where
  pure _ := .pure rfl
  throw _ := .throw rfl
  bind hx hf := hx.andThen hf
  outcome hx := hx.outcome.mono (fun _ _ => id) fun _ _ => Matching.eq
  mark step := mirrored_mark step step rfl
  note _ := mirrored_note (Event.recounted_same _)
  tell text := mirrored_tell (.same text)
  check := mirrored_check rfl
  ask := mirrored_ask
  store := mirrored_store

/-- It is one of tasks, if what is logged goes to no file that is read. -/
theorem taskHabit_mirrored {team : Collaborators ω} (hfiles : team.ReadsNoLog)
    (root : List Action) :
    TaskHabit team (fun _ run => Mirrored (ω := ω) root Eq Eq run run) where
  toWorkHabit := habit_mirrored root
  setStore store := .of_change
    (fun m => by unfold Machine.putStore Machine.modifyFrame; split <;> rfl)
    fun _ _ hm => (hm.mark rfl).putStore store
  readText task path := by
    refine .get_bind (fun _ => id) fun m m' hm => .pure ?_
    unfold fileText
    rw [hfiles path m.events, hfiles path m'.events, hm.world, Event.filter_of_recounted hm.events]

end Run
end DesktopMacro
