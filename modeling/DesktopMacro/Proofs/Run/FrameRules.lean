/-
Relations that runs uphold.

Besides the sequences that it asks for, a payload only asks collaborators, logs, and writes the
journal; no variable changes and no frame comes or goes. So any relation between a machine and what
becomes of it is upheld by a payload, if it holds where frames and library stay the same, can be
chained, and is upheld by the lookup. Upholding such a relation is a habit, in the sense of
`DesktopMacro.Proofs.Run.Habits`; and it is a habit of actions, too, if the relation also holds
where the innermost sequence gets other variables.
-/
import DesktopMacro.Proofs.Run.Actions
import DesktopMacro.Proofs.Run.Habits
import DesktopMacro.Proofs.Run.Lookups

set_option autoImplicit false

namespace DesktopMacro

variable {ω α : Type}

/-- A relation between a machine and what becomes of it, which holds wherever frames and library
stay the same, and of one thing after another. -/
structure FrameRule (R : Machine ω → Machine ω → Prop) : Prop where
  silent : ∀ {m m'}, m'.frames = m.frames → m'.library = m.library → R m m'
  trans : ∀ {m m₁ m'}, R m m₁ → R m₁ m' → R m m'

/-- A relation between a machine and what becomes of it, which also holds where the innermost
sequence gets other variables. -/
structure StoreRule (R : Machine ω → Machine ω → Prop) : Prop extends FrameRule R where
  stored : ∀ (m : Machine ω) (store : Store), R m ((m.mark .stored).putStore store)

/-- **A run that upholds a relation** leads every machine to a related one. -/
def Run.Upholds (R : Machine ω → Machine ω → Prop) (run : Run ω α) : Prop :=
  ∀ m, R m (run.on m).2

variable {R : Machine ω → Machine ω → Prop}

open Run

/-- A relation that can be chained is upheld by one run after another. -/
theorem Run.Upholds.bind {β : Type} (htrans : ∀ {m m₁ m' : Machine ω}, R m m₁ → R m₁ m' → R m m')
    {x : Run ω α} {f : α → Run ω β} (hx : x.Upholds R) (hf : ∀ a, (f a).Upholds R) :
    (x >>= f).Upholds R := by
  intro m
  have hfirst := hx m
  rcases hr : x.on m with ⟨r, m'⟩
  rw [hr] at hfirst
  cases r with
  | ok a =>
    rw [on_bind_ok hr]
    exact htrans hfirst (hf a m')
  | error f =>
    rw [on_bind_error hr]
    exact hfirst

/-- **Upholding a relation is a habit.** -/
theorem FrameRule.habit (h : FrameRule R) : Habit (fun _ run => run.Upholds R) where
  pure _ _ := h.silent rfl rfl
  throw _ _ := h.silent rfl rfl
  bind hx hf := Upholds.bind (R := R) h.trans hx hf
  outcome hx := hx
  mark _ _ := h.silent rfl rfl
  note _ _ := h.silent rfl rfl
  tell text m := by
    refine h.silent (Machine.frames_tell m text) ?_
    show (m.tell text).library = m.library
    unfold Machine.tell
    split <;> rfl
  check m := by
    rw [on_check]
    split
    · exact h.silent rfl rfl
    · exact h.silent rfl rfl
  ask request effect m := by
    rw [on_ask, on_perform]
    split
    · exact h.silent rfl rfl
    · exact h.silent rfl rfl
  store _ := h.silent rfl rfl
  current place header task m := by
    obtain ⟨_, _, -, hcurrent⟩ := on_current m.within_free place header task
    rw [hcurrent]
    exact h.silent rfl rfl

theorem StoreRule.storeHabit (h : StoreRule R) (team : Collaborators ω) :
    StoreHabit team (fun _ run => run.Upholds R) where
  toHabit := h.toFrameRule.habit
  setStore store m := h.stored m store
  readText _ _ _ := h.silent rfl rfl

end DesktopMacro
