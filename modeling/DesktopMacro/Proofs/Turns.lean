/-
Things that go on by turns.

At a turn something changes, and something may come of it. Whose turn is next is up to a schedule,
and a schedule is any list of turns. What comes of it is what comes of its turns, one after the
other.
-/

set_option autoImplicit false

namespace DesktopMacro.Turns

variable {σ τ δ : Type} (turn : σ → τ → List δ × σ)

/-- The state after a schedule. -/
def after (state : σ) : List τ → σ
  | [] => state
  | next :: turns => after (turn state next).2 turns

/-- What comes of a schedule. -/
def deeds (state : σ) : List τ → List δ
  | [] => []
  | next :: turns => (turn state next).1 ++ deeds (turn state next).2 turns

variable {turn} (state : σ) (turns more : List τ)

theorem after_append : after turn state (turns ++ more) = after turn (after turn state turns) more := by
  induction turns generalizing state with
  | nil => rfl
  | cons next turns ih => exact ih (turn state next).2

/-- **What every turn of a sort keeps, every schedule of such turns keeps**: something that is said
of a state and of what has come of it so far. -/
theorem invariant {P : List δ → σ → Prop} {Q : τ → Prop}
    (hstep : ∀ past state next, Q next → P past state →
      P (past ++ (turn state next).1) (turn state next).2)
    {past : List δ} {state : σ} (h : P past state) {turns : List τ} (hturns : ∀ t ∈ turns, Q t) :
    P (past ++ deeds turn state turns) (after turn state turns) := by
  induction turns generalizing past state with
  | nil =>
    rw [deeds, List.append_nil]
    exact h
  | cons next turns ih =>
    have hfirst := hstep past state next (hturns next List.mem_cons_self) h
    have hrest := ih hfirst fun later hlater => hturns later (List.mem_cons_of_mem next hlater)
    rw [List.append_assoc] at hrest
    exact hrest

end DesktopMacro.Turns
