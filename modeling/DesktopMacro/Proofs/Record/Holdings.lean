/-
What a recording holds is settled.

A call on a recording may fail, and what it recorded before stays. Whatever the calls are and
however they end, each action that a recording holds is settled: its delay is not negative, and its
keys have their own names. That needs nothing of the clock. The calls do not change either how the
recording is made.
-/
import DesktopMacro.Proofs.Record.Emissions
import DesktopMacro.Proofs.Record.Replay

set_option autoImplicit false

namespace DesktopMacro.Capture

variable {τ : Type}

/-- **What the steps of a recording respect**: a relation that holds when a recording records
nothing, and when it records one action, which is settled. -/
structure Respected (R : Capture τ → Capture τ → Prop) : Prop where
  trans {before between after : Capture τ} : R before between → R between after → R before after
  keeps {before after : Capture τ} : after.settings = before.settings →
    after.recorded = before.recorded → R before after
  records {before after : Capture τ} {action : Action} : after.settings = before.settings →
    after.recorded = before.recorded ++ [action] → action.Settled 1 → R before after

/-- What a recording holds is what it held, and what is settled. -/
def Gains (before after : Capture τ) : Prop :=
  ∀ action ∈ after.recorded, action ∈ before.recorded ∨ action.Settled 1

theorem respected_gains : Respected (Gains (τ := τ)) where
  trans := by
    intro before between after h h' action haction
    rcases h' action haction with hmem | hsettled
    · exact h action hmem
    · exact .inr hsettled
  keeps := by
    intro before after _ hrecorded action haction
    rw [hrecorded] at haction
    exact .inl haction
  records := by
    intro before after new _ hrecorded hsettled action haction
    rw [hrecorded] at haction
    rcases List.mem_append.1 haction with hmem | hnew
    · exact .inl hmem
    · rw [List.mem_singleton.1 hnew]
      exact .inr hsettled

/-- A recording is made in the same way. -/
def SameSettings (before after : Capture τ) : Prop := after.settings = before.settings

theorem respected_sameSettings : Respected (SameSettings (τ := τ)) where
  trans h h' := h'.trans h
  keeps h _ := h
  records h _ _ := h

/-- The keys of a combination have their own names. -/
theorem settled_combination (ctrl alt shift : Bool) (key : String) :
    ∀ name ∈ Key.combination ctrl alt shift (Key.normalize key), Key.normalize name = name := by
  intro name hname
  rcases List.mem_append.1 hname with hheld | hkey
  · have hkeys : name ∈ (Held.mk ctrl alt shift).keys := hheld
    exact normalize_of_mem_held name hkeys
  · split at hkey
    · cases hkey
    · rw [List.mem_singleton.1 hkey]
      exact Key.normalize_normalize key

/-- **What a call makes is settled.** -/
theorem settled_of_makes (call : CaptureCall τ) {task : Action.Task} (h : call.Makes task) :
    task.Settled := by
  cases h with
  | text => exact List.forall_mem_nil _
  | report _ hbecomes =>
    cases hbecomes with
    | combination event ctrl alt shift => exact settled_combination ctrl alt shift event.key
    | keyPress event => exact List.forall_mem_singleton.2 (Key.normalize_normalize event.key)
    | mouse => trivial

/-! ## The moves of a recording -/

namespace Respected

variable {R : Capture τ → Capture τ → Prop} (hR : Respected R) [Timeline τ]

include hR

/-- **A move is respected.** -/
theorem moves {call : CaptureCall τ} {before after : Capture τ} {emissions : List (Emission τ)}
    (h : Moves call before emissions after) : R before after := by
  induction h with
  | turns capture key down =>
    rw [setModifier_eq]
    exact hR.keeps rfl rfl
  | types hpending hstamp hemit =>
    obtain ⟨gap, shown, -, rfl, hdelay, rfl⟩ := of_step_emit hemit
    exact hR.records rfl rfl
      ⟨by decide, hdelay ▸ le_max_left 0 gap, settled_of_makes call (.text _ _)⟩
  | records hcall hpending hbecomes hemit =>
    obtain ⟨gap, shown, -, rfl, hdelay, rfl⟩ := of_step_emit hemit
    exact hR.records rfl rfl
      ⟨by decide, hdelay ▸ le_max_left 0 gap, settled_of_makes call (.report hcall hbecomes)⟩
  | follows _ _ ih ih' => exact hR.trans ih ih'
  | _ => exact hR.keeps rfl rfl

theorem runs {calls : List (CaptureCall τ)} {before after : Capture τ}
    {emissions : List (Emission τ)} (h : Runs before calls emissions after) : R before after := by
  induction h with
  | done => exact hR.keeps rfl rfl
  | call hmoves _ ih => exact hR.trans (hR.moves hmoves) ih

/-- **What moves respect, calls respect, however they end.** -/
theorem feed (capture : Capture τ) (calls : List (CaptureCall τ)) :
    R capture (capture.feed calls) := by
  obtain ⟨emissions, hruns⟩ := exists_runs capture calls
  exact hR.runs hruns

end Respected

/-! ## What calls leave -/

variable [Timeline τ]

/-- **Every action that a recording holds is settled.** -/
theorem settled_of_recorded {capture : Capture τ} {begin : τ} {calls : List (CaptureCall τ)}
    {action : Action} (h : action ∈ ((capture.start begin).feed calls).recorded) :
    action.Settled 1 :=
  (respected_gains.feed (capture.start begin) calls action h).resolve_left List.not_mem_nil

/-- **Calls do not change how a recording is made.** -/
theorem settings_feed (capture : Capture τ) (calls : List (CaptureCall τ)) :
    (capture.feed calls).settings = capture.settings :=
  respected_sameSettings.feed capture calls

end DesktopMacro.Capture
