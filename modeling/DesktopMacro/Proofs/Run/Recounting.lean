/-
Texts that count actions.

Some texts of a run say how many actions there are: the words for a loop or a choice, what is logged
when a sequence or a branch begins, and every message that shows such words. Where disabled actions
are taken out those numbers change, and nothing else of the texts does. Failures and events are
recounted if their texts are, and if the action that is blamed is the one that pruning has left.
-/
import DesktopMacro.Proofs.Run.Journal
import DesktopMacro.Proofs.Run.Pruning
import Mathlib.Data.List.Forall2

set_option autoImplicit false

namespace DesktopMacro

/-! ## Texts -/

/-- **A recounted text**: where the text says how many actions there are, it says how many are left
of them. -/
inductive Text.Recounted : String → String → Prop where
  | same (text : String) : Recounted text text
  | count (actions : List Action) :
    Recounted (toString actions.length) (toString (Action.prunedAll actions).length)
  | append {first first' second second' : String} (h : Recounted first first')
    (h' : Recounted second second') : Recounted (first ++ second) (first' ++ second')

namespace Action

theorem isDescribable_pruned (action : Action) :
    action.pruned.IsDescribable ↔ action.IsDescribable := by
  unfold IsDescribable
  rw [shownNumbers_pruned]

/-- **The words for an action are recounted** when it is pruned. -/
theorem recounted_describe (action : Action) :
    Text.Recounted action.describe action.pruned.describe := by
  cases action with
  | task header work => exact .same _
  | loop header spec actions =>
    show Text.Recounted (spec.describe _) (spec.describe _)
    unfold LoopSpec.describe
    exact ((((Text.Recounted.append (.same _) (.count actions)).append (.same _)).append
      (.same _)).append (.same _)).append (.same _)
  | choice header spec thenActions elseActions =>
    show Text.Recounted (spec.describe _ _) (spec.describe _ _)
    unfold ChoiceSpec.describe
    refine .append ((Text.Recounted.append (.same _) (.count thenActions)).append (.same _)) ?_
    split
    · exact (Text.Recounted.append (.same _) (.count elseActions)).append (.same _)
    · exact .same _

end Action

/-! ## Results -/

/-- **Two results match**: both are values that go together, or both are failures that do. -/
inductive Matching {ε α β : Type} (F : ε → ε → Prop) (A : α → β → Prop) :
    Except ε α → Except ε β → Prop where
  | ok {a : α} {b : β} (h : A a b) : Matching F A (.ok a) (.ok b)
  | error {e e' : ε} (h : F e e') : Matching F A (.error e) (.error e')

namespace Matching

variable {ε α β : Type} {F F' : ε → ε → Prop} {A A' : α → β → Prop}

theorem mono {r : Except ε α} {r' : Except ε β} (h : Matching F A r r')
    (hF : ∀ e e', F e e' → F' e e') (hA : ∀ a b, A a b → A' a b) : Matching F' A' r r' := by
  cases h with
  | ok h => exact .ok (hA _ _ h)
  | error h => exact .error (hF _ _ h)

/-- Results that match exactly are the same. -/
theorem eq {r r' : Except ε α} (h : Matching Eq Eq r r') : r = r' := by
  cases h with
  | ok h => rw [h]
  | error h => rw [h]

/-- What matches a run that ended well ended well. -/
theorem exists_ok {r : Except ε α} {r' : Except ε β} {a : α} (h : Matching F A r r')
    (hr : r = .ok a) : ∃ b, r' = .ok b ∧ A a b := by
  subst hr
  cases h with
  | ok h => exact ⟨_, rfl, h⟩

theorem refl {F : ε → ε → Prop} {A : α → α → Prop} (hF : ∀ e, F e e) (hA : ∀ a, A a a) :
    (r : Except ε α) → Matching F A r r
  | .ok a => .ok (hA a)
  | .error e => .error (hF e)

end Matching

namespace Action

/-- Pruned or not, an action can be described or it cannot. -/
theorem matching_describe? (action : Action) :
    Matching Eq Text.Recounted action.describe? action.pruned.describe? := by
  unfold describe?
  by_cases h : action.IsDescribable
  · rw [if_pos h, if_pos (action.isDescribable_pruned.2 h)]
    exact .ok action.recounted_describe
  · rw [if_neg h, if_neg (mt action.isDescribable_pruned.1 h)]
    exact .error rfl

theorem matching_label? (action : Action) :
    Matching Eq Text.Recounted action.label? action.pruned.label? := by
  unfold label?
  rw [header_pruned]
  split
  · exact action.matching_describe?
  · exact .ok (.same _)

end Action

/-! ## Failures -/

/-- **A recounted failure**: the same one; or the same fault of an action, of which pruning has left
another one, its text recounted where it describes the action. -/
inductive Failure.Recounted : Failure → Failure → Prop where
  | same (failure : Failure) : Recounted failure failure
  | fault (fault : ActionFault) (action : Action) :
    Recounted (.atAction fault action) (.atAction fault action.pruned)
  | broken {text text' : String} (action : Action) (h : Text.Recounted text text') :
    Recounted (.atAction (.stated .injection text) action)
      (.atAction (.stated .injection text') action.pruned)
  | spent (label : String) (attempts : Nat) (last : Failure) (action : Action) :
    Recounted (.exhausted label attempts last (some action))
      (.exhausted label attempts last (some action.pruned))

namespace Failure.Recounted

variable {failure failure' : Failure}

theorem isAction (h : Recounted failure failure') : failure'.isAction = failure.isAction := by
  cases h <;> rfl

theorem isCancelled (h : Recounted failure failure') :
    failure'.isCancelled = failure.isCancelled := by
  cases h <;> rfl

theorem text (h : Recounted failure failure') : Text.Recounted failure.text failure'.text := by
  cases h with
  | same => exact .same _
  | fault => exact .same _
  | broken _ h => exact h
  | spent => exact .same _

/-- Only what is an action's fault is recounted. -/
theorem eq_of_not_isAction (h : Recounted failure failure') (hfault : failure.isAction = false) :
    failure' = failure := by
  cases h with
  | same => rfl
  | fault => cases hfault
  | broken => cases hfault
  | spent => cases hfault

/-- **The blame falls on what pruning has left of the action.** -/
theorem blame (h : Recounted failure failure') (hfault : failure.isAction = true)
    (action : Action) : Recounted (failure.blame action) (failure'.blame action.pruned) := by
  cases h with
  | same =>
    match failure with
    | .failed cause (some blamed) => exact .same _
    | .exhausted label attempts last (some blamed) => exact .same _
    | .exhausted label attempts last none => exact .spent label attempts last action
    | .failed (.action cause) none => exact .fault cause action
  | fault fault blamed => exact .fault fault blamed
  | broken blamed h => exact .broken blamed h
  | spent label attempts last blamed => exact .spent label attempts last blamed

end Failure.Recounted

/-! ## Events -/

/-- **A recounted event**: the same one, or a note of the same level whose text is recounted. -/
inductive Event.Recounted : Event → Event → Prop where
  | same (event : Event) : Recounted event event
  | logged (level : Level) {text text' : String} (h : Text.Recounted text text') :
    Recounted (.logged ⟨level, text⟩) (.logged ⟨level, text'⟩)

/-- Events that are recounted are the same without the log. -/
theorem Event.filter_of_recounted {events events' : List Event}
    (h : List.Forall₂ Recounted events events') :
    events'.filter (fun event => !event.isLogged)
      = events.filter (fun event => !event.isLogged) := by
  induction h with
  | nil => rfl
  | cons hhead _ ih =>
    cases hhead with
    | same event => rw [List.filter_cons, List.filter_cons, ih]
    | logged => exact ih

theorem Event.recounted_same (events : List Event) : List.Forall₂ Recounted events events :=
  List.forall₂_same.2 fun event _ => .same event

end DesktopMacro
