/-
A recording does not look at identities.

The actions of a recording are given identities by their number. Without them a recording goes
through the same steps: a step mirrors another one if it does to the recording without identities
what that one does to the recording itself. Every call mirrors itself.
-/
import DesktopMacro.Proofs.Record.Conservation

set_option autoImplicit false

namespace DesktopMacro

/-- An action without an identity. -/
def Action.anonymous (action : Action) : Action :=
  action.withHeader { action.header with id := "" }

namespace Capture

/-- A recording without identities. -/
def anonymous {τ : Type} (capture : Capture τ) : Capture τ :=
  { capture with
    settings := { capture.settings with idOf := fun _ => "" }
    recorded := capture.recorded.map Action.anonymous }

/-! ## Mirroring -/

section Mirrors

variable {τ α β γ δ : Type} {capture : Capture τ}

/-- **A step mirrors another one**: it does the same without identities, and what it gives is what
the other one gives without them. -/
def Mirrors (body : Capturing τ α) (forget : α → β) (mirror : Capturing τ β)
    (capture : Capture τ) : Prop :=
  capture.anonymous.step mirror
    = ((capture.step body).1.map forget, (capture.step body).2.anonymous)

theorem Mirrors.pure (a : α) (forget : α → β) :
    Mirrors (pure a) forget (pure (forget a)) capture := rfl

theorem Mirrors.bind {body : Capturing τ α} {forget : α → β} {mirror : Capturing τ β}
    {next : α → Capturing τ γ} {forget' : γ → δ} {next' : β → Capturing τ δ}
    (h : Mirrors body forget mirror capture)
    (hnext : ∀ a after, Mirrors (next a) forget' (next' (forget a)) after) :
    Mirrors (body >>= next) forget' (mirror >>= next') capture := by
  unfold Mirrors at h ⊢
  rw [step_bind, step_bind, h]
  rcases capture.step body with ⟨result, after⟩
  cases result with
  | ok a => exact hnext a after
  | error cause => rfl

theorem Mirrors.get_bind {next : Capture τ → Capturing τ γ} {forget : γ → δ}
    {next' : Capture τ → Capturing τ δ}
    (h : Mirrors (next capture) forget (next' capture.anonymous) capture) :
    Mirrors (get >>= next) forget (get >>= next') capture := h

theorem Mirrors.set_bind {next : PUnit → Capturing τ γ} {forget : γ → δ}
    {next' : PUnit → Capturing τ δ} {after : Capture τ}
    (h : Mirrors (next ⟨⟩) forget (next' ⟨⟩) after) :
    Mirrors (set after >>= next) forget (set after.anonymous >>= next') capture := h

theorem Mirrors.modify_bind {next : PUnit → Capturing τ γ} {forget : γ → δ}
    {next' : PUnit → Capturing τ δ} {change : Capture τ → Capture τ}
    (hchange : (change capture).anonymous = change capture.anonymous)
    (h : Mirrors (next ⟨⟩) forget (next' ⟨⟩) (change capture)) :
    Mirrors (modify change >>= next) forget (modify change >>= next') capture := by
  change (change capture.anonymous).step (next' ⟨⟩) = _
  rw [← hchange]
  exact h

/-- What is computed without a look at the recording is the same. -/
theorem Mirrors.ofExcept_bind (result : Except Cause α) {next : α → Capturing τ γ}
    {forget : γ → δ} {next' : α → Capturing τ δ}
    (h : ∀ a, Mirrors (next a) forget (next' a) capture) :
    Mirrors ((liftM result : Capturing τ α) >>= next) forget
      ((liftM result : Capturing τ α) >>= next') capture := by
  cases result with
  | ok a => exact h a
  | error cause => rfl

end Mirrors

/-! ## The steps of a recording -/

variable {τ : Type} [Timeline τ] {capture : Capture τ}

/-- The name and the description that the fields of an action call for do not depend on its
identity. -/
theorem display?_anonymous (action : Action) : action.anonymous.display? = action.display? := by
  cases action with
  | task header task => cases task <;> rfl
  | loop header spec actions => rfl
  | choice header spec thenActions elseActions => rfl

theorem withDisplay?_anonymous (action : Action) :
    action.anonymous.withDisplay? = action.withDisplay?.map Action.anonymous := by
  unfold Action.withDisplay?
  rw [display?_anonymous]
  cases action.display? with
  | error cause => rfl
  | ok shown => cases action <;> rfl

/-- **Recording an action mirrors itself.** -/
theorem mirrors_emit (name description : String) (task : Action.Task) (now : τ) :
    Mirrors (emit name description task now) Action.anonymous (emit name description task now)
      capture := by
  unfold emit
  refine .get_bind (.ofExcept_bind _ fun gap => ?_)
  let action : Action :=
    .task { capture.nextHeader name description with delayBefore := max 0 gap } task
  change Mirrors (liftM action.withDisplay? >>= _) _
    (liftM action.anonymous.withDisplay? >>= _) capture
  rw [withDisplay?_anonymous]
  cases action.withDisplay? with
  | error cause => rfl
  | ok shown =>
    have hrecorded : (capture.recorded ++ [shown]).map Action.anonymous
        = capture.anonymous.recorded ++ [shown.anonymous] := List.map_append
    change (Except.ok shown.anonymous, { capture.anonymous with
      lastEmission := now, recorded := capture.anonymous.recorded ++ [shown.anonymous],
      serial := capture.serial + 1 }) = _
    rw [← hrecorded]
    rfl

theorem mirrors_flush (now : τ) :
    Mirrors (flush now) (List.map Action.anonymous) (flush now) capture := by
  unfold flush
  refine .get_bind ?_
  change Mirrors (if capture.pending.isEmpty then _ else _) _
    (if capture.pending.isEmpty then _ else _) capture
  split
  · exact .pure [] _
  · exact .set_bind ((mirrors_emit _ _ _ now).bind fun action after => .pure [action] _)

theorem mirrors_poll (now : τ) :
    Mirrors (poll now) (List.map Action.anonymous) (poll now) capture := by
  unfold poll
  refine .get_bind ?_
  change Mirrors (if capture.pending.isEmpty then _ else _) _
    (if capture.pending.isEmpty then _ else _) capture
  split
  · exact .pure [] _
  · refine .ofExcept_bind _ fun deadline => ?_
    split
    · exact .pure [] _
    · exact mirrors_flush deadline

omit [Timeline τ] in
theorem anonymous_setModifier (capture : Capture τ) (key : String) (down : Bool) :
    (capture.setModifier key down).anonymous = capture.anonymous.setModifier key down := by
  rw [setModifier_eq, setModifier_eq]
  rfl

theorem mirrors_takeKey (key : String) (now : τ) :
    Mirrors (takeKey key now) (List.map Action.anonymous) (takeKey key now) capture := by
  have hthen : ∀ (mode : KeyboardMode) (keys : List String) (flushed : List Action)
      (after : Capture τ),
      Mirrors (emitKeys mode "" keys usualDelay now >>= fun action => pure (flushed ++ [action]))
        (List.map Action.anonymous)
        (emitKeys mode "" keys usualDelay now >>= fun action =>
          pure (flushed.map Action.anonymous ++ [action])) after := by
    intro mode keys flushed after
    refine (mirrors_emit _ _ _ now).bind fun action last => ?_
    have hall : (flushed ++ [action]).map Action.anonymous
        = flushed.map Action.anonymous ++ [action.anonymous] := List.map_append
    rw [← hall]
    exact .pure _ _
  unfold takeKey
  refine .get_bind ?_
  change Mirrors (if capture.ctrl || capture.alt then _ else _) _
    (if capture.ctrl || capture.alt then _ else _) capture
  split
  · exact (mirrors_flush now).bind fun flushed after => hthen _ _ flushed after
  · split
    · exact .set_bind (.pure [] _)
    · exact (mirrors_flush now).bind fun flushed after => hthen _ _ flushed after

theorem mirrors_handleKey (event : KeyEvent τ) :
    Mirrors (handleKey event) (List.map Action.anonymous) (handleKey event) capture := by
  unfold handleKey
  dsimp only
  refine .get_bind ?_
  change Mirrors (if !capture.isRecording then _ else _) _
    (if !capture.isRecording then _ else _) capture
  split
  · exact .pure [] _
  split
  · exact .modify_bind (anonymous_setModifier capture _ _) (.pure [] _)
  · refine (mirrors_poll event.time).bind fun polled middle => ?_
    split
    · exact .modify_bind (anonymous_setModifier middle _ _) (.pure polled _)
    · refine (mirrors_takeKey _ event.time).bind fun taken after => ?_
      rw [← List.map_append]
      exact .pure _ _

theorem mirrors_emitMouse (event : MouseEvent τ) :
    Mirrors (emitMouse event) Action.anonymous (emitMouse event) capture := by
  by_cases hwritable : event.IsWritable
  · obtain ⟨hx, hy, hwheel⟩ := hwritable
    unfold emitMouse
    rw [if_neg (by simp [hx, hy, hwheel])]
    by_cases hzero : event.wheel = 0
    · rw [if_pos hzero]
      exact mirrors_emit _ _ _ event.time
    · rw [if_neg hzero]
      exact mirrors_emit _ _ _ event.time
  · unfold Mirrors
    rw [step_emitMouse_error hwritable, step_emitMouse_error hwritable]
    rfl

theorem mirrors_handleMouse (event : MouseEvent τ) :
    Mirrors (handleMouse event) (List.map Action.anonymous) (handleMouse event) capture := by
  unfold handleMouse
  refine .get_bind ?_
  change Mirrors (if !capture.isRecording then _ else _) _
    (if !capture.isRecording then _ else _) capture
  split
  · exact .pure [] _
  · refine (mirrors_poll event.time).bind fun polled first => ?_
    refine (mirrors_flush event.time).bind fun flushed second => ?_
    refine (mirrors_emitMouse event).bind fun action after => ?_
    have hall : (polled ++ flushed ++ [action]).map Action.anonymous
        = polled.map Action.anonymous ++ flushed.map Action.anonymous ++ [action.anonymous] := by
      rw [List.map_append, List.map_append, List.map_singleton]
    rw [← hall]
    exact .pure _ _

theorem mirrors_stop (now : τ) :
    Mirrors (stop now) (fun ended => (ended.1.map Action.anonymous, ended.2)) (stop now)
      capture := by
  unfold stop
  refine .get_bind ?_
  change Mirrors (if !capture.isRecording then _ else _) _
    (if !capture.isRecording then _ else _) capture
  split
  · exact .pure ([], []) _
  · refine (mirrors_flush now).bind fun flushed middle => ?_
    refine .modify_bind rfl (.get_bind ?_)
    have hnote : ∀ capture : Capture τ, capture.anonymous.stopNote = capture.stopNote := by
      intro capture
      unfold stopNote anonymous
      rw [List.length_map]
    rw [hnote]
    exact .pure (flushed, [_]) _

/-- **Every call on a recording mirrors itself.** -/
theorem mirrors_call (call : CaptureCall τ) :
    Mirrors call.run (List.map Action.anonymous) call.run capture := by
  cases call with
  | handle event =>
    cases event with
    | key event => exact mirrors_handleKey event
    | mouse event => exact mirrors_handleMouse event
  | poll now => exact mirrors_poll now
  | flush now => exact mirrors_flush now
  | stop now => exact (mirrors_stop now).bind fun ended after => .pure ended.1 _

end Capture
end DesktopMacro
