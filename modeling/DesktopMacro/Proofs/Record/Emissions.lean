/-
What a call on a recording can do.

A call may fail half-way, and what it did before that stays. Whatever the call is and however it
ends, it goes by a few moves: a modifier is set, a character is gathered, the characters that wait
become an action or are lost on the way, a report becomes an action of its own once nothing waits
any more, the recording ends. `Moves` lists them with the actions that come of them, each with the
moment that it is recorded as of. What all moves respect, all calls respect.

Characters that wait are recorded as of the moment of the call, or as of the end of their interval
if that is over. Every other action is recorded as of the moment of the call.
-/
import DesktopMacro.Proofs.Record.Idle

set_option autoImplicit false

namespace DesktopMacro

/-- An action that a recording makes, with the moment that it is recorded as of. -/
structure Emission (τ : Type) where
  action : Action
  stamp : τ

/-- **What a report itself can become**, apart from the characters that waited before it. -/
inductive InputEvent.Becomes {τ : Type} : InputEvent τ → Action.Task → Prop
  | combination (event : KeyEvent τ) (ctrl alt shift : Bool) :
    Becomes (.key event) (.keyboard ⟨.combination, "",
      Key.combination ctrl alt shift (Key.normalize event.key), Capture.usualDelay, false⟩)
  | keyPress (event : KeyEvent τ) :
    Becomes (.key event)
      (.keyboard ⟨.keyPress, "", [Key.normalize event.key], Capture.usualDelay, false⟩)
  | mouse (event : MouseEvent τ) (task : MouseTask) : Becomes (.mouse event) (.mouse task)

/-- **What a call can make**: a text of what waited, or what its report itself becomes. -/
inductive CaptureCall.Makes {τ : Type} (call : CaptureCall τ) : Action.Task → Prop
  | text (typed : String) (charDelay : Int) :
    Makes call (.keyboard ⟨.typeText, typed, [], charDelay, false⟩)
  | report {event : InputEvent τ} {task : Action.Task} (hcall : call = .handle event)
    (hbecomes : event.Becomes task) : Makes call task

namespace Capture

variable {τ : Type} [Timeline τ]

/-! ## Moves -/

/-- **The moments that characters which wait can be recorded as of**: that of the call, or the end
of their interval if it is over. -/
inductive Stamps (capture : Capture τ) (call : CaptureCall τ) : τ → Prop
  | now : Stamps capture call call.time
  | deadline {stamp : τ}
    (hends : Timeline.after capture.lastKey capture.settings.quiet = .ok stamp)
    (hover : Timeline.isBefore call.time stamp = false) : Stamps capture call stamp

/-- The step that records the characters that wait, once they wait no more. -/
def emitPending (capture : Capture τ) (stamp : τ) : Except Cause Action × Capture τ :=
  ({ capture with pending := [] } : Capture τ).step
    (emitKeys .typeText capture.pendingText [] capture.settings.charDelay stamp)

/-- **Everything that a call can do**, with the actions that come of it. -/
inductive Moves (call : CaptureCall τ) : Capture τ → List (Emission τ) → Capture τ → Prop
  | rests (capture : Capture τ) : Moves call capture [] capture
  | turns (capture : Capture τ) (key : String) (down : Bool) :
    Moves call capture [] (capture.setModifier key down)
  | gathers (capture : Capture τ) (key : String) :
    Moves call capture [] (capture.gather key call.time)
  | loses (capture : Capture τ) : Moves call capture [] { capture with pending := [] }
  | ends (capture : Capture τ) : Moves call capture []
      { capture with isRecording := false, ctrl := false, alt := false, shift := false }
  | types {capture after : Capture τ} {stamp : τ} {action : Action}
      (hpending : capture.pending ≠ []) (hstamp : capture.Stamps call stamp)
      (hemit : capture.emitPending stamp = (.ok action, after)) :
      Moves call capture [⟨action, stamp⟩] after
  | records {capture after : Capture τ} {event : InputEvent τ} {name description : String}
      {task : Action.Task} {action : Action} (hcall : call = .handle event)
      (hpending : capture.pending = []) (hbecomes : event.Becomes task)
      (hemit : capture.step (emit name description task call.time) = (.ok action, after)) :
      Moves call capture [⟨action, call.time⟩] after
  | follows {before between after : Capture τ} {first rest : List (Emission τ)}
      (h : Moves call before first between) (h' : Moves call between rest after) :
      Moves call before (first ++ rest) after

/-- A step of a call goes by its moves. -/
def Goes {α : Type} (call : CaptureCall τ) (capture : Capture τ) (body : Capturing τ α) : Prop :=
  ∃ emissions, Moves call capture emissions (capture.step body).2

section Goes

variable {α β : Type} {call : CaptureCall τ} {capture : Capture τ}

theorem Goes.pure (a : α) : Goes call capture (pure a) := ⟨[], .rests capture⟩

/-- One step after another, which starts where the first one ended well. -/
theorem Goes.bind {body : Capturing τ α} {next : α → Capturing τ β} (h : Goes call capture body)
    (h' : ∀ a between, capture.step body = (.ok a, between) → Goes call between (next a)) :
    Goes call capture (body >>= next) := by
  obtain ⟨first, hfirst⟩ := h
  unfold Goes
  rw [step_bind]
  cases hbody : capture.step body with
  | mk result between =>
    rw [hbody] at hfirst
    cases result with
    | ok a =>
      obtain ⟨rest, hrest⟩ := h' a between hbody
      exact ⟨first ++ rest, hfirst.follows hrest⟩
    | error cause => exact ⟨first, hfirst⟩

theorem Goes.get_bind {next : Capture τ → Capturing τ β} (h : Goes call capture (next capture)) :
    Goes call capture (get >>= next) := h

theorem Goes.modify {change : Capture τ → Capture τ} (h : Moves call capture [] (change capture)) :
    Goes call capture (modify change) := ⟨[], h⟩

theorem Goes.set {after : Capture τ} (h : Moves call capture [] after) :
    Goes call capture (set after) := ⟨[], h⟩

/-! ## Recording one action -/

/-- **What it is to record an action**: it is recorded with the gap from the action before it as its
delay, unless that is negative; or nothing changes. -/
theorem step_emit_cases (capture : Capture τ) (name description : String) (task : Action.Task)
    (now : τ) :
    (∃ cause, capture.step (emit name description task now) = (.error cause, capture))
    ∨ ∃ gap shown, Timeline.milliseconds capture.lastEmission now = .ok gap
      ∧ shown.delayBefore = max 0 gap
      ∧ capture.step (emit name description task now) = (.ok (.task shown task), { capture with
          lastEmission := now, recorded := capture.recorded ++ [.task shown task],
          serial := capture.serial + 1 }) := by
  cases hgap : (Timeline.milliseconds capture.lastEmission now : Except Cause Int) with
  | error cause =>
    refine .inl ⟨cause, ?_⟩
    change capture.step ((liftM (Timeline.milliseconds capture.lastEmission now)) >>= _) = _
    rw [hgap]
    rfl
  | ok gap =>
    let header := { capture.nextHeader name description with delayBefore := max 0 gap }
    cases hshown : Action.withDisplay? (.task header task) with
    | error cause =>
      refine .inl ⟨cause, ?_⟩
      change capture.step ((liftM (Timeline.milliseconds capture.lastEmission now)) >>= _) = _
      rw [hgap]
      change capture.step ((liftM (Action.withDisplay? (.task header task))) >>= _) = _
      rw [hshown]
      rfl
    | ok action =>
      obtain ⟨⟨name', description'⟩, -, h⟩ := of_bind hshown
      cases h
      exact .inr ⟨gap, _, rfl, rfl, step_emit hgap hshown⟩

/-- The same of an action that was recorded. -/
theorem of_step_emit {name description : String} {task : Action.Task} {now : τ} {action : Action}
    {after : Capture τ} (h : capture.step (emit name description task now) = (.ok action, after)) :
    ∃ gap shown, Timeline.milliseconds capture.lastEmission now = .ok gap
      ∧ action = .task shown task ∧ shown.delayBefore = max 0 gap
      ∧ after = { capture with
          lastEmission := now, recorded := capture.recorded ++ [action],
          serial := capture.serial + 1 } := by
  rcases step_emit_cases capture name description task now with
    ⟨cause, herror⟩ | ⟨gap, shown, hgap, hdelay, hok⟩
  · cases herror.symm.trans h
  · cases hok.symm.trans h
    exact ⟨gap, shown, hgap, rfl, hdelay, rfl⟩

/-- **A report becomes an action**, or none if that fails. -/
theorem Goes.emit {event : InputEvent τ} {name description : String} {task : Action.Task}
    (hcall : call = .handle event) (hpending : capture.pending = [])
    (hbecomes : event.Becomes task) :
    Goes call capture (emit name description task call.time) := by
  rcases step_emit_cases capture name description task call.time with
    ⟨cause, herror⟩ | ⟨gap, shown, -, -, hok⟩
  · exact ⟨[], by rw [herror]; exact .rests capture⟩
  · refine ⟨[⟨.task shown task, call.time⟩], ?_⟩
    rw [hok]
    exact .records hcall hpending hbecomes hok

/-! ## The characters that wait -/

/-- What waits is recorded, or it is lost. -/
theorem step_flush_cases (hpending : capture.pending ≠ []) (stamp : τ) :
    (∃ cause, capture.step (flush stamp) = (.error cause, { capture with pending := [] }))
    ∨ ∃ action after, capture.emitPending stamp = (.ok action, after)
      ∧ capture.step (flush stamp) = (.ok [action], after) ∧ after.pending = [] := by
  have hflush : capture.step (flush stamp) = ({ capture with pending := [] } : Capture τ).step
      (emitKeys .typeText capture.pendingText [] capture.settings.charDelay stamp
        >>= fun action => pure [action]) := by
    change capture.step (if capture.pending.isEmpty then _ else _) = _
    rw [if_neg (by simpa using hpending)]
    rfl
  rw [hflush]
  rcases step_emit_cases { capture with pending := [] } "" ""
      (.keyboard ⟨.typeText, capture.pendingText, [], capture.settings.charDelay, false⟩) stamp with
    ⟨cause, herror⟩ | ⟨gap, shown, -, -, hok⟩
  · exact .inl ⟨cause, step_bind_error herror⟩
  · exact .inr ⟨_, _, hok, step_bind_ok hok, rfl⟩

/-- Nothing waits once what waited is an action. -/
theorem pending_of_step_flush {stamp : τ} {actions : List Action} {after : Capture τ}
    (h : capture.step (flush stamp) = (.ok actions, after)) : after.pending = [] := by
  by_cases hpending : capture.pending = []
  · rw [step_flush_nil hpending] at h
    cases h
    exact hpending
  · rcases step_flush_cases hpending stamp with ⟨cause, herror⟩ | ⟨action, next, -, hok, hnext⟩
    · cases herror.symm.trans h
    · cases hok.symm.trans h
      exact hnext

/-- **What waits becomes an action, or it is lost.** -/
theorem Goes.flush {stamp : τ} (hstamp : capture.Stamps call stamp) :
    Goes call capture (flush stamp) := by
  by_cases hpending : capture.pending = []
  · exact ⟨[], by rw [step_flush_nil hpending]; exact .rests capture⟩
  · rcases step_flush_cases hpending stamp with ⟨cause, herror⟩ | ⟨action, after, hemit, hok, -⟩
    · exact ⟨[], by rw [herror]; exact .loses capture⟩
    · exact ⟨[⟨action, stamp⟩], by rw [hok]; exact .types hpending hstamp hemit⟩

/-- A look at the clock makes an action of what waits if its interval is over. -/
theorem Goes.poll : Goes call capture (poll call.time) := by
  unfold Capture.poll
  refine .get_bind ?_
  split
  · exact .pure _
  · cases hdeadline : (Timeline.after capture.lastKey capture.settings.quiet : Except Cause τ) with
    | error cause => exact ⟨[], .rests capture⟩
    | ok deadline =>
      change Goes call capture (if Timeline.isBefore call.time deadline then _ else _)
      split
      · exact .pure _
      · next hover => exact .flush (.deadline hdeadline (by simpa using hover))

/-! ## Reports -/

/-- **A key that went down** is gathered, or becomes an action behind what waited. -/
theorem Goes.takeKey {event : KeyEvent τ} (hcall : call = .handle (.key event)) :
    Goes call capture (takeKey (Key.normalize event.key) call.time) := by
  unfold Capture.takeKey
  refine .get_bind ?_
  -- What waited is recorded first, and then the key as what it becomes.
  have hrecords : ∀ {mode : KeyboardMode} {keys : List String},
      (InputEvent.key event).Becomes (.keyboard ⟨mode, "", keys, usualDelay, false⟩) →
      Goes call capture (Capture.flush call.time >>= fun flushed =>
        emitKeys mode "" keys usualDelay call.time >>= fun action =>
          Pure.pure (flushed ++ [action])) :=
    fun hbecomes => (Goes.flush .now).bind fun _ _ hflush =>
      (Goes.emit hcall (pending_of_step_flush hflush) hbecomes).bind fun _ _ _ => .pure _
  split
  · exact hrecords (.combination event _ _ _)
  · split
    · exact (Goes.set (.gathers capture _)).bind fun _ _ _ => .pure _
    · exact hrecords (.keyPress event)

theorem Goes.handleKey {event : KeyEvent τ} (hcall : call = .handle (.key event)) :
    Goes call capture (handleKey event) := by
  subst hcall
  unfold Capture.handleKey
  refine .get_bind ?_
  split
  · exact .pure _
  · split
    · exact (Goes.modify (.turns capture _ _)).bind fun _ _ _ => .pure _
    · refine Goes.bind .poll fun _ polled _ => ?_
      split
      · exact (Goes.modify (.turns polled _ _)).bind fun _ _ _ => .pure _
      · exact (Goes.takeKey rfl).bind fun _ _ _ => .pure _

theorem Goes.emitMouse {event : MouseEvent τ} (hcall : call = .handle (.mouse event))
    (hpending : capture.pending = []) : Goes call capture (emitMouse event) := by
  subst hcall
  unfold Capture.emitMouse
  dsimp only
  split
  · exact ⟨[], .rests capture⟩
  · split <;> exact .emit rfl hpending (.mouse event _)

theorem Goes.handleMouse {event : MouseEvent τ} (hcall : call = .handle (.mouse event)) :
    Goes call capture (handleMouse event) := by
  subst hcall
  unfold Capture.handleMouse
  refine .get_bind ?_
  split
  · exact .pure _
  · refine Goes.bind .poll fun _ polled _ => (Goes.flush .now).bind fun _ flushed hflush => ?_
    exact (Goes.emitMouse rfl (pending_of_step_flush hflush)).bind fun _ _ _ => .pure _

/-! ## Calls -/

theorem Goes.stop : Goes call capture (stop call.time) := by
  unfold Capture.stop
  refine .get_bind ?_
  split
  · exact .pure _
  · refine (Goes.flush .now).bind fun _ flushed _ => ?_
    exact (Goes.modify (.ends flushed)).bind fun _ _ _ => .get_bind (.pure _)

/-- **A call goes by its moves, however it ends.** -/
theorem exists_moves (call : CaptureCall τ) (capture : Capture τ) :
    ∃ emissions, Moves call capture emissions (capture.afterCall call) := by
  cases call with
  | handle event =>
    cases event with
    | key event => exact Goes.handleKey rfl
    | mouse event => exact Goes.handleMouse rfl
  | poll now =>
    have hpoll : Goes (.poll now) capture (Capture.poll now) := .poll
    exact hpoll
  | flush now =>
    have hflush : Goes (.flush now) capture (Capture.flush now) := .flush .now
    exact hflush
  | stop now =>
    have hstop : Goes (.stop now) capture (Capture.stop now) := .stop
    exact hstop.bind fun _ _ _ => .pure _

end Goes

/-! ## Runs -/

/-- **What comes of calls**, one after the other. -/
inductive Runs : Capture τ → List (CaptureCall τ) → List (Emission τ) → Capture τ → Prop
  | done (capture : Capture τ) : Runs capture [] [] capture
  | call {before between after : Capture τ} {call : CaptureCall τ} {calls : List (CaptureCall τ)}
      {first rest : List (Emission τ)} (h : Moves call before first between)
      (h' : Runs between calls rest after) : Runs before (call :: calls) (first ++ rest) after

/-- **Calls go by their moves.** -/
theorem exists_runs (capture : Capture τ) (calls : List (CaptureCall τ)) :
    ∃ emissions, Runs capture calls emissions (capture.feed calls) := by
  induction calls generalizing capture with
  | nil => exact ⟨[], .done capture⟩
  | cons call calls ih =>
    obtain ⟨first, hfirst⟩ := exists_moves call capture
    obtain ⟨rest, hrest⟩ := ih (capture.afterCall call)
    exact ⟨first ++ rest, .call hfirst hrest⟩

/-- The way to record is kept, and what comes of a move is recorded. -/
theorem Moves.recorded {call : CaptureCall τ} {before after : Capture τ}
    {emissions : List (Emission τ)} (h : Moves call before emissions after) :
    after.settings = before.settings
      ∧ after.recorded = before.recorded ++ emissions.map Emission.action := by
  induction h with
  | turns capture key down =>
    rw [setModifier_eq]
    exact ⟨rfl, (List.append_nil _).symm⟩
  | types hpending hstamp hemit =>
    obtain ⟨gap, shown, -, -, -, rfl⟩ := of_step_emit hemit
    exact ⟨rfl, rfl⟩
  | records hcall hpending hbecomes hemit =>
    obtain ⟨gap, shown, -, -, -, rfl⟩ := of_step_emit hemit
    exact ⟨rfl, rfl⟩
  | follows _ _ ih ih' =>
    rw [List.map_append, ← List.append_assoc, ← ih.2]
    exact ⟨ih'.1.trans ih.1, ih'.2⟩
  | _ => exact ⟨rfl, (List.append_nil _).symm⟩

/-- What comes of a move is made by its call, and its delay is not negative. -/
theorem Moves.made {call : CaptureCall τ} {before after : Capture τ}
    {emissions : List (Emission τ)} (h : Moves call before emissions after) :
    ∀ emission ∈ emissions, ∃ shown task, emission.action = .task shown task
      ∧ 0 ≤ shown.delayBefore ∧ call.Makes task := by
  induction h with
  | types hpending hstamp hemit =>
    obtain ⟨gap, shown, -, rfl, hdelay, -⟩ := of_step_emit hemit
    exact List.forall_mem_singleton.2
      ⟨shown, _, rfl, hdelay ▸ le_max_left 0 gap, .text _ _⟩
  | records hcall hpending hbecomes hemit =>
    obtain ⟨gap, shown, -, rfl, hdelay, -⟩ := of_step_emit hemit
    exact List.forall_mem_singleton.2
      ⟨shown, _, rfl, hdelay ▸ le_max_left 0 gap, .report hcall hbecomes⟩
  | follows _ _ ih ih' => exact List.forall_mem_append.2 ⟨ih, ih'⟩
  | _ => exact List.forall_mem_nil _

/-- **What comes of calls is recorded**, in this order. -/
theorem Runs.recorded {calls : List (CaptureCall τ)} {before after : Capture τ}
    {emissions : List (Emission τ)} (h : Runs before calls emissions after) :
    after.recorded = before.recorded ++ emissions.map Emission.action := by
  induction h with
  | done => exact (List.append_nil _).symm
  | call hmoves _ ih => rw [ih, hmoves.recorded.2, List.map_append, List.append_assoc]

/-- **What comes of calls is made by one of them.** -/
theorem Runs.made {calls : List (CaptureCall τ)} {before after : Capture τ}
    {emissions : List (Emission τ)} (h : Runs before calls emissions after) :
    ∀ emission ∈ emissions, ∃ call ∈ calls, ∃ shown task, emission.action = .task shown task
      ∧ 0 ≤ shown.delayBefore ∧ call.Makes task := by
  induction h with
  | done => exact List.forall_mem_nil _
  | call hmoves _ ih =>
    refine List.forall_mem_append.2 ⟨fun emission hemission => ?_, fun emission hemission => ?_⟩
    · exact ⟨_, List.mem_cons_self, hmoves.made emission hemission⟩
    · obtain ⟨call, hcall, hmade⟩ := ih emission hemission
      exact ⟨call, List.mem_cons_of_mem _ hcall, hmade⟩

/-- **Whatever a recording holds is made by one of its calls.** -/
theorem made_of_recorded {capture : Capture τ} {begin : τ} {calls : List (CaptureCall τ)}
    {action : Action} (h : action ∈ ((capture.start begin).feed calls).recorded) :
    ∃ call ∈ calls, ∃ shown task, action = .task shown task ∧ 0 ≤ shown.delayBefore
      ∧ call.Makes task := by
  obtain ⟨emissions, hruns⟩ := exists_runs (capture.start begin) calls
  rw [hruns.recorded] at h
  obtain ⟨emission, hemission, rfl⟩ :=
    List.mem_map.1 ((List.mem_append.1 h).resolve_left List.not_mem_nil)
  exact hruns.made emission hemission

end Capture
end DesktopMacro
