/-
What the steps of a recording deliver.

A step that delivers ends well, gives actions, and leaves the recording in a state that is fit for
the next step. What the actions hold, together with the characters that still wait, is what held and
waited before and what the step adds: `Extends` says so, and it composes. One lemma for each step
says what the step adds; only the last ones, on what is handled, add anything.

A step needs steady moments, because its delays are gaps between them.
-/
import DesktopMacro.Proofs.Computation
import DesktopMacro.Proofs.Record.Contributions
import DesktopMacro.Proofs.Record.Moments

set_option autoImplicit false

namespace DesktopMacro.Capture

/-! ## Steps that end well -/

section Delivers

variable {τ α β : Type}

/-- **A step delivers**: it ends well, and what it gives and leaves is as `Q` says. -/
def Delivers (body : Capturing τ α) (capture : Capture τ) (Q : α → Capture τ → Prop) : Prop :=
  ∃ a after, capture.step body = (.ok a, after) ∧ Q a after

/-- One step after another: the second one starts where the first one ended, unless that failed. -/
theorem step_bind (body : Capturing τ α) (f : α → Capturing τ β) (capture : Capture τ) :
    capture.step (body >>= f) =
      match capture.step body with
      | (.ok a, after) => after.step (f a)
      | (.error cause, after) => (.error cause, after) := by
  refine (run_bind body f capture).trans ?_
  unfold step
  cases (ExceptT.run body).run capture with
  | mk result after => cases result <;> rfl

theorem step_bind_ok {body : Capturing τ α} {f : α → Capturing τ β} {capture after : Capture τ}
    {a : α} (h : capture.step body = (.ok a, after)) :
    capture.step (body >>= f) = after.step (f a) := by
  rw [step_bind, h]

theorem step_bind_error {body : Capturing τ α} {f : α → Capturing τ β} {capture after : Capture τ}
    {cause : Cause} (h : capture.step body = (.error cause, after)) :
    capture.step (body >>= f) = (.error cause, after) := by
  rw [step_bind, h]

theorem Delivers.pure {a : α} {capture : Capture τ} {Q : α → Capture τ → Prop}
    (h : Q a capture) : Delivers (pure a) capture Q :=
  ⟨a, capture, rfl, h⟩

theorem Delivers.bind {body : Capturing τ α} {f : α → Capturing τ β} {capture : Capture τ}
    {P : α → Capture τ → Prop} {Q : β → Capture τ → Prop} (h : Delivers body capture P)
    (hf : ∀ a after, P a after → Delivers (f a) after Q) : Delivers (body >>= f) capture Q := by
  obtain ⟨a, after, hbody, ha⟩ := h
  obtain ⟨b, last, hlast, hb⟩ := hf a after ha
  exact ⟨b, last, (step_bind_ok hbody).trans hlast, hb⟩

theorem Delivers.mono {body : Capturing τ α} {capture : Capture τ} {P Q : α → Capture τ → Prop}
    (h : Delivers body capture P) (hQ : ∀ a after, P a after → Q a after) :
    Delivers body capture Q := by
  obtain ⟨a, after, hbody, ha⟩ := h
  exact ⟨a, after, hbody, hQ a after ha⟩

theorem Delivers.get_bind {f : Capture τ → Capturing τ β} {capture : Capture τ}
    {Q : β → Capture τ → Prop} (h : Delivers (f capture) capture Q) :
    Delivers (get >>= f) capture Q := h

theorem Delivers.set_bind {f : PUnit → Capturing τ β} {capture next : Capture τ}
    {Q : β → Capture τ → Prop} (h : Delivers (f ⟨⟩) next Q) :
    Delivers (set next >>= f) capture Q := h

theorem Delivers.modify_bind {f : PUnit → Capturing τ β} {change : Capture τ → Capture τ}
    {capture : Capture τ} {Q : β → Capture τ → Prop} (h : Delivers (f ⟨⟩) (change capture) Q) :
    Delivers (modify change >>= f) capture Q := h

theorem Delivers.ofExcept_bind {result : Except Cause α} {f : α → Capturing τ β}
    {capture : Capture τ} {Q : β → Capture τ → Prop} {a : α} (ha : result = .ok a)
    (h : Delivers (f a) capture Q) :
    Delivers ((liftM result : Capturing τ α) >>= f) capture Q := by
  subst ha
  exact h

end Delivers

/-! ## What is recorded -/

/-- **A task that a recording can hold.** -/
inductive Recordable (charDelay : Int) : Action.Task → Prop
  | text (text : String) (h : text ≠ "") :
    Recordable charDelay (.keyboard ⟨.typeText, text, [], charDelay, false⟩)
  | combination (held : Held) (key : String) (h : (held.ctrl || held.alt) = true) :
    Recordable charDelay (.keyboard ⟨.combination, "",
      held.keys ++ if (Key.normalize key).isEmpty then [] else [Key.normalize key],
      usualDelay, false⟩)
  | keyPress (key : String) :
    Recordable charDelay (.keyboard ⟨.keyPress, "", [Key.normalize key], usualDelay, false⟩)
  | mouse (x y wheel : Int) (button : String) (hx : Integer.IsWritable x)
    (hy : Integer.IsWritable y) (hwheel : Integer.IsWritable wheel) :
    Recordable charDelay (.mouse ⟨x, y, wheel, if wheel = 0 then clickOf button else .wheel⟩)

/-! ## Views of a recording -/

variable {τ : Type}

/-- The modifiers that a recording counts as held. -/
def held (capture : Capture τ) : Held := ⟨capture.ctrl, capture.alt, capture.shift⟩

/-- What is waiting. -/
def waiting (capture : Capture τ) : List Contribution :=
  capture.pendingText.toList.map .character

/-- A modifier that goes down or up changes what is held, and nothing else. -/
theorem setModifier_eq (capture : Capture τ) (key : String) (down : Bool) :
    capture.setModifier key down = { capture with
      ctrl := (capture.held.turn key down).ctrl
      alt := (capture.held.turn key down).alt
      shift := (capture.held.turn key down).shift } := by
  unfold setModifier Held.turn
  split
  · rfl
  split
  · rfl
  split
  · rfl
  · rfl

/-! ## Extending a recording -/

variable [Timeline τ] {Safe : τ → Prop}

/-- **A recording that is sound**: its moments are safe ones, which are steady for its interval, and
no empty text is waiting. -/
structure Sound (Safe : τ → Prop) (capture : Capture τ) : Prop where
  steady : Timeline.Steady capture.settings.quiet Safe
  lastKey : Safe capture.lastKey
  lastEmission : Safe capture.lastEmission
  pending : ∀ text ∈ capture.pending, text ≠ ""

/-- The texts that wait make an empty text only if there are none. -/
theorem Sound.pendingText_ne {capture : Capture τ} (hsound : capture.Sound Safe)
    (hpending : capture.pending ≠ []) : capture.pendingText ≠ "" := by
  intro hempty
  obtain ⟨text, htext⟩ := List.exists_mem_of_ne_nil _ hpending
  unfold pendingText at hempty
  rw [← String.toList_eq_nil_iff, String.toList_join, List.flatMap_eq_nil_iff] at hempty
  exact hsound.pending text htext (String.toList_eq_nil_iff.1 (hempty text htext))

/-- **An action as recordings make them**: its task can be recorded, its delay is a gap between two
moments, and it is enabled. -/
structure Made (Safe : τ → Prop) (charDelay : Int) (header : Action.Header) (task : Action.Task) :
    Prop where
  task : Recordable charDelay task
  delay : ∃ a b n, Safe a ∧ Safe b ∧ Timeline.milliseconds a b = .ok n
    ∧ header.delayBefore = max 0 n
  enabled : header.enabled = true

/-- **A recording grows** by actions: what they hold and what waits then is what waited before and
what is added. -/
structure Grows (Safe : τ → Prop) (before : Capture τ) (added : List Contribution)
    (actions : List Action) (after : Capture τ) : Prop where
  settings : after.settings = before.settings
  recorded : after.recorded = before.recorded ++ actions
  content : actions.flatMap Contribution.ofAction ++ after.waiting = before.waiting ++ added
  made : ∀ action ∈ actions, ∃ header task, action = .task header task
    ∧ Made Safe before.settings.charDelay header task

/-- **A recording is extended**: it grows, goes on, holds the given modifiers, and is sound. -/
structure Extends (Safe : τ → Prop) (before : Capture τ) (added : List Contribution)
    (actions : List Action) (held : Held) (after : Capture τ) : Prop
    extends Grows Safe before added actions after where
  isRecording : after.isRecording = before.isRecording
  held : after.held = held
  sound : after.Sound Safe

section Composition

variable {before middle after : Capture τ} {added more : List Contribution}
  {actions others : List Action} {held held' : Held}

theorem Grows.refl (before : Capture τ) : before.Grows Safe [] [] before :=
  ⟨rfl, (List.append_nil _).symm, by simp, by simp⟩

theorem Grows.trans (h : before.Grows Safe added actions middle)
    (h' : middle.Grows Safe more others after) :
    before.Grows Safe (added ++ more) (actions ++ others) after where
  settings := h'.settings.trans h.settings
  recorded := by rw [h'.recorded, h.recorded, List.append_assoc]
  content := by
    rw [List.flatMap_append, List.append_assoc, h'.content, ← List.append_assoc, h.content,
      List.append_assoc]
  made := by
    intro action haction
    rcases List.mem_append.1 haction with hmem | hmem
    · exact h.made action hmem
    · rw [← h.settings]
      exact h'.made action hmem

namespace Extends

/-- A step that does nothing. -/
theorem refl (hsound : before.Sound Safe) : before.Extends Safe [] [] before.held before :=
  ⟨.refl before, rfl, rfl, hsound⟩

/-- One step after another. -/
theorem trans (h : before.Extends Safe added actions held middle)
    (h' : middle.Extends Safe more others held' after) :
    before.Extends Safe (added ++ more) (actions ++ others) held' after :=
  ⟨h.toGrows.trans h'.toGrows, h'.isRecording.trans h.isRecording, h'.held, h'.sound⟩

/-- A modifier that goes down or up afterwards. -/
theorem turn (h : before.Extends Safe added actions held after) (key : String) (down : Bool) :
    before.Extends Safe added actions (held.turn key down) (after.setModifier key down) := by
  rw [setModifier_eq, h.held]
  exact ⟨⟨h.settings, h.recorded, h.content, h.made⟩, h.isRecording, rfl,
    h.sound.steady, h.sound.lastKey, h.sound.lastEmission, h.sound.pending⟩

end Extends
end Composition

/-! ## Recording one action -/

/-- An action is recorded as of a moment. -/
theorem step_emit {capture : Capture τ} {name description : String} {task : Action.Task} {now : τ}
    {n : Int} {action : Action}
    (hgap : Timeline.milliseconds capture.lastEmission now = .ok n)
    (hshown : Action.withDisplay?
      (.task { capture.nextHeader name description with delayBefore := max 0 n } task)
      = .ok action) :
    capture.step (emit name description task now) = (.ok action, { capture with
      lastEmission := now, recorded := capture.recorded ++ [action],
      serial := capture.serial + 1 }) := by
  unfold emit
  change capture.step ((liftM (Timeline.milliseconds capture.lastEmission now)) >>= _) = _
  rw [hgap]
  change capture.step ((liftM (Action.withDisplay? (.task _ task))) >>= _) = _
  rw [hshown]
  rfl

/-- An action that is recorded while nothing waits adds what it holds. -/
theorem delivers_emit (capture : Capture τ)
    (hsound : capture.Sound Safe)
    (hpending : capture.pending = []) {name description : String} {task : Action.Task}
    (htask : Recordable capture.settings.charDelay task)
    (hshown : ∀ header : Action.Header, header.name = name →
      ∃ shown, Action.display? (.task header task) = .ok shown)
    {added : List Contribution}
    (hadded : ∀ header, Contribution.ofAction (.task header task) = added) {now : τ} (hnow : Safe now) :
    Delivers (emit name description task now) capture fun action after =>
      capture.Extends Safe added [action] capture.held after ∧ after.pending = [] := by
  obtain ⟨n, hn⟩ := hsound.steady.gap _ _ hsound.lastEmission hnow
  obtain ⟨shown, hshown⟩ := hshown
    { capture.nextHeader name description with delayBefore := max 0 n } rfl
  refine ⟨_, _, step_emit hn (by unfold Action.withDisplay?; rw [hshown]; rfl), ?_, hpending⟩
  refine ⟨⟨rfl, rfl, ?_, ?_⟩, rfl, rfl, hsound.steady, hsound.lastKey, hnow, hsound.pending⟩
  · have hwaiting : capture.waiting = [] := by
      unfold waiting pendingText
      rw [hpending]
      rfl
    rw [List.flatMap_cons, List.flatMap_nil, List.append_nil, hwaiting, List.nil_append]
    change _ ++ capture.waiting = _
    rw [hwaiting, List.append_nil]
    exact hadded _
  · intro action haction
    rw [List.mem_singleton] at haction
    exact ⟨_, _, haction, htask, ⟨_, _, n, hsound.lastEmission, hnow, hn, rfl⟩, rfl⟩

/-- What is recorded of the keyboard has a name from its fields. -/
theorem delivers_emitKeys (capture : Capture τ)
    (hsound : capture.Sound Safe)
    (hpending : capture.pending = []) {mode : KeyboardMode} {text : String} {keys : List String}
    {charDelay : Int}
    (htask : Recordable capture.settings.charDelay (.keyboard ⟨mode, text, keys, charDelay, false⟩))
    {added : List Contribution}
    (hadded : ∀ header, Contribution.ofAction
      (.task header (.keyboard ⟨mode, text, keys, charDelay, false⟩)) = added)
    {now : τ} (hnow : Safe now) :
    Delivers (emitKeys mode text keys charDelay now) capture fun action after =>
      capture.Extends Safe added [action] capture.held after ∧ after.pending = [] :=
  delivers_emit capture hsound hpending htask (fun _ _ => ⟨_, rfl⟩) hadded hnow

/-! ## The characters that wait -/

/-- **What waits becomes an action** and nothing is added. -/
theorem delivers_flush {capture : Capture τ}
    (hsound : capture.Sound Safe) {now : τ}
    (hnow : Safe now) :
    Delivers (flush now) capture fun actions after =>
      capture.Extends Safe [] actions capture.held after ∧ after.pending = [] := by
  unfold flush
  refine .get_bind ?_
  split
  · next hempty => exact .pure ⟨.refl hsound, List.isEmpty_iff.1 hempty⟩
  · next hpending =>
    rw [List.isEmpty_iff] at hpending
    refine .set_bind ?_
    -- The text is recorded with nothing waiting any more, and holds what waited.
    have hemptied : ({ capture with pending := [] } : Capture τ).Sound Safe :=
      ⟨hsound.steady, hsound.lastKey, hsound.lastEmission, by simp⟩
    have hemit := delivers_emitKeys { capture with pending := [] } hemptied rfl
      (.text capture.pendingText (hsound.pendingText_ne hpending)) (fun _ => rfl) hnow
    refine hemit.bind ?_
    rintro action after ⟨hextends, hafter⟩
    refine .pure ⟨⟨⟨hextends.settings, hextends.recorded, ?_, hextends.made⟩,
      hextends.isRecording, hextends.held, hextends.sound⟩, hafter⟩
    have hcontent := hextends.content
    rw [List.append_nil]
    exact hcontent

/-- **Waiting characters whose interval is over become an action**, and nothing is added. -/
theorem delivers_poll {capture : Capture τ}
    (hsound : capture.Sound Safe) {now : τ}
    (hnow : Safe now) :
    Delivers (poll now) capture fun actions after =>
      capture.Extends Safe [] actions capture.held after := by
  unfold poll
  refine .get_bind ?_
  split
  · exact .pure (.refl hsound)
  · obtain ⟨deadline, hdeadline, hover⟩ := hsound.steady.deadline _ _ hsound.lastKey hnow
    refine .ofExcept_bind hdeadline ?_
    split
    · exact .pure (.refl hsound)
    · next hbefore =>
      have hsafe : Safe deadline := hover (by simpa using hbefore)
      exact (delivers_flush hsound hsafe).mono fun _ _ h => h.1

/-! ## Keys -/

/-- **A key that types adds its character** to what waits. -/
theorem extends_gather {capture : Capture τ} (hsound : capture.Sound Safe) {key : String}
    (hprintable : Key.isPrintable key = true) {now : τ} (hnow : Safe now) :
    capture.Extends Safe [.character (capture.settings.layout.typed key capture.shift)] []
      capture.held (capture.gather key now) := by
  have htyped := capture.settings.layout.charOf_of_isPrintable capture.shift hprintable
  refine ⟨⟨rfl, (List.append_nil _).symm, ?_, by simp⟩, rfl, rfl, hsound.steady, hnow,
    hsound.lastEmission, ?_⟩
  · unfold waiting pendingText gather
    dsimp only
    rw [htyped]
    simp [String.toList_join]
  · intro text htext
    unfold gather at htext
    dsimp only at htext
    rw [htyped] at htext
    rcases List.mem_append.1 htext with hmem | hmem
    · exact hsound.pending text hmem
    · rw [List.mem_singleton.1 hmem]
      exact fun h => by simpa using congrArg String.toList h

/-- **A key that went down adds what it contributes.** -/
theorem delivers_takeKey {capture : Capture τ}
    (hsound : capture.Sound Safe)
    {spelling : String} (hkey : Key.isModifier (Key.normalize spelling) = false) {now : τ}
    (hnow : Safe now) :
    Delivers (takeKey (Key.normalize spelling) now) capture fun actions after =>
      capture.Extends Safe
        (Contribution.ofKey capture.settings.layout capture.held (Key.normalize spelling)) actions
        capture.held after := by
  unfold takeKey Contribution.ofKey
  rw [if_neg (by simp [hkey])]
  refine .get_bind ?_
  split
  · -- A combination is recorded behind the text that waited.
    next hheld =>
    have hheld' : (capture.held.ctrl || capture.held.alt) = true := hheld
    rw [if_pos hheld']
    refine (delivers_flush hsound hnow).bind ?_
    rintro actions middle ⟨hextends, hempty⟩
    have hemit := delivers_emitKeys middle hextends.sound hempty
      (.combination capture.held spelling hheld') (fun _ => rfl) hnow
    refine hemit.bind ?_
    rintro action after ⟨hrest, -⟩
    rw [hextends.held] at hrest
    exact .pure (hextends.trans hrest)
  · next hheld =>
    have hheld' : ¬(capture.held.ctrl || capture.held.alt) = true := hheld
    rw [if_neg hheld']
    split
    · next hprintable =>
      exact .set_bind (.pure (extends_gather hsound hprintable hnow))
    · refine (delivers_flush hsound hnow).bind ?_
      rintro actions middle ⟨hextends, hempty⟩
      have hemit := delivers_emitKeys middle hextends.sound hempty
        (.keyPress spelling) (fun _ => rfl) hnow
      refine hemit.bind ?_
      rintro action after ⟨hrest, -⟩
      rw [hextends.held] at hrest
      exact .pure (hextends.trans hrest)

/-- **A report of a key adds what it contributes.** -/
theorem delivers_handleKey {capture : Capture τ}
    (hsound : capture.Sound Safe)
    (hrecording : capture.isRecording = true) {event : KeyEvent τ} (htime : Safe event.time) :
    Delivers (handleKey event) capture fun actions after =>
      capture.Extends Safe
        (Contribution.ofReport capture.settings.layout capture.held (.key event)) actions
        (capture.held.after (.key event)) after := by
  unfold handleKey Contribution.ofReport Held.after
  dsimp only
  refine .get_bind ?_
  rw [if_neg (by simp [hrecording])]
  cases hdown : event.down with
  | false =>
    -- A key that goes up only releases a modifier.
    exact .modify_bind (.pure ((Extends.refl hsound).turn _ false))
  | true =>
    refine (delivers_poll hsound htime).bind fun polled middle hpolled => ?_
    split
    · next hmodifier =>
      have hnothing : Contribution.ofKey capture.settings.layout capture.held
          (Key.normalize event.key) = [] := if_pos hmodifier
      rw [hnothing]
      exact .modify_bind (.pure (hpolled.turn _ true))
    · next hmodifier =>
      -- A key that is no modifier leaves the modifiers as they are.
      have hturn : capture.held.turn (Key.normalize event.key) true = capture.held :=
        Held.turn_of_not_isModifier (by simpa using hmodifier)
      have htake := delivers_takeKey hpolled.sound
        (by simpa using hmodifier) htime
      refine htake.bind fun taken after htaken => .pure ?_
      rw [hpolled.settings, hpolled.held] at htaken
      rw [hturn]
      exact hpolled.trans htaken

/-! ## The mouse -/

/-- An action with a name of its own can be shown. -/
theorem display_of_named {name : String} {task : Action.Task} (hname : name.isEmpty = false)
    (header : Action.Header) (h : header.name = name) :
    ∃ shown, Action.display? (.task header task) = .ok shown := by
  have hlabel : Action.label? (.task header task) = .ok header.name := by
    unfold Action.label?
    exact if_neg (by simp [Action.header, h, hname])
  unfold Action.display?
  split
  · exact ⟨_, rfl⟩
  · rw [hlabel]
    exact ⟨_, rfl⟩

/-- **What the mouse did is recorded** if its numbers can be written. -/
theorem delivers_emitMouse {capture : Capture τ}
    (hsound : capture.Sound Safe)
    (hpending : capture.pending = []) {event : MouseEvent τ} (hwritable : event.IsWritable)
    (htime : Safe event.time) :
    Delivers (emitMouse event) capture fun action after =>
      capture.Extends Safe [Contribution.ofMouse event] [action] capture.held after := by
  obtain ⟨hx, hy, hwheel⟩ := hwritable
  have htask : Recordable capture.settings.charDelay (.mouse ⟨event.x, event.y, event.wheel,
      if event.wheel = 0 then clickOf event.button else .wheel⟩) :=
    .mouse event.x event.y event.wheel event.button hx hy hwheel
  unfold emitMouse Contribution.ofMouse
  rw [if_neg (by simp [hx, hy, hwheel])]
  split
  · next hzero =>
    rw [hzero, if_pos rfl, ← gestureOf_eq] at htask
    rw [hzero, ← gestureOf_eq]
    exact (delivers_emit capture hsound hpending htask
      (display_of_named (by simp [toString]))
      (fun _ => rfl) htime).mono fun _ _ h => h.1
  · next hturned =>
    rw [if_neg hturned] at htask
    exact (delivers_emit capture hsound hpending htask
      (display_of_named (by simp [toString]))
      (fun _ => rfl) htime).mono fun _ _ h => h.1

/-- A report of the mouse with a number that cannot be written is not recorded. -/
theorem step_emitMouse_error {event : MouseEvent τ} (h : ¬event.IsWritable) (capture : Capture τ) :
    capture.step (emitMouse event) = (.error .numberUnwritable, capture) := by
  have hnumbers : ([event.x, event.y, event.wheel].all
      fun n => decide (Integer.IsWritable n)) = false := by
    by_contra hall
    refine h ?_
    simpa [MouseEvent.IsWritable] using hall
  unfold emitMouse
  rw [hnumbers]
  rfl

/-- **A report of the mouse adds what it contributes**, behind the text that waited. -/
theorem delivers_handleMouse {capture : Capture τ}
    (hsound : capture.Sound Safe)
    (hrecording : capture.isRecording = true) {event : MouseEvent τ}
    (hwritable : event.IsWritable) (htime : Safe event.time) :
    Delivers (handleMouse event) capture fun actions after =>
      capture.Extends Safe [Contribution.ofMouse event] actions capture.held after := by
  unfold handleMouse
  refine .get_bind ?_
  rw [if_neg (by simp [hrecording])]
  refine (delivers_poll hsound htime).bind fun polled first hpolled => ?_
  refine (delivers_flush hpolled.sound htime).bind ?_
  rintro flushed second ⟨hflushed, hempty⟩
  have hwaited := hpolled.trans hflushed
  refine (delivers_emitMouse hwaited.sound hempty hwritable
    htime).bind fun action after hemitted => .pure ?_
  rw [hwaited.held, hpolled.held] at hemitted
  exact hwaited.trans hemitted

/-! ## Whatever is reported -/

/-- **A report adds what it contributes.** -/
theorem delivers_handle {capture : Capture τ}
    (hsound : capture.Sound Safe)
    (hrecording : capture.isRecording = true) {event : InputEvent τ}
    (hwritable : event.IsWritable) (htime : Safe event.time) :
    Delivers (handle event) capture fun actions after =>
      capture.Extends Safe (Contribution.ofReport capture.settings.layout capture.held event)
        actions (capture.held.after event) after := by
  cases event with
  | key event => exact delivers_handleKey hsound hrecording htime
  | mouse event => exact delivers_handleMouse hsound hrecording hwritable htime

/-- **The end of a recording records what waits.** -/
theorem delivers_stop {capture : Capture τ} (hsound : capture.Sound Safe)
    (hrecording : capture.isRecording = true) {now : τ} (hnow : Safe now) :
    Delivers (stop now) capture fun (actions, _) after =>
      capture.Grows Safe [] actions after ∧ after.isRecording = false ∧ after.pending = [] := by
  unfold stop
  refine .get_bind ?_
  rw [if_neg (by simp [hrecording])]
  refine (delivers_flush hsound hnow).bind ?_
  rintro actions middle ⟨hextends, hempty⟩
  refine .modify_bind (.get_bind (.pure ⟨?_, rfl, hempty⟩))
  exact ⟨hextends.settings, hextends.recorded, hextends.content, hextends.made⟩

/-! ## After the end -/

/-- Nothing is flushed where nothing waits. -/
theorem step_flush_nil {capture : Capture τ} (hpending : capture.pending = []) (now : τ) :
    capture.step (flush now) = (.ok [], capture) := by
  change capture.step (if capture.pending.isEmpty then _ else _) = _
  rw [if_pos (List.isEmpty_iff.2 hpending)]
  rfl

theorem step_poll_nil {capture : Capture τ} (hpending : capture.pending = []) (now : τ) :
    capture.step (poll now) = (.ok [], capture) := by
  change capture.step (if capture.pending.isEmpty then _ else _) = _
  rw [if_pos (List.isEmpty_iff.2 hpending)]
  rfl

/-- Where nothing is recorded, a report does nothing. -/
theorem step_handle_ended {capture : Capture τ} (hended : capture.isRecording = false)
    (event : InputEvent τ) : capture.step (handle event) = (.ok [], capture) := by
  have hguard : (!capture.isRecording) = true := by simp [hended]
  cases event with
  | key event =>
    change capture.step (if !capture.isRecording then _ else _) = _
    rw [if_pos hguard]
    rfl
  | mouse event =>
    change capture.step (if !capture.isRecording then _ else _) = _
    rw [if_pos hguard]
    rfl

/-- Where nothing is recorded, there is nothing to stop. -/
theorem step_stop_ended {capture : Capture τ} (hended : capture.isRecording = false) (now : τ) :
    capture.step (stop now) = (.ok ([], []), capture) := by
  have hguard : (!capture.isRecording) = true := by simp [hended]
  change capture.step (if !capture.isRecording then _ else _) = _
  rw [if_pos hguard]
  rfl

end DesktopMacro.Capture
