/-
When the clock is looked at makes no difference to a recording.

The characters that wait belong to the moment at which their interval runs out, whoever notices: a
look at the clock, or the next key that goes down or report of the mouse, which look at it first.
Between that moment and the next such report only keys go up, and these change the modifiers and
nothing else. So a look that turns what waits into an action can be put off until the next report
that would, or to the last look, and then every look but the last can be left out.

The identities of actions are given out anew in every recording. A recording without them goes
through the same steps, so recordings that differ by their identities stay alike.
-/
import DesktopMacro.Proofs.Record.Identities

set_option autoImplicit false

namespace DesktopMacro

/-! ## Looks at the clock -/

/-- Calls that are given reports, with looks at the clock between them: none of these comes after a
later report or after the last look. -/
inductive Polled {τ : Type} [Timeline τ] (last : τ) :
    List (InputEvent τ) → List (CaptureCall τ) → Prop
  | nil : Polled last [] []
  | poll (now : τ) {reports : List (InputEvent τ)} {calls : List (CaptureCall τ)}
      (hreports : ∀ event ∈ reports, Timeline.isBefore event.time now = false)
      (hlast : Timeline.isBefore last now = false) (h : Polled last reports calls) :
      Polled last reports (.poll now :: calls)
  | handle (event : InputEvent τ) {reports : List (InputEvent τ)} {calls : List (CaptureCall τ)}
      (h : Polled last reports calls) : Polled last (event :: reports) (.handle event :: calls)

namespace Polled

variable {τ : Type} [Timeline τ] {last : τ}

/-- Reports without a look at the clock. -/
theorem unwatched (reports : List (InputEvent τ)) :
    Polled last reports (reports.map CaptureCall.handle) := by
  induction reports with
  | nil => exact .nil
  | cons event reports ih => exact .handle event ih

/-- The reports are among the calls. -/
theorem handle_mem {reports : List (InputEvent τ)}
    {calls : List (CaptureCall τ)} (h : Polled last reports calls) :
    ∀ event ∈ reports, CaptureCall.handle event ∈ calls := by
  induction h with
  | nil => simp
  | poll now _ _ _ ih => exact fun event he => List.mem_cons_of_mem _ (ih event he)
  | handle first _ ih =>
    intro event he
    rcases List.mem_cons.1 he with rfl | hmem
    · exact List.mem_cons_self
    · exact List.mem_cons_of_mem _ (ih event hmem)

end Polled

namespace Capture

open CaptureCall

variable {τ : Type} [Timeline τ] {Safe : τ → Prop} {capture : Capture τ}

/-- The recording after a call, which may have failed. -/
def afterCall (capture : Capture τ) (call : CaptureCall τ) : Capture τ := (capture.step call.run).2

/-- The recording after calls, one after the other; one that fails keeps no other from being
made. -/
def feed (capture : Capture τ) (calls : List (CaptureCall τ)) : Capture τ :=
  calls.foldl afterCall capture

theorem feed_cons (capture : Capture τ) (call : CaptureCall τ) (calls : List (CaptureCall τ)) :
    capture.feed (call :: calls) = (capture.afterCall call).feed calls := rfl

/-! ## What waits -/

/-- The action that the waiting characters become. -/
def typed (capture : Capture τ) (delay : Int) : Action :=
  let task : KeyboardTask :=
    ⟨.typeText, capture.pendingText, [], capture.settings.charDelay, false⟩
  .task { capture.nextHeader task.derivedName ("Keyboard input: " ++ task.describe) with
    delayBefore := delay } (.keyboard task)

/-- The recording in which the waiting characters have become an action. -/
def emptied (capture : Capture τ) (delay : Int) (now : τ) : Capture τ :=
  { capture with
    pending := [], lastEmission := now, recorded := capture.recorded ++ [capture.typed delay],
    serial := capture.serial + 1 }

/-- What waits becomes an action as of a moment. -/
theorem step_flush (hpending : capture.pending ≠ []) {now : τ} {n : Int}
    (hgap : Timeline.milliseconds capture.lastEmission now = .ok n) :
    capture.step (flush now) = (.ok [capture.typed (max 0 n)], capture.emptied (max 0 n) now) := by
  have hemit : ({ capture with pending := [] } : Capture τ).step (emit "" ""
      (.keyboard ⟨.typeText, capture.pendingText, [], capture.settings.charDelay, false⟩) now)
      = (.ok (capture.typed (max 0 n)), capture.emptied (max 0 n) now) := step_emit hgap rfl
  change capture.step (if capture.pending.isEmpty then _ else _) = _
  rw [if_neg (by simpa using hpending)]
  exact step_bind_ok (f := fun action => pure [action]) hemit

/-- A look at the clock before the interval is over does nothing. -/
theorem step_poll_early {now deadline : τ}
    (hdeadline : Timeline.after capture.lastKey capture.settings.quiet = .ok deadline)
    (hearly : Timeline.isBefore now deadline = true) :
    capture.step (poll now) = (.ok [], capture) := by
  change capture.step (if capture.pending.isEmpty then _ else _) = _
  split
  · rfl
  · rw [hdeadline]
    change capture.step (if Timeline.isBefore now deadline then _ else _) = _
    rw [if_pos hearly]
    rfl

/-- **The waiting characters are due** at a moment: their interval is over then, and there is a gap
from the last action to it. -/
structure Due (capture : Capture τ) (deadline : τ) (gap : Int) : Prop where
  pending : capture.pending ≠ []
  ends : Timeline.after capture.lastKey capture.settings.quiet = .ok deadline
  gap : Timeline.milliseconds capture.lastEmission deadline = .ok gap

/-- A look at the clock turns what is due into an action as of the moment when it was due. -/
theorem Due.step_poll {deadline now : τ} {gap : Int} (h : capture.Due deadline gap)
    (hover : Timeline.isBefore now deadline = false) :
    capture.step (poll now)
      = (.ok [capture.typed (max 0 gap)], capture.emptied (max 0 gap) deadline) := by
  change capture.step (if capture.pending.isEmpty then _ else _) = _
  rw [if_neg (by simpa using h.pending), h.ends]
  change capture.step (if Timeline.isBefore now deadline then _ else _) = _
  rw [hover, if_neg Bool.false_ne_true]
  exact step_flush h.pending h.gap

/-! ## Putting a look off -/

/-- A key that goes up leaves what is due as it is. -/
theorem Due.setModifier {deadline : τ} {gap : Int} (h : capture.Due deadline gap) (key : String) :
    (capture.setModifier key false).Due deadline gap
      ∧ (capture.setModifier key false).emptied (max 0 gap) deadline
        = (capture.emptied (max 0 gap) deadline).setModifier key false := by
  rw [setModifier_eq, setModifier_eq]
  exact ⟨⟨h.pending, h.ends, h.gap⟩, rfl⟩

omit [Timeline τ] in
/-- What is made of the result of a step does not change the recording. -/
theorem step_bind_pure {α β : Type} (body : Capturing τ α) (f : α → β) (capture : Capture τ) :
    (capture.step (body >>= fun a => pure (f a))).2 = (capture.step body).2 := by
  rw [step_bind]
  split
  · next h =>
    rw [h]
    rfl
  · next h => rw [h]

/-- A report of the mouse, or of a key that goes down. -/
def IsPress : InputEvent τ → Prop
  | .key event => event.down = true
  | .mouse _ => True

/-- **Such a report looks at the clock first**, so that what is due has become an action before
anything else happens. -/
theorem Due.afterCall_press {deadline : τ} {gap : Int} (h : capture.Due deadline gap)
    (hrecording : capture.isRecording = true) {event : InputEvent τ} (hpress : IsPress event)
    (hover : Timeline.isBefore event.time deadline = false) :
    (capture.emptied (max 0 gap) deadline).afterCall (.handle event)
      = capture.afterCall (.handle event) := by
  have hguard : ¬(!capture.isRecording) = true := by simp [hrecording]
  cases event with
  | key event =>
    have hdown : ¬(!event.down) = true := by simpa [IsPress] using hpress
    have hpoll := h.step_poll (show Timeline.isBefore event.time deadline = false from hover)
    change ((capture.emptied _ _).step (if !capture.isRecording then _ else _)).2
      = (capture.step (if !capture.isRecording then _ else _)).2
    rw [if_neg hguard, if_neg hdown, step_bind_ok (step_poll_nil rfl event.time),
      step_bind_ok hpoll]
    split
    · rfl
    · rw [step_bind_pure, step_bind_pure]
  | mouse event =>
    have hpoll := h.step_poll (show Timeline.isBefore event.time deadline = false from hover)
    change ((capture.emptied _ _).step (if !capture.isRecording then _ else _)).2
      = (capture.step (if !capture.isRecording then _ else _)).2
    rw [if_neg hguard, step_bind_ok (step_poll_nil rfl event.time),
      step_bind_ok hpoll,
      step_bind_ok (step_flush_nil rfl event.time), step_bind_ok (step_flush_nil rfl event.time),
      step_bind_pure, step_bind_pure]

/-- A key that goes up only releases a modifier. -/
theorem afterCall_release (hrecording : capture.isRecording = true) {event : KeyEvent τ}
    (hup : event.down = false) :
    capture.afterCall (.handle (.key event))
      = capture.setModifier (Key.normalize event.key) false := by
  change (capture.step (if !capture.isRecording then _ else _)).2 = _
  rw [if_neg (by simp [hrecording]), if_pos (by simp [hup])]
  rfl

/-- **What is due can wait**: whether it becomes an action now, or when a later report or the last
look notices, the recording ends the same. The induction is on the reports; keys that go up leave
what is due as it is, and the first report of another kind makes up for the look. -/
theorem Due.feed_emptied {deadline last : τ} {gap : Int} (h : capture.Due deadline gap)
    {reports : List (InputEvent τ)}
    (hreports : ∀ event ∈ reports, Timeline.isBefore event.time deadline = false)
    (hlast : Timeline.isBefore last deadline = false) :
    (capture.emptied (max 0 gap) deadline).feed (reports.map CaptureCall.handle ++ [.poll last])
      = capture.feed (reports.map CaptureCall.handle ++ [.poll last]) := by
  induction reports generalizing capture with
  | nil =>
    change ((capture.emptied _ _).step (poll last)).2 = (capture.step (poll last)).2
    rw [step_poll_nil rfl, h.step_poll hlast]
  | cons event reports ih =>
    have hrest := fun e he => hreports e (List.mem_cons_of_mem event he)
    rw [List.map_cons, List.cons_append, feed_cons, feed_cons]
    by_cases hrecording : capture.isRecording = true
    · by_cases hpress : IsPress event
      · rw [h.afterCall_press hrecording hpress (hreports event List.mem_cons_self)]
      · cases event with
        | key event =>
          have hup : event.down = false := by simpa [IsPress] using hpress
          obtain ⟨hdue, hemptied⟩ := h.setModifier (Key.normalize event.key)
          have hstill : (capture.emptied (max 0 gap) deadline).isRecording = true := hrecording
          rw [afterCall_release hrecording hup, afterCall_release hstill hup, ← hemptied]
          exact ih hdue hrest
        | mouse event => exact absurd trivial hpress
    · -- Where nothing is recorded, reports do nothing.
      have hended : capture.isRecording = false := by simpa using hrecording
      have hstays : ∀ other : Capture τ, other.isRecording = false →
          other.afterCall (.handle event) = other := fun other hother =>
        congrArg Prod.snd (step_handle_ended hother event)
      rw [hstays capture hended, hstays (capture.emptied _ _) hended]
      exact ih h hrest

/-! ## Leaving looks out -/

/-- A report leaves a sound recording, also one with a number that cannot be written. -/
theorem Sound.afterCall_handle (hsound : capture.Sound Safe) {event : InputEvent τ}
    (htime : Safe event.time) : (capture.afterCall (.handle event)).Sound Safe := by
  by_cases hrecording : capture.isRecording = true
  · by_cases hwritable : event.IsWritable
    · obtain ⟨actions, after, hstep, hextends⟩ :=
        delivers_handle hsound hrecording hwritable htime
      change (capture.step (Capture.handle event)).2.Sound Safe
      rw [hstep]
      exact hextends.sound
    · cases event with
      | key event => exact absurd trivial hwritable
      | mouse event =>
        -- The text that waited has become an action by the time the report fails.
        have hnow : Safe event.time := htime
        obtain ⟨polled, first, hpoll, hfirst⟩ := delivers_poll hsound hnow
        obtain ⟨flushed, second, hflush, hsecond, -⟩ := delivers_flush hfirst.sound hnow
        change (capture.step (if !capture.isRecording then _ else _)).2.Sound Safe
        rw [if_neg (by simp [hrecording]), step_bind_ok hpoll, step_bind_ok hflush,
          step_bind_error (step_emitMouse_error hwritable second)]
        exact hsecond.sound
  · change (capture.step (Capture.handle event)).2.Sound Safe
    rw [step_handle_ended (by simpa using hrecording)]
    exact hsound

/-- **Every look but the last can be left out.** -/
theorem feed_polled {last : τ} (hordered : Timeline.Ordered Safe) (hlast : Safe last)
    {reports : List (InputEvent τ)} {calls : List (CaptureCall τ)}
    (hpolled : Polled last reports calls) (hsound : capture.Sound Safe)
    (htimes : ∀ call ∈ calls, Safe call.time) (hreports : ∀ event ∈ reports, Safe event.time) :
    capture.feed (calls ++ [.poll last])
      = capture.feed (reports.map CaptureCall.handle ++ [.poll last]) := by
  induction hpolled generalizing capture with
  | nil => rfl
  | handle event h ih =>
    exact ih (hsound.afterCall_handle (hreports event List.mem_cons_self))
      (fun call hcall => htimes call (List.mem_cons_of_mem _ hcall))
      (fun e he => hreports e (List.mem_cons_of_mem _ he))
  | @poll now reports calls hbefore hbeforeLast h ih =>
    have hnow : Safe now := htimes (.poll now) List.mem_cons_self
    obtain ⟨actions, after, hstep, hextends⟩ := delivers_poll hsound hnow
    have hafter : capture.afterCall (.poll now) = after := congrArg Prod.snd hstep
    have hrest := ih hextends.sound (fun call hcall => htimes call (List.mem_cons_of_mem _ hcall))
      hreports
    rw [List.cons_append, feed_cons, hafter, hrest]
    by_cases hpending : capture.pending = []
    · rw [step_poll_nil hpending] at hstep
      cases hstep
      rfl
    · obtain ⟨deadline, hdeadline, hover⟩ :=
        hsound.steady.deadline _ _ hsound.lastKey hnow
      cases hearly : Timeline.isBefore now deadline with
      | true =>
        rw [step_poll_early hdeadline hearly] at hstep
        cases hstep
        rfl
      | false =>
        obtain ⟨gap, hgap⟩ := hsound.steady.gap _ _ hsound.lastEmission (hover hearly)
        have hdue : capture.Due deadline gap := ⟨hpending, hdeadline, hgap⟩
        rw [hdue.step_poll hearly] at hstep
        cases hstep
        -- What comes after the look comes after the moment when the characters were due.
        exact hdue.feed_emptied
          (fun event he => hordered.trans _ _ _ (hover hearly) hnow (hreports event he) hearly
            (hbefore event he))
          (hordered.trans _ _ _ (hover hearly) hnow hlast hearly hbeforeLast)

/-! ## Two ways to look -/

/-- Calls mirror themselves, one after the other. -/
theorem feed_anonymous (capture : Capture τ) (calls : List (CaptureCall τ)) :
    (capture.feed calls).anonymous = capture.anonymous.feed calls := by
  induction calls generalizing capture with
  | nil => rfl
  | cons call calls ih =>
    have hcall : capture.anonymous.afterCall call = (capture.afterCall call).anonymous :=
      congrArg Prod.snd (mirrors_call call)
    rw [feed_cons, feed_cons, ih, hcall]

/-- Every look but the last can be left out of a recording on seconds. -/
theorem feed_polled_seconds {capture : Capture Quantity} {begin last : Quantity}
    {reports : List (InputEvent Quantity)} {calls : List (CaptureCall Quantity)}
    (hpolled : Polled last reports calls) {interval : Int} {quiet : Binary64}
    (hinterval : Pause.seconds interval = .ok quiet)
    (hquiet : capture.settings.quiet = .real quiet) {moments : List Quantity}
    (hmoments : ∀ a ∈ begin :: last :: calls.map time, a ∈ moments)
    (hgaps : ∀ a ∈ moments, ∀ b ∈ moments, Quantity.HasFiniteGap a b) :
    (capture.start begin).feed (calls ++ [.poll last])
      = (capture.start begin).feed (reports.map CaptureCall.handle ++ [.poll last]) := by
  obtain ⟨hfinite, hsign⟩ := Quantity.seconds_finite hinterval
  have hsteady := Quantity.steady_between hgaps hfinite hsign
  rw [← hquiet] at hsteady
  have hsafe : ∀ a ∈ begin :: last :: calls.map time, Quantity.Between moments a :=
    fun a ha => Quantity.between_of_mem hgaps (hmoments a ha)
  have hcalls : ∀ call ∈ calls, Quantity.Between moments call.time := fun call hcall =>
    hsafe _ (List.mem_cons_of_mem _ (List.mem_cons_of_mem _ (List.mem_map_of_mem hcall)))
  exact feed_polled (Quantity.ordered_between moments)
    (hsafe last (List.mem_cons_of_mem _ List.mem_cons_self)) hpolled
    (sound_start hsteady (hsafe begin List.mem_cons_self)) hcalls
    fun event he => hcalls _ (hpolled.handle_mem event he)

/-- **When the clock is looked at makes no difference.** Two recordings that differ by identities at
most are started at the same moment and given the same reports, each with looks at the clock
anywhere between them, and the same look at the end. Then they differ by identities at most. -/
theorem polls_unobservable {capture other : Capture Quantity}
    (halike : capture.anonymous = other.anonymous) (begin last : Quantity)
    {reports : List (InputEvent Quantity)} {calls calls' : List (CaptureCall Quantity)}
    (hpolled : Polled last reports calls) (hpolled' : Polled last reports calls')
    {interval : Int} {quiet : Binary64} (hinterval : Pause.seconds interval = .ok quiet)
    (hquiet : capture.settings.quiet = .real quiet)
    (hgaps : ∀ a ∈ begin :: last :: (calls ++ calls').map time,
      ∀ b ∈ begin :: last :: (calls ++ calls').map time, Quantity.HasFiniteGap a b) :
    ((capture.start begin).feed (calls ++ [.poll last])).anonymous
      = ((other.start begin).feed (calls' ++ [.poll last])).anonymous := by
  have hquiet' : other.settings.quiet = .real quiet := by
    have hsettings : capture.anonymous.settings.quiet = other.anonymous.settings.quiet := by
      rw [halike]
    exact hsettings.symm.trans hquiet
  have hstart : (capture.start begin).anonymous = (other.start begin).anonymous := by
    change capture.anonymous.start begin = other.anonymous.start begin
    rw [halike]
  rw [feed_polled_seconds hpolled hinterval hquiet (by simp +contextual) hgaps,
    feed_polled_seconds hpolled' hinterval hquiet' (by simp +contextual) hgaps,
    feed_anonymous, feed_anonymous, hstart]

/-- A word typed with a shortcut behind it and a click at the end, all of them in time for the
interval of the first character to run out. -/
def mixedReports : List (InputEvent Quantity) :=
  [.key ⟨"h", true, .whole 1⟩, .key ⟨"shift", false, .real (.ofInt 2)⟩,
    .key ⟨"ctrl", true, .whole 2⟩, .mouse ⟨7, -8, "right", .whole 4, 0⟩]

/-- The reports with a look at the clock as soon as the interval is over. -/
def watchedCalls : List (CaptureCall Quantity) :=
  [.handle (.key ⟨"h", true, .whole 1⟩), .poll (.real (Binary64.div (.ofInt 7) (.ofInt 4))),
    .handle (.key ⟨"shift", false, .real (.ofInt 2)⟩), .handle (.key ⟨"ctrl", true, .whole 2⟩),
    .poll (.whole 3), .handle (.mouse ⟨7, -8, "right", .whole 4, 0⟩)]

theorem polled_watchedCalls : Polled (.whole 5) mixedReports watchedCalls :=
  .handle _ (.poll _ (by decide +kernel) (by decide +kernel)
    (.handle _ (.handle _ (.poll _ (by decide +kernel) (by decide +kernel) (.handle _ .nil)))))

/-- The usual way to record, with the numbers of the actions as their identities. -/
def numbered : Capture Quantity :=
  { usual with settings := { usual.settings with idOf := fun n => s!"{n}" } }

theorem polls_unobservable_mixed :
    usual.anonymous = numbered.anonymous
    ∧ Polled (.whole 5) mixedReports watchedCalls
    ∧ Polled (.whole 5) mixedReports (mixedReports.map CaptureCall.handle)
    ∧ ((usual.start (.whole 0)).feed (watchedCalls ++ [.poll (.whole 5)])).anonymous
      = ((numbered.start (.whole 0)).feed (mixedReports.map CaptureCall.handle
          ++ [CaptureCall.poll (Quantity.whole 5)])).anonymous := by
  have halike : usual.anonymous = numbered.anonymous := rfl
  have hunwatched : Polled (Quantity.whole 5) mixedReports (mixedReports.map CaptureCall.handle) :=
    Polled.unwatched mixedReports
  have hinterval : Pause.seconds 750 = .ok (Binary64.div (.ofInt 750) (.ofInt 1000)) := by rfl
  have hgaps : ∀ a ∈ Quantity.whole 0 :: Quantity.whole 5
        :: (watchedCalls ++ mixedReports.map CaptureCall.handle).map time,
      ∀ b ∈ Quantity.whole 0 :: Quantity.whole 5
        :: (watchedCalls ++ mixedReports.map CaptureCall.handle).map time,
      Quantity.HasFiniteGap a b := by
    decide +kernel
  exact ⟨halike, polled_watchedCalls, hunwatched, polls_unobservable halike (.whole 0) (.whole 5)
    polled_watchedCalls hunwatched hinterval rfl hgaps⟩

/-- A moment that is finite, although the milliseconds until then are not. -/
def vast : Quantity := .real (.ofInt (10 ^ 306))

/-- **Where gaps are not finite, a look at the clock shows.** The character that waits is lost
either way; without the look it takes the modifier behind it along. -/
theorem poll_observable_beyond_limits :
    Polled vast [.key ⟨"A", true, vast⟩, .key ⟨"LeftCtrl", true, vast⟩]
        [.handle (.key ⟨"A", true, vast⟩), .handle (.key ⟨"LeftCtrl", true, vast⟩)]
    ∧ Polled vast [.key ⟨"A", true, vast⟩, .key ⟨"LeftCtrl", true, vast⟩]
        [.handle (.key ⟨"A", true, vast⟩), .poll vast, .handle (.key ⟨"LeftCtrl", true, vast⟩)]
    ∧ (Binary64.ofInt (10 ^ 306)).isFinite = true
    ∧ ((usual.start (.whole 0)).feed ([.handle (.key ⟨"A", true, vast⟩),
          .handle (.key ⟨"LeftCtrl", true, vast⟩)] ++ [.poll vast])).anonymous
      ≠ ((usual.start (.whole 0)).feed ([.handle (.key ⟨"A", true, vast⟩), .poll vast,
          .handle (.key ⟨"LeftCtrl", true, vast⟩)] ++ [.poll vast])).anonymous := by
  have hnow : Timeline.isBefore vast vast = false := by decide +kernel
  refine ⟨.handle _ (.handle _ .nil), .handle _ (.poll _ (List.forall_mem_singleton.2 hnow) hnow
    (.handle _ .nil)), by decide +kernel, fun halike => ?_⟩
  have hctrl := congrArg Capture.ctrl halike
  exact absurd hctrl (by decide +kernel)

end Capture
end DesktopMacro
