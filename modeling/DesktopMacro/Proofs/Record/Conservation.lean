/-
No report is lost while a recording runs.

The calls on a recording come in any order: reports, looks at the clock, flushes, and the end. Each
of them ends well and returns what it recorded. So what has been recorded is at every time what the
calls returned, one after the other, and what it holds, together with the characters that wait, is
what the reports until the end contribute. Which call a text is recorded by makes no difference to
that, and neither does the time, as long as the gaps are finite.

Finite gaps are gaps that are finite in doubles, since that is how an interval is measured; whole
seconds beyond all doubles have exact gaps, but there a recording fails to look at the clock. And a
report of the mouse has to have numbers that can be written, because a recording puts them into
words.
-/
import DesktopMacro.Proofs.Record.Delivery

set_option autoImplicit false

namespace DesktopMacro

/-! ## Calls -/

/-- A call on a recording. -/
inductive CaptureCall (τ : Type) where
  | handle (event : InputEvent τ)
  | poll (now : τ)
  | flush (now : τ)
  | stop (now : τ)

namespace CaptureCall

variable {τ : Type}

/-- The moment of a call. -/
def time : CaptureCall τ → τ
  | handle event => event.time
  | poll now => now
  | flush now => now
  | stop now => now

/-- The actions that a call returns. -/
def run [Timeline τ] : CaptureCall τ → Capturing τ (List Action)
  | handle event => Capture.handle event
  | poll now => Capture.poll now
  | flush now => Capture.flush now
  | stop now => do return (← Capture.stop now).1

/-- **The reports that a recording hears**: those before its end. -/
def heard : List (CaptureCall τ) → List (InputEvent τ)
  | [] => []
  | handle event :: calls => event :: heard calls
  | stop _ :: _ => []
  | _ :: calls => heard calls

end CaptureCall

namespace Capture

open CaptureCall

variable {τ : Type} [Timeline τ] {Safe : τ → Prop}

/-! ## After the end -/

/-- Once it has ended, a recording does not change. -/
theorem step_ended {capture : Capture τ} (hended : capture.isRecording = false)
    (hpending : capture.pending = []) (call : CaptureCall τ) :
    capture.step call.run = (.ok [], capture) := by
  cases call with
  | handle event => exact step_handle_ended hended event
  | poll now => exact step_poll_nil hpending now
  | flush now => exact step_flush_nil hpending now
  | stop now => exact step_bind_ok (step_stop_ended hended now)

/-- Calls after the end return nothing. -/
theorem delivers_ended {capture : Capture τ} (hended : capture.isRecording = false)
    (hpending : capture.pending = []) (calls : List (CaptureCall τ)) :
    Delivers (calls.mapM run) capture fun lists after => lists.flatten = [] ∧ after = capture := by
  induction calls with
  | nil => exact .pure ⟨rfl, rfl⟩
  | cons call calls ih =>
    rw [List.mapM_cons]
    have hcall : Delivers call.run capture fun actions after => actions = [] ∧ after = capture :=
      ⟨[], capture, step_ended hended hpending call, rfl, rfl⟩
    refine hcall.bind ?_
    rintro _ _ ⟨rfl, rfl⟩
    refine ih.bind ?_
    rintro lists after ⟨hlists, hafter⟩
    exact .pure ⟨hlists, hafter⟩

/-! ## Any calls -/

/-- **Calls record what the reports contribute**, and once one of them has ended the recording,
nothing waits any more. The induction is on the calls; each of them leaves a recording that is sound
and goes on, until one ends it. -/
theorem delivers_calls_settled (calls : List (CaptureCall τ)) {capture : Capture τ}
    (hsound : capture.Sound Safe) (hrecording : capture.isRecording = true)
    (htimes : ∀ call ∈ calls, Safe call.time)
    (hwritable : ∀ event ∈ heard calls, event.IsWritable) :
    Delivers (calls.mapM run) capture fun lists after =>
      capture.Grows Safe
        (Contribution.ofReports capture.settings.layout capture.held (heard calls)) lists.flatten
        after ∧ ((∃ ending, CaptureCall.stop ending ∈ calls) → after.pending = []) := by
  induction calls generalizing capture with
  | nil => exact .pure ⟨.refl capture, by simp⟩
  | cons call calls ih =>
    have htime : Safe call.time := htimes call List.mem_cons_self
    have hrest : ∀ other ∈ calls, Safe other.time :=
      fun other hother => htimes other (List.mem_cons_of_mem call hother)
    rw [List.mapM_cons]
    -- A call that goes on is followed by the rest of the calls.
    have hgoes : ∀ {added : List Contribution} {held : Held},
        (∀ ending, call ≠ .stop ending) → (∀ event ∈ heard calls, event.IsWritable) →
        Delivers call.run capture (fun actions after =>
          capture.Extends Safe added actions held after) →
        Delivers (call.run >>= fun actions => calls.mapM run >>= fun lists =>
          pure (actions :: lists)) capture fun lists after =>
            capture.Grows Safe (added
              ++ Contribution.ofReports capture.settings.layout held (heard calls))
              lists.flatten after
              ∧ ((∃ ending, CaptureCall.stop ending ∈ call :: calls) → after.pending = []) := by
      intro added held hcall hwritable hstep
      refine hstep.bind fun actions middle hextends => ?_
      refine (ih hextends.sound (hextends.isRecording.trans hrecording) hrest
        hwritable).bind fun lists after hafter => .pure ?_
      obtain ⟨hgrows, hsettled⟩ := hafter
      rw [hextends.settings, hextends.held] at hgrows
      refine ⟨hextends.toGrows.trans hgrows, ?_⟩
      rintro ⟨ending, hending⟩
      exact hsettled ⟨ending, (List.mem_cons.1 hending).resolve_left (hcall ending).symm⟩
    cases call with
    | handle event =>
      exact hgoes (fun _ => nofun) (fun e he => hwritable e (List.mem_cons_of_mem event he))
        (delivers_handle hsound hrecording (hwritable event List.mem_cons_self) htime)
    | poll now => exact hgoes (fun _ => nofun) hwritable (delivers_poll hsound htime)
    | flush now =>
      exact hgoes (fun _ => nofun) hwritable ((delivers_flush hsound htime).mono fun _ _ h => h.1)
    | stop now =>
      -- What comes after the end returns nothing and changes nothing.
      have hstop : Delivers (run (.stop now)) capture fun actions after =>
          capture.Grows Safe [] actions after ∧ after.isRecording = false ∧ after.pending = [] :=
        (delivers_stop hsound hrecording htime).bind fun _ _ h => .pure h
      refine hstop.bind ?_
      rintro actions middle ⟨hgrows, hended, hpending⟩
      refine (delivers_ended hended hpending calls).bind ?_
      rintro lists after ⟨hlists, rfl⟩
      refine .pure ⟨?_, fun _ => hpending⟩
      rw [List.flatten_cons, hlists, List.append_nil]
      exact hgrows

theorem delivers_calls (calls : List (CaptureCall τ)) {capture : Capture τ}
    (hsound : capture.Sound Safe) (hrecording : capture.isRecording = true)
    (htimes : ∀ call ∈ calls, Safe call.time)
    (hwritable : ∀ event ∈ heard calls, event.IsWritable) :
    Delivers (calls.mapM run) capture fun lists after =>
      capture.Grows Safe
        (Contribution.ofReports capture.settings.layout capture.held (heard calls)) lists.flatten
        after :=
  (delivers_calls_settled calls hsound hrecording htimes hwritable).mono fun _ _ h => h.1

/-! ## The law -/

/-- **Calls keep every report**: they all end well, what they return is what is recorded, and what is
recorded holds, with the characters that wait, what the reports contribute. -/
def KeepsReports (capture : Capture τ) (begin : τ) (calls : List (CaptureCall τ)) : Prop :=
  ∃ lists after, (capture.start begin).step (calls.mapM run) = (.ok lists, after)
    ∧ lists.flatten = after.recorded
    ∧ after.recorded.flatMap Contribution.ofAction ++ after.waiting
      = Contribution.ofReports capture.settings.layout .none (heard calls)

/-- A recording that starts at a safe moment is sound. -/
theorem sound_start {capture : Capture τ} {begin : τ}
    (steady : Timeline.Steady capture.settings.quiet Safe) (hbegin : Safe begin) :
    (capture.start begin).Sound Safe :=
  ⟨steady, hbegin, hbegin, by simp [start]⟩

/-- **No report is lost, doubled or moved**, in whatever order the calls come. -/
theorem keeps_reports (capture : Capture Quantity) (begin : Quantity)
    (calls : List (CaptureCall Quantity)) {interval : Int} {quiet : Binary64}
    (hinterval : Pause.seconds interval = .ok quiet) (hquiet : capture.settings.quiet = .real quiet)
    (hgaps : ∀ a ∈ begin :: calls.map time, ∀ b ∈ begin :: calls.map time,
      Quantity.HasFiniteGap a b)
    (hwritable : ∀ event ∈ heard calls, event.IsWritable) : capture.KeepsReports begin calls := by
  obtain ⟨hfinite, hsign⟩ := Quantity.seconds_finite hinterval
  have hsteady := Quantity.steady_between hgaps hfinite hsign
  rw [← hquiet] at hsteady
  have hbetween : ∀ a ∈ begin :: calls.map time, Quantity.Between _ a :=
    fun a ha => Quantity.between_of_mem hgaps ha
  have hsound : (capture.start begin).Sound _ :=
    sound_start hsteady (hbetween begin List.mem_cons_self)
  obtain ⟨lists, after, hstep, hgrows⟩ := delivers_calls calls hsound rfl
    (fun call hcall => hbetween _ (List.mem_cons_of_mem _ (List.mem_map_of_mem hcall))) hwritable
  have hrecorded : after.recorded = lists.flatten := hgrows.recorded
  refine ⟨lists, after, hstep, hrecorded.symm, ?_⟩
  rw [hrecorded]
  exact hgrows.content

/-- The usual way to record. -/
def usual : Capture Quantity :=
  .initial ⟨.real (Binary64.div (.ofInt 750) (.ofInt 1000)), .german, 10, fun _ => ""⟩ (.whole 0)

/-- Two characters, the second of them typed late and with shift; a shortcut and a step of the wheel
at moments before that; and a key that goes down after the end. -/
def mixedCalls : List (CaptureCall Quantity) :=
  [.handle (.key ⟨"h", true, .real (.ofInt 1)⟩), .poll (.real (.ofInt 3)),
    .handle (.key ⟨"shift", true, .real (.ofInt 4)⟩), .handle (.key ⟨"D1", true, .whole 5⟩),
    .handle (.key ⟨"ctrl", true, .real (.ofInt 2)⟩), .handle (.key ⟨"c", true, .whole 2⟩),
    .handle (.mouse ⟨7, -8, "", .real (.ofInt 1), -120⟩), .stop (.real (.ofInt 6)),
    .handle (.key ⟨"x", true, .whole 7⟩)]

theorem keeps_reports_mixed :
    Pause.seconds 750 = .ok (Binary64.div (.ofInt 750) (.ofInt 1000))
    ∧ usual.settings.quiet = .real (Binary64.div (.ofInt 750) (.ofInt 1000))
    ∧ (∀ a ∈ .whole 0 :: mixedCalls.map time, ∀ b ∈ .whole 0 :: mixedCalls.map time,
      Quantity.HasFiniteGap a b)
    ∧ (∀ event ∈ heard mixedCalls, event.IsWritable)
    ∧ usual.KeepsReports (.whole 0) mixedCalls := by
  have hinterval : Pause.seconds 750 = .ok (Binary64.div (.ofInt 750) (.ofInt 1000)) := by rfl
  have hgaps : ∀ a ∈ Quantity.whole 0 :: mixedCalls.map time,
      ∀ b ∈ Quantity.whole 0 :: mixedCalls.map time, Quantity.HasFiniteGap a b := by
    decide +kernel
  have hwritable : ∀ event ∈ heard mixedCalls, event.IsWritable := by decide
  exact ⟨hinterval, rfl, hgaps, hwritable,
    keeps_reports usual (.whole 0) mixedCalls hinterval rfl hgaps hwritable⟩

/-! ## Where calls fail -/

/-- The moment of the last key has to have a double, or else a look at the clock fails while
something waits. -/
theorem step_poll_error {capture : Capture τ} (hpending : capture.pending ≠ []) {now : τ}
    {cause : Cause}
    (h : Timeline.after capture.lastKey capture.settings.quiet = .error cause) :
    capture.step (poll now) = (.error cause, capture) := by
  change capture.step (if capture.pending.isEmpty then _ else _) = _
  rw [if_neg (by simpa using hpending), h]
  rfl

/-- A report of the mouse with a number that cannot be written fails. -/
theorem step_handleMouse_error {capture : Capture τ} (hrecording : capture.isRecording = true)
    (hpending : capture.pending = []) {event : MouseEvent τ} (h : ¬event.IsWritable) :
    capture.step (handleMouse event) = (.error .numberUnwritable, capture) := by
  change capture.step (if !capture.isRecording then _ else _) = _
  rw [if_neg (by simp [hrecording]), step_bind_ok (step_poll_nil hpending _),
    step_bind_ok (step_flush_nil hpending _)]
  exact step_bind_error (step_emitMouse_error h capture)

/-- Calls of which one fails keep no reports. -/
theorem not_keepsReports {capture : Capture τ} {begin : τ} {calls : List (CaptureCall τ)}
    {cause : Cause} {after : Capture τ}
    (h : (capture.start begin).step (calls.mapM run) = (.error cause, after)) :
    ¬capture.KeepsReports begin calls := by
  rintro ⟨lists, last, hstep, -⟩
  rw [h] at hstep
  cases hstep

theorem step_typing (t : Quantity) : (usual.start t).step (run (.handle (.key ⟨"A", true, t⟩)))
    = (.ok [], (usual.start t).gather "A" t) := by
  have hname : Key.normalize "A" = "A" := by decide
  change (usual.start t).step (handleKey ⟨"A", true, t⟩) = _
  unfold handleKey
  dsimp only
  rw [hname]
  rfl

/-- At a moment that has no double, a character that waits makes the next look at the clock fail. -/
theorem step_distant {t : Quantity} {cause : Cause} (h : t.toDouble = .error cause)
    (calls : List (CaptureCall Quantity)) :
    (usual.start t).step ((.handle (.key ⟨"A", true, t⟩) :: .poll t :: calls).mapM run)
      = (.error cause, (usual.start t).gather "A" t) := by
  have hdeadline : Timeline.after t usual.settings.quiet = .error cause := by
    change Quantity.combine _ _ t (.real _) = _
    unfold Quantity.combine
    rw [h]
    cases t.wholeNumber? <;> rfl
  have hpoll : ((usual.start t).gather "A" t).step (run (.poll t))
      = (.error cause, (usual.start t).gather "A" t) :=
    step_poll_error (by simp [gather, start]) hdeadline
  rw [List.mapM_cons, step_bind_ok (step_typing t), List.mapM_cons]
  exact step_bind_error (step_bind_error hpoll)

/-- A report of the mouse with a number that cannot be written makes calls fail. -/
theorem step_vast {event : MouseEvent Quantity} (h : ¬event.IsWritable) (begin : Quantity)
    (calls : List (CaptureCall Quantity)) :
    (usual.start begin).step ((.handle (.mouse event) :: calls).mapM run)
      = (.error .numberUnwritable, usual.start begin) := by
  rw [List.mapM_cons]
  exact step_bind_error (step_handleMouse_error rfl rfl h)

theorem toDouble_distant : (Quantity.whole (10 ^ 400)).toDouble = .error .beyondDouble := by
  have hinfinite : (Binary64.ofInt (10 ^ 400)).isFinite = false := by decide +kernel
  unfold Quantity.toDouble Binary64.ofInt?
  dsimp only
  rw [hinfinite]
  rfl

theorem milliseconds_distant :
    Timeline.milliseconds (Quantity.whole (10 ^ 400)) (.whole (10 ^ 400)) = .ok 0 := by
  rw [Quantity.milliseconds_of_whole rfl rfl, sub_self, zero_mul]

theorem not_isWritable_vast :
    ¬(⟨10 ^ 4300, 0, "left", .whole 0, 0⟩ : MouseEvent Quantity).IsWritable := by
  rintro ⟨hx, -⟩
  exact Integer.not_isWritable_pow (Nat.le_refl _) hx

/-- **Beyond doubles, and beyond what can be written, reports are lost**, although no time passes. -/
theorem reports_lost_beyond_limits :
    ¬usual.KeepsReports (.whole (10 ^ 400))
        [.handle (.key ⟨"A", true, .whole (10 ^ 400)⟩), .poll (.whole (10 ^ 400))]
      ∧ Timeline.milliseconds (Quantity.whole (10 ^ 400)) (.whole (10 ^ 400)) = .ok 0
    ∧ ¬usual.KeepsReports (.whole 0) [.handle (.mouse ⟨10 ^ 4300, 0, "left", .whole 0, 0⟩)]
      ∧ Timeline.milliseconds (Quantity.whole 0) (.whole 0) = .ok 0 := by
  exact ⟨not_keepsReports (step_distant toDouble_distant []), milliseconds_distant,
    not_keepsReports (step_vast not_isWritable_vast _ []), rfl⟩

end Capture
end DesktopMacro
