/-
The delays of a recording add up to the time that it took.

The delay of an action is the gap from the action before it, and a gap that is negative counts as
none. No gap is negative as long as the clock does not go back: what waits was gathered after the
last action, so its interval ends after that, too, and the end of an interval that is over is not
later than the call that notices. So each action is recorded as of a moment that is not before that
of the action before it, each delay is exactly the gap between the two, and all of them together
are the time from the start to the last action.

That takes a clock that is exact. Seconds in fractions are one, at moments of whole milliseconds.
-/
import Mathlib.Tactic.Ring
import DesktopMacro.Proofs.Record.Emissions

set_option autoImplicit false

namespace DesktopMacro

/-! ## Exact clocks -/

/-- **A clock that is exact** at some moments: the milliseconds between two of them are those on a
scale, and where an interval that began at one of them is over at another, it ended between them, at
such a moment. -/
structure Timeline.Exact {τ : Type} [Timeline τ] (quiet : τ) (Safe : τ → Prop) (scale : τ → ℚ) :
    Prop where
  gap : ∀ a b, Safe a → Safe b →
    ∃ n : ℤ, Timeline.milliseconds a b = .ok n ∧ (n : ℚ) = scale b - scale a
  deadline : ∀ last now d, Safe last → Safe now → Timeline.after last quiet = .ok d →
    Timeline.isBefore now d = false → Safe d ∧ scale last ≤ scale d ∧ scale d ≤ scale now

/-- The delay of what was recorded. -/
def Emission.delay {τ : Type} (emission : Emission τ) : ℤ := emission.action.header.delayBefore

section Punctual

variable {τ : Type} (scale : τ → ℚ)

/-- **Actions that follow a moment punctually**: each is recorded as of a moment that is not before
the last one, and its delay is exactly the gap between the two. -/
def Punctual : (last : τ) → List (Emission τ) → Prop
  | _, [] => True
  | last, emission :: emissions =>
    scale last ≤ scale emission.stamp ∧ (emission.delay : ℚ) = scale emission.stamp - scale last
      ∧ Punctual emission.stamp emissions

/-- The moment that the last action is recorded as of. -/
def lastStamp (begin : τ) (emissions : List (Emission τ)) : τ :=
  emissions.foldl (fun _ emission => emission.stamp) begin

variable {scale}

theorem punctual_append {begin : τ} {first rest : List (Emission τ)} :
    Punctual scale begin (first ++ rest)
      ↔ Punctual scale begin first ∧ Punctual scale (lastStamp begin first) rest := by
  induction first generalizing begin with
  | nil => simp [Punctual, lastStamp]
  | cons emission first ih =>
    simp only [List.cons_append, Punctual, ih, and_assoc]
    rfl

/-- **Delays of punctual actions add up** to the time until the last one. -/
theorem Punctual.sum_delay {begin : τ} {emissions : List (Emission τ)}
    (h : Punctual scale begin emissions) :
    (((emissions.map Emission.delay).sum : ℤ) : ℚ)
      = scale (lastStamp begin emissions) - scale begin := by
  induction emissions generalizing begin with
  | nil => simp [lastStamp]
  | cons emission emissions ih =>
    obtain ⟨-, hdelay, hrest⟩ := h
    have hsum := ih hrest
    rw [List.map_cons, List.sum_cons, Int.cast_add, hdelay, hsum]
    change _ = scale (lastStamp emission.stamp emissions) - scale begin
    ring

end Punctual

/-! ## Recordings in time -/

namespace Capture

variable {τ : Type} [Timeline τ] {Safe : τ → Prop} {scale : τ → ℚ} {now : τ}

/-- **A recording that is on time**: what it remembers is not later than now, and what waits was
gathered after the last action. -/
structure Timely (Safe : τ → Prop) (scale : τ → ℚ) (now : τ) (capture : Capture τ) : Prop where
  clock : Timeline.Exact capture.settings.quiet Safe scale
  lastKey : Safe capture.lastKey ∧ scale capture.lastKey ≤ scale now
  lastEmission : Safe capture.lastEmission ∧ scale capture.lastEmission ≤ scale now
  gathered : capture.pending ≠ [] → scale capture.lastEmission ≤ scale capture.lastKey

theorem Timely.later {capture : Capture τ} (h : capture.Timely Safe scale now) {later : τ}
    (hlater : scale now ≤ scale later) : capture.Timely Safe scale later :=
  ⟨h.clock, ⟨h.lastKey.1, h.lastKey.2.trans hlater⟩,
    ⟨h.lastEmission.1, h.lastEmission.2.trans hlater⟩, h.gathered⟩

/-- A recording that starts is on time. -/
theorem timely_start {capture : Capture τ}
    (hclock : Timeline.Exact capture.settings.quiet Safe scale) (hnow : Safe now) :
    (capture.start now).Timely Safe scale now :=
  ⟨hclock, ⟨hnow, le_rfl⟩, ⟨hnow, le_rfl⟩, fun _ => le_rfl⟩

/-- An action that is recorded as of a moment which is not before the last one is punctual. -/
theorem Timely.punctual {capture : Capture τ} (h : capture.Timely Safe scale now)
    {shown : Action.Header} {task : Action.Task} {stamp : τ} {gap : ℤ}
    (hgap : Timeline.milliseconds capture.lastEmission stamp = .ok gap)
    (hdelay : shown.delayBefore = max 0 gap) (hstamp : Safe stamp)
    (hlast : scale capture.lastEmission ≤ scale stamp) :
    Punctual scale capture.lastEmission [⟨.task shown task, stamp⟩] := by
  obtain ⟨n, hn, hexact⟩ := h.clock.gap _ _ h.lastEmission.1 hstamp
  obtain rfl : n = gap := Except.ok.inj (hn.symm.trans hgap)
  refine ⟨hlast, ?_, trivial⟩
  -- The gap is not negative, so it counts in full.
  have hnonneg : 0 ≤ n := by
    have hcast : (0 : ℚ) ≤ n := by
      rw [hexact]
      exact sub_nonneg.2 hlast
    exact_mod_cast hcast
  change ((shown.delayBefore : ℤ) : ℚ) = _
  rw [hdelay, max_eq_right hnonneg, hexact]

/-- **A move keeps the time**: what comes of it is punctual, and the recording is on time after
it. -/
theorem Timely.moves {call : CaptureCall τ} (htime : Safe call.time) {before after : Capture τ}
    {emissions : List (Emission τ)} (h : before.Timely Safe scale call.time)
    (hmoves : Moves call before emissions after) :
    Punctual scale before.lastEmission emissions
      ∧ after.lastEmission = lastStamp before.lastEmission emissions
      ∧ after.Timely Safe scale call.time := by
  induction hmoves with
  | rests => exact ⟨trivial, rfl, h⟩
  | turns capture key down =>
    rw [setModifier_eq]
    exact ⟨trivial, rfl, h.clock, h.lastKey, h.lastEmission, h.gathered⟩
  | gathers =>
    exact ⟨trivial, rfl, h.clock, ⟨htime, le_rfl⟩, h.lastEmission, fun _ => h.lastEmission.2⟩
  | loses => exact ⟨trivial, rfl, h.clock, h.lastKey, h.lastEmission, fun h => absurd rfl h⟩
  | ends => exact ⟨trivial, rfl, h.clock, h.lastKey, h.lastEmission, h.gathered⟩
  | @types capture after stamp action hpending hstamp hemit =>
    -- What waits was gathered after the last action, and its interval ends later still.
    obtain ⟨hsafe, hlast, hnow⟩ : Safe stamp ∧ scale capture.lastEmission ≤ scale stamp
        ∧ scale stamp ≤ scale call.time := by
      cases hstamp with
      | now => exact ⟨htime, h.lastEmission.2, le_rfl⟩
      | deadline hends hover =>
        obtain ⟨hsafe, hkey, hnow⟩ := h.clock.deadline _ _ _ h.lastKey.1 htime hends hover
        exact ⟨hsafe, (h.gathered hpending).trans hkey, hnow⟩
    obtain ⟨gap, shown, hgap, rfl, hdelay, rfl⟩ := of_step_emit hemit
    exact ⟨h.punctual hgap hdelay hsafe hlast, rfl, h.clock, h.lastKey, ⟨hsafe, hnow⟩,
      fun hwaits => absurd rfl hwaits⟩
  | records hcall hpending hbecomes hemit =>
    obtain ⟨gap, shown, hgap, rfl, hdelay, rfl⟩ := of_step_emit hemit
    exact ⟨h.punctual hgap hdelay htime h.lastEmission.2, rfl, h.clock, h.lastKey,
      ⟨htime, le_rfl⟩, fun hwaits => absurd hpending hwaits⟩
  | follows _ _ ih ih' =>
    obtain ⟨hfirst, hbetween, htimely⟩ := ih h
    obtain ⟨hrest, hafter, htimely'⟩ := ih' htimely
    rw [hbetween] at hrest hafter
    refine ⟨punctual_append.2 ⟨hfirst, hrest⟩, ?_, htimely'⟩
    rw [hafter, lastStamp, lastStamp, lastStamp, List.foldl_append]

/-- **Calls keep the time**, as long as none is made before an earlier one. -/
theorem Timely.runs {calls : List (CaptureCall τ)} {before after : Capture τ}
    {emissions : List (Emission τ)} (h : before.Timely Safe scale now)
    (hsafe : ∀ call ∈ calls, Safe call.time)
    (horder : (now :: calls.map CaptureCall.time).IsChain (scale · ≤ scale ·))
    (hruns : Runs before calls emissions after) :
    Punctual scale before.lastEmission emissions
      ∧ after.lastEmission = lastStamp before.lastEmission emissions := by
  induction hruns generalizing now with
  | done => exact ⟨trivial, rfl⟩
  | call hmoves _ ih =>
    obtain ⟨htime, hsafe⟩ := List.forall_mem_cons.1 hsafe
    obtain ⟨hnow, horder⟩ := List.isChain_cons_cons.1 horder
    obtain ⟨hfirst, hbetween, htimely⟩ := (h.later hnow).moves htime hmoves
    obtain ⟨hrest, hafter⟩ := ih htimely hsafe horder
    rw [hbetween] at hrest hafter
    refine ⟨punctual_append.2 ⟨hfirst, hrest⟩, ?_⟩
    rw [hafter, lastStamp, lastStamp, lastStamp, List.foldl_append]

end Capture

/-! ## Fractions of seconds -/

/-- Seconds in fractions, which are exact; a half millisecond goes to the even neighbour. -/
instance instTimelineRat : Timeline ℚ where
  after := fun moment interval => .ok (moment + interval)
  isBefore := fun first second => decide (first < second)
  milliseconds := fun first second =>
    let gap := (second - first) * 1000
    .ok (gap.num.sign * Int.ofNat (Binary64.roundDiv gap.num.natAbs gap.den))

/-- A moment of whole milliseconds. -/
def IsWholeMilliseconds (moment : ℚ) : Prop := ∃ n : ℤ, moment = n / 1000

theorem Binary64.roundDiv_one (n : ℕ) : roundDiv n 1 = n := by
  simp [roundDiv, Nat.mod_one]

/-- **Between moments of whole milliseconds, the milliseconds are exact.** -/
theorem milliseconds_whole {a b : ℚ} (ha : IsWholeMilliseconds a) (hb : IsWholeMilliseconds b) :
    ∃ n : ℤ, Timeline.milliseconds a b = .ok n ∧ (n : ℚ) = b * 1000 - a * 1000 := by
  obtain ⟨m, rfl⟩ := ha
  obtain ⟨n, rfl⟩ := hb
  have hgap : ((n : ℚ) / 1000 - m / 1000) * 1000 = ((n - m : ℤ) : ℚ) := by
    push_cast
    ring
  refine ⟨n - m, ?_, ?_⟩
  · change Except.ok (_ : ℤ) = _
    rw [hgap, Rat.num_intCast, Rat.den_intCast, Binary64.roundDiv_one]
    exact congrArg Except.ok (Int.sign_mul_natAbs (n - m))
  · push_cast
    ring

/-- **Fractions of seconds are exact at moments of whole milliseconds**, for an interval of whole
milliseconds. -/
theorem exact_whole {quiet : ℚ} (hquiet : IsWholeMilliseconds quiet) (hsign : 0 ≤ quiet) :
    Timeline.Exact quiet IsWholeMilliseconds (· * 1000) where
  gap _ _ := milliseconds_whole
  deadline := by
    rintro last now d ⟨m, rfl⟩ - hd hover
    obtain ⟨n, rfl⟩ := hquiet
    cases hd
    have hnow : (m : ℚ) / 1000 + n / 1000 ≤ now := by simpa [Timeline.isBefore] using hover
    refine ⟨⟨m + n, ?_⟩, ?_, ?_⟩
    · push_cast
      ring
    · linarith
    · linarith

namespace Capture

/-- **The delays of a recording add up**: what comes of its calls is what is recorded. Each action
is recorded as of a moment that is not before that of the action before it, its delay is exactly the
gap between the two, and all delays together are the time from the start to the last action. -/
def DelaysAddUp (capture : Capture ℚ) (begin : ℚ) (calls : List (CaptureCall ℚ)) : Prop :=
  ∃ emissions after, Runs (capture.start begin) calls emissions after
    ∧ after = (capture.start begin).feed calls
    ∧ after.recorded = emissions.map Emission.action
    ∧ after.lastEmission = lastStamp begin emissions
    ∧ Punctual (· * 1000) begin emissions
    ∧ (((after.recorded.map fun action => action.header.delayBefore).sum : ℤ) : ℚ)
      = (after.lastEmission - begin) * 1000

/-- **Delays add up to the time that was recorded**, if calls are made one after the other at
moments of whole milliseconds: reports, looks at the clock, and the end. -/
theorem delays_add_up (capture : Capture ℚ) (begin : ℚ) (calls : List (CaptureCall ℚ)) {quiet : ℤ}
    (hquiet : capture.settings.quiet = ((max 0 quiet : ℤ) : ℚ) / 1000)
    (hwhole : ∀ moment ∈ begin :: calls.map CaptureCall.time, IsWholeMilliseconds moment)
    (horder : (begin :: calls.map CaptureCall.time).Pairwise (· ≤ ·)) :
    capture.DelaysAddUp begin calls := by
  have hsign : (0 : ℚ) ≤ ((max 0 quiet : ℤ) : ℚ) / 1000 := by
    have hmax : (0 : ℚ) ≤ ((max 0 quiet : ℤ) : ℚ) := by exact_mod_cast le_max_left 0 quiet
    positivity
  have hclock := exact_whole ⟨max 0 quiet, rfl⟩ hsign
  rw [← hquiet] at hclock
  obtain ⟨hbegin, hcalls⟩ := List.forall_mem_cons.1 hwhole
  have hsafe : ∀ call ∈ calls, IsWholeMilliseconds call.time :=
    fun call hcall => hcalls _ (List.mem_map_of_mem hcall)
  have hchain : (begin :: calls.map CaptureCall.time).IsChain
      fun a b => a * 1000 ≤ b * 1000 :=
    (horder.imp fun hle => mul_le_mul_of_nonneg_right hle (by norm_num)).isChain
  obtain ⟨emissions, hruns⟩ := exists_runs (capture.start begin) calls
  obtain ⟨hpunctual, hlast⟩ : Punctual (· * 1000) begin emissions
      ∧ ((capture.start begin).feed calls).lastEmission = lastStamp begin emissions :=
    (timely_start hclock hbegin).runs hsafe hchain hruns
  have hrecorded : ((capture.start begin).feed calls).recorded
      = emissions.map Emission.action := hruns.recorded
  refine ⟨emissions, _, hruns, rfl, hrecorded, hlast, hpunctual, ?_⟩
  rw [hrecorded, hlast, List.map_map]
  exact hpunctual.sum_delay.trans (sub_mul _ _ _).symm

/-- A way to record with an interval of 750 milliseconds. -/
def inFractions : Capture ℚ := .initial ⟨750 / 1000, .german, 10, fun _ => ""⟩ 0

/-- A letter whose interval is over before the wheel turns, a letter that waits for a shortcut, and
one that waits for the end. -/
def spreadCalls : List (CaptureCall ℚ) :=
  [.handle (.key ⟨"h", true, 1⟩), .poll (3 / 2), .handle (.mouse ⟨7, -8, "", 2, -120⟩),
    .handle (.key ⟨"i", true, 2⟩), .handle (.key ⟨"ctrl", true, 21 / 10⟩),
    .handle (.key ⟨"c", true, 22 / 10⟩), .handle (.key ⟨"ctrl", false, 3⟩),
    .handle (.key ⟨"x", true, 31 / 10⟩), .stop (32 / 10)]

theorem delays_add_up_spread :
    inFractions.settings.quiet = ((max 0 750 : ℤ) : ℚ) / 1000
    ∧ (∀ moment ∈ (0 : ℚ) :: spreadCalls.map CaptureCall.time, IsWholeMilliseconds moment)
    ∧ ((0 : ℚ) :: spreadCalls.map CaptureCall.time).Pairwise (· ≤ ·)
    ∧ inFractions.DelaysAddUp 0 spreadCalls := by
  have hquiet : inFractions.settings.quiet = ((max 0 750 : ℤ) : ℚ) / 1000 := by
    norm_num [inFractions, initial]
  have hwhole : ∀ moment ∈ (0 : ℚ) :: spreadCalls.map CaptureCall.time,
      IsWholeMilliseconds moment := by
    have hcount : ((0 : ℚ) :: spreadCalls.map CaptureCall.time)
        = [0, 1000, 1500, 2000, 2000, 2100, 2200, 3000, 3100, 3200].map fun n : ℤ =>
          (n : ℚ) / 1000 := by
      decide +kernel
    intro moment hmoment
    obtain ⟨n, -, rfl⟩ := List.mem_map.1 (hcount ▸ hmoment)
    exact ⟨n, rfl⟩
  have horder : ((0 : ℚ) :: spreadCalls.map CaptureCall.time).Pairwise (· ≤ ·) := by
    decide +kernel
  exact ⟨hquiet, hwhole, horder, delays_add_up inFractions 0 spreadCalls hquiet hwhole horder⟩

example : ((inFractions.start 0).feed spreadCalls).recorded.map (fun action =>
    action.header.delayBefore) = [1750, 250, 200, 0, 1000] := by decide +kernel

end Capture
end DesktopMacro
