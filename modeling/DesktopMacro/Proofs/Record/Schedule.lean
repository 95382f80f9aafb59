/-
Threads that share a recorder.

The hooks put reports into the queue, the worker takes them out, and somebody starts and stops
recordings. Each of these threads goes on by turns so small that none comes between what one of them
does: the queue is locked while something is put in or taken out, and the recording is touched by
nobody but the worker as long as there is one. Whose turn is next is up to a schedule, and a
schedule is any list of turns. A thread that has to wait, for room in the queue or for the worker to
go, does nothing at its turn.

A call of `stop` looks once whether the worker is there. If it is, the call puts the mark into the
queue, however long that takes, and waits until the worker has gone. In any case it ends the
recording then and returns it. Calls of `start` and `stop` come one after the other.

The turns are smaller than the functions on a recorder, which let the worker take an item and deal
with it at once. The last section shows that these functions are schedules themselves.
-/
import DesktopMacro.Proofs.Record.Idle
import DesktopMacro.Proofs.Turns
import DesktopMacro.Record.Recorder

set_option autoImplicit false

namespace DesktopMacro

namespace Recorder

/-! ## Turns and what comes of them -/

/-- What the worker has in hand. -/
inductive Hand (τ : Type) where
  /-- Nothing; it asks the queue next. -/
  | nothing
  /-- It waited for the queue in vain, and looks at the clock next. -/
  | vain
  | report (event : InputEvent τ)
  | mark

/-- How far a call of `stop` has come, if there is one. -/
inductive Stopping where
  | uncalled
  /-- The worker was there, and the mark is still to be put. -/
  | asking
  /-- Nothing is left to do but to wait until the worker has gone. -/
  | waiting
deriving DecidableEq, Repr

/-- A turn of one of the threads. -/
inductive Turn (τ : Type) where
  /-- A hook puts a report into the queue. -/
  | push (event : InputEvent τ)
  /-- A recording is to start. -/
  | start (now : τ)
  /-- A recording is to stop. -/
  | stop
  /-- The call of `stop` goes on. -/
  | wait (now : τ)
  /-- The worker goes on. -/
  | work (now : τ)

/-- What can come of a turn. -/
inductive Deed (τ : Type) where
  | pushed (event : InputEvent τ) (taken : Bool)
  | started (now : τ)
  | marked
  /-- The worker gave a report to the recording. -/
  | handed (event : InputEvent τ)
  /-- The worker had the recording look at the clock, and that went well or failed. -/
  | looked (now : τ) (fine : Bool)
  /-- The worker met the mark, ended the recording and went. -/
  | ended (now : τ)
  /-- A call of `stop` returned a recording. -/
  | returned (now : τ) (actions : List Action)

/-- **A recorder that threads share.** -/
structure Shared (τ : Type) where
  recorder : Recorder τ
  hand : Hand τ
  stopping : Stopping

namespace Shared

variable {τ : Type}

/-- A recorder that nobody uses. -/
def atRest (recorder : Recorder τ) : Shared τ := ⟨recorder, .nothing, .uncalled⟩

/-- The worker asks the queue for an item. -/
def fetch (shared : Shared τ) : Shared τ :=
  match shared.recorder.queue with
  | [] => { shared with hand := .vain }
  | .event event :: queue =>
    { shared with recorder := { shared.recorder with queue }, hand := .report event }
  | .stop :: queue => { shared with recorder := { shared.recorder with queue }, hand := .mark }

variable [Timeline τ]

/-- The worker goes on with what it has in hand. It does not survive a failing look at the clock. -/
def work (shared : Shared τ) (now : τ) : List (Deed τ) × Shared τ :=
  let recorder := shared.recorder
  match shared.hand with
  | .nothing => ([], shared.fetch)
  | .vain =>
    let (result, capture) := recorder.capture.step (Capture.poll now)
    ([.looked now result.isOk], { shared with
      recorder := { recorder with capture, isRunning := result.isOk }, hand := .nothing })
  | .report event =>
    let capture := (recorder.capture.step (Capture.handle event)).2
    ([.handed event], { shared with recorder := { recorder with capture }, hand := .nothing })
  | .mark =>
    let capture := Recorder.ended recorder.capture now
    ([.ended now], { shared with
      recorder := { recorder with capture, isRunning := false }, hand := .nothing })

/-- A call of `stop` goes on. -/
def wait (shared : Shared τ) (now : τ) : List (Deed τ) × Shared τ :=
  let recorder := shared.recorder
  match shared.stopping with
  | .uncalled => ([], shared)
  | .asking =>
    if recorder.isFull then ([], shared)
    else ([.marked], { shared with
      recorder := { recorder with queue := recorder.queue ++ [.stop] }, stopping := .waiting })
  | .waiting =>
    if recorder.isRunning then ([], shared)
    else
      let capture := Recorder.ended recorder.capture now
      ([.returned now capture.recorded],
        { shared with recorder := { recorder with capture }, stopping := .uncalled })

/-- **A turn**: what comes of it, and the recorder afterwards. -/
def turn (shared : Shared τ) : Turn τ → List (Deed τ) × Shared τ
  | .push event =>
    let (taken, recorder) := shared.recorder.push event
    ([.pushed event taken], { shared with recorder })
  | .start now =>
    if shared.recorder.isRunning || shared.stopping != .uncalled then ([], shared)
    else ([.started now], { shared with recorder := shared.recorder.start now })
  | .stop =>
    if shared.stopping = .uncalled then
      ([], { shared with stopping := if shared.recorder.isRunning then .asking else .waiting })
    else ([], shared)
  | .wait now => shared.wait now
  | .work now => if shared.recorder.isRunning then shared.work now else ([], shared)

/-- The recorder after a schedule. -/
def after (shared : Shared τ) (turns : List (Turn τ)) : Shared τ := Turns.after turn shared turns

/-- What comes of a schedule. -/
def deeds (shared : Shared τ) (turns : List (Turn τ)) : List (Deed τ) :=
  Turns.deeds turn shared turns

theorem after_cons (shared : Shared τ) (turn : Turn τ) (turns : List (Turn τ)) :
    shared.after (turn :: turns) = (shared.turn turn).2.after turns := rfl

theorem deeds_cons (shared : Shared τ) (turn : Turn τ) (turns : List (Turn τ)) :
    shared.deeds (turn :: turns) = (shared.turn turn).1 ++ (shared.turn turn).2.deeds turns := rfl

theorem after_append (shared : Shared τ) (turns more : List (Turn τ)) :
    shared.after (turns ++ more) = (shared.after turns).after more :=
  Turns.after_append shared turns more

end Shared

/-! ## What a turn can do -/

namespace Shared

variable {τ : Type} [Timeline τ]

/-- **Everything that a turn can do**, with what comes of it. -/
inductive Moves : Shared τ → List (Deed τ) → Shared τ → Prop
  | rests (shared : Shared τ) : Moves shared [] shared
  | pushes {capture queue capacity isRunning hand stopping} (event : InputEvent τ)
      (hroom : isFull ⟨capture, queue, capacity, isRunning⟩ = false) :
      Moves ⟨⟨capture, queue, capacity, isRunning⟩, hand, stopping⟩ [.pushed event true]
        ⟨⟨capture, queue ++ [.event event], capacity, isRunning⟩, hand, stopping⟩
  | refuses {shared} (event : InputEvent τ) (hfull : shared.recorder.isFull = true) :
      Moves shared [.pushed event false] shared
  | starts {capture queue capacity hand} (now : τ) :
      Moves ⟨⟨capture, queue, capacity, false⟩, hand, .uncalled⟩ [.started now]
        ⟨⟨capture.start now, queue, capacity, true⟩, hand, .uncalled⟩
  | asks {capture queue capacity hand} :
      Moves ⟨⟨capture, queue, capacity, true⟩, hand, .uncalled⟩ []
        ⟨⟨capture, queue, capacity, true⟩, hand, .asking⟩
  | asksNobody {capture queue capacity hand} :
      Moves ⟨⟨capture, queue, capacity, false⟩, hand, .uncalled⟩ []
        ⟨⟨capture, queue, capacity, false⟩, hand, .waiting⟩
  | marks {capture queue capacity isRunning hand}
      (hroom : isFull ⟨capture, queue, capacity, isRunning⟩ = false) :
      Moves ⟨⟨capture, queue, capacity, isRunning⟩, hand, .asking⟩ [.marked]
        ⟨⟨capture, queue ++ [.stop], capacity, isRunning⟩, hand, .waiting⟩
  | returns {capture queue capacity hand} (now : τ) :
      Moves ⟨⟨capture, queue, capacity, false⟩, hand, .waiting⟩
        [.returned now (Recorder.ended capture now).recorded]
        ⟨⟨Recorder.ended capture now, queue, capacity, false⟩, hand, .uncalled⟩
  | waitsInVain {capture capacity stopping} :
      Moves ⟨⟨capture, [], capacity, true⟩, .nothing, stopping⟩ []
        ⟨⟨capture, [], capacity, true⟩, .vain, stopping⟩
  | takes {capture queue capacity stopping} (event : InputEvent τ) :
      Moves ⟨⟨capture, .event event :: queue, capacity, true⟩, .nothing, stopping⟩ []
        ⟨⟨capture, queue, capacity, true⟩, .report event, stopping⟩
  | takesMark {capture queue capacity stopping} :
      Moves ⟨⟨capture, .stop :: queue, capacity, true⟩, .nothing, stopping⟩ []
        ⟨⟨capture, queue, capacity, true⟩, .mark, stopping⟩
  | looks {capture queue capacity stopping} (now : τ) :
      Moves ⟨⟨capture, queue, capacity, true⟩, .vain, stopping⟩
        [.looked now (capture.step (Capture.poll now)).1.isOk]
        ⟨⟨(capture.step (Capture.poll now)).2, queue, capacity,
          (capture.step (Capture.poll now)).1.isOk⟩, .nothing, stopping⟩
  | hands {capture queue capacity stopping} (event : InputEvent τ) :
      Moves ⟨⟨capture, queue, capacity, true⟩, .report event, stopping⟩ [.handed event]
        ⟨⟨(capture.step (Capture.handle event)).2, queue, capacity, true⟩, .nothing, stopping⟩
  | ends {capture queue capacity stopping} (now : τ) :
      Moves ⟨⟨capture, queue, capacity, true⟩, .mark, stopping⟩ [.ended now]
        ⟨⟨Recorder.ended capture now, queue, capacity, false⟩, .nothing, stopping⟩

theorem moves_turn (shared : Shared τ) (turn : Turn τ) :
    Moves shared (shared.turn turn).1 (shared.turn turn).2 := by
  obtain ⟨⟨capture, queue, capacity, isRunning⟩, hand, stopping⟩ := shared
  cases turn with
  | push event =>
    by_cases hfull : isFull ⟨capture, queue, capacity, isRunning⟩ = true
    · have hpush : push ⟨capture, queue, capacity, isRunning⟩ event = (false, _) := if_pos hfull
      rw [Shared.turn, hpush]
      exact .refuses event hfull
    · have hpush : push ⟨capture, queue, capacity, isRunning⟩ event = (true, _) := if_neg hfull
      rw [Shared.turn, hpush]
      exact .pushes event (Bool.eq_false_iff.2 hfull)
  | start now =>
    cases isRunning with
    | true => exact .rests _
    | false =>
      cases stopping with
      | uncalled => exact .starts now
      | asking => exact .rests _
      | waiting => exact .rests _
  | stop =>
    cases stopping with
    | uncalled =>
      cases isRunning with
      | true => exact .asks
      | false => exact .asksNobody
    | asking => exact .rests _
    | waiting => exact .rests _
  | wait now =>
    cases stopping with
    | uncalled => exact .rests _
    | asking =>
      by_cases hfull : isFull ⟨capture, queue, capacity, isRunning⟩ = true
      · have hwait : wait ⟨⟨capture, queue, capacity, isRunning⟩, hand, .asking⟩ now = ([], _) :=
          if_pos hfull
        rw [Shared.turn, hwait]
        exact .rests _
      · have hwait : wait ⟨⟨capture, queue, capacity, isRunning⟩, hand, .asking⟩ now
            = ([.marked], _) := if_neg hfull
        rw [Shared.turn, hwait]
        exact .marks (Bool.eq_false_iff.2 hfull)
    | waiting =>
      cases isRunning with
      | true => exact .rests _
      | false => exact .returns now
  | work now =>
    cases isRunning with
    | false => exact .rests _
    | true =>
      cases hand with
      | nothing =>
        match queue with
        | [] => exact .waitsInVain
        | .event event :: queue => exact .takes event
        | .stop :: queue => exact .takesMark
      | vain => exact .looks now
      | report event => exact .hands event
      | mark => exact .ends now

/-- **What every turn keeps, every schedule keeps**: something that is said of a recorder and of
what has come of it so far. -/
theorem invariant {P : List (Deed τ) → Shared τ → Prop}
    (hstep : ∀ {past shared deeds next}, Moves shared deeds next → P past shared →
      P (past ++ deeds) next)
    {past : List (Deed τ)} {shared : Shared τ} (h : P past shared) (turns : List (Turn τ)) :
    P (past ++ shared.deeds turns) (shared.after turns) := by
  have hturn : ∀ past shared (next : Turn τ), True → P past shared →
      P (past ++ (turn shared next).1) (turn shared next).2 :=
    fun _ shared next _ h => hstep (moves_turn shared next) h
  exact Turns.invariant hturn h fun _ _ => trivial

end Shared

/-! ## What the deeds tell -/

namespace Hand

variable {τ : Type}

/-- What the worker has taken out of the queue. -/
def items : Hand τ → List (QueueItem τ)
  | report event => [.event event]
  | mark => [.stop]
  | _ => []

end Hand

/-- The reports among the items of a queue. -/
def reports {τ : Type} : List (QueueItem τ) → List (InputEvent τ)
  | [] => []
  | .event event :: items => event :: reports items
  | .stop :: items => reports items

/-- The reports among the items of a queue that come before the first mark. -/
def reportsBeforeMark {τ : Type} : List (QueueItem τ) → List (InputEvent τ)
  | .event event :: items => event :: reportsBeforeMark items
  | _ => []

namespace Deed

variable {τ : Type}

/-- What a deed put into the queue. -/
def entered : Deed τ → List (QueueItem τ)
  | pushed event true => [.event event]
  | marked => [.stop]
  | _ => []

/-- What a deed has dealt with. -/
def served : Deed τ → List (QueueItem τ)
  | handed event => [.event event]
  | ended _ => [.stop]
  | _ => []

/-- What a deed did to the recording. -/
def calls : Deed τ → List (CaptureCall τ)
  | handed event => [.handle event]
  | looked now _ => [.poll now]
  | ended now => [.stop now]
  | returned now _ => [.stop now]
  | _ => []

/-- The reports that were let in. -/
def accepted (deeds : List (Deed τ)) : List (InputEvent τ) := reports (deeds.flatMap entered)

/-- The reports that were let in before the mark. -/
def acceptedBeforeMark (deeds : List (Deed τ)) : List (InputEvent τ) :=
  reportsBeforeMark (deeds.flatMap entered)

/-- The reports that were given to the recording. -/
def delivered (deeds : List (Deed τ)) : List (InputEvent τ) := reports (deeds.flatMap served)

end Deed

/-! ## The functions on a recorder are schedules -/

namespace Shared

variable {τ : Type} [Timeline τ] {recorder : Recorder τ}

/-- A worker that does not run takes no turn. -/
theorem turn_work_stopped {shared : Shared τ} (h : shared.recorder.isRunning = false) (now : τ) :
    shared.turn (.work now) = ([], shared) := by
  rw [turn, h]
  rfl

/-- **To take an item is two turns**: one to fetch it, and one to deal with it. -/
theorem after_work (stopping : Stopping) (now : τ) (hqueue : recorder.queue ≠ []) :
    (⟨recorder, .nothing, stopping⟩ : Shared τ).after [.work now, .work now]
      = ⟨recorder.work now, .nothing, stopping⟩ := by
  by_cases hrunning : recorder.isRunning = true
  · obtain ⟨capture, queue, capacity, isRunning⟩ := recorder
    obtain rfl : isRunning = true := hrunning
    match queue with
    | [] => exact absurd rfl hqueue
    | .event event :: queue => rfl
    | .stop :: queue => rfl
  · rw [Bool.not_eq_true] at hrunning
    rw [after_cons, turn_work_stopped hrunning, after_cons, turn_work_stopped hrunning,
      Recorder.work, hrunning]
    rfl

/-- **To find the queue empty is two turns**: one to wait for it in vain, and one to look at the
clock. -/
theorem after_idle (stopping : Stopping) (now : τ) (hqueue : recorder.queue = []) :
    (⟨recorder, .nothing, stopping⟩ : Shared τ).after [.work now, .work now]
      = ⟨recorder.idle now, .nothing, stopping⟩ := by
  by_cases hrunning : recorder.isRunning = true
  · obtain ⟨capture, queue, capacity, isRunning⟩ := recorder
    obtain rfl : isRunning = true := hrunning
    obtain rfl : queue = [] := hqueue
    rfl
  · rw [Bool.not_eq_true] at hrunning
    rw [after_cons, turn_work_stopped hrunning, after_cons, turn_work_stopped hrunning, idle,
      hrunning]
    rfl

/-- The turns in which the worker takes so many items. -/
def workTurns (now : τ) : (items : Nat) → List (Turn τ)
  | 0 => []
  | items + 1 => [.work now, .work now] ++ workTurns now items

/-- The items that the worker does not take stay. -/
theorem length_queue_work (now : τ) {items : Nat} (h : items + 1 ≤ recorder.queue.length) :
    items ≤ (recorder.work now).queue.length := by
  rw [Recorder.work]
  split
  · split
    · omega
    · next hqueue =>
      rw [hqueue, List.length_cons] at h
      exact Nat.le_of_succ_le_succ h
    · next hqueue =>
      rw [hqueue, List.length_cons] at h
      exact Nat.le_of_succ_le_succ h
  · omega

/-- Taking items one after the other is a schedule. -/
theorem after_workTurns (stopping : Stopping) (now : τ) {items : Nat}
    (h : items ≤ recorder.queue.length) :
    (⟨recorder, .nothing, stopping⟩ : Shared τ).after (workTurns now items)
      = ⟨recorder.workFor now items, .nothing, stopping⟩ := by
  induction items generalizing recorder with
  | zero => rfl
  | succ items ih =>
    have hqueue : recorder.queue ≠ [] := by
      intro hnil
      rw [hnil] at h
      exact absurd h (Nat.not_succ_le_zero items)
    rw [workTurns, after_append, after_work stopping now hqueue, ih (length_queue_work now h)]
    rfl

/-- A worker that does not run takes nothing. -/
theorem workFor_stopped (h : recorder.isRunning = false) (now : τ) (items : Nat) :
    recorder.workFor now items = recorder := by
  induction items with
  | zero => rfl
  | succ items ih =>
    rw [workFor, Recorder.work, if_neg (by simp [h])]
    exact ih

/-- A worker that takes everything meets the mark. -/
theorem isRunning_workFor (capture : Capture τ) (queue : List (QueueItem τ)) (capacity : Option Nat)
    (now : τ) :
    (workFor ⟨capture, queue ++ [.stop], capacity, true⟩ now (queue.length + 1)).isRunning
      = false := by
  induction queue generalizing capture with
  | nil => rfl
  | cons item queue ih =>
    cases item with
    | event event => exact ih _
    | stop =>
      have hstopped : (Recorder.work ⟨capture, .stop :: (queue ++ [.stop]), capacity, true⟩
          now).isRunning = false := rfl
      change (workFor (Recorder.work ⟨capture, .stop :: (queue ++ [.stop]), capacity, true⟩ now) now
        (queue.length + 1)).isRunning = false
      rw [workFor_stopped hstopped]
      exact hstopped

/-- A call of `stop` returns when the worker has gone. -/
theorem wait_gone (h : recorder.isRunning = false) (hand : Hand τ) (now : τ) :
    (⟨recorder, hand, .waiting⟩ : Shared τ).wait now
      = ([.returned now (Recorder.ended recorder.capture now).recorded],
        ⟨{ recorder with capture := Recorder.ended recorder.capture now }, hand, .uncalled⟩) := by
  obtain ⟨capture, queue, capacity, isRunning⟩ := recorder
  obtain rfl : isRunning = false := h
  rfl

/-- **To stop a recording is a schedule**, if there is room for the mark: the mark is put, the
worker takes everything up to it, and the call goes on when the worker has gone. -/
theorem after_stop (now : τ) (hroom : recorder.isFull = false)
    (hrunning : recorder.isRunning = true) :
    (atRest recorder).after
        ([.stop, .wait now] ++ workTurns now (recorder.queue.length + 1) ++ [.wait now])
      = atRest (recorder.stop now) := by
  obtain ⟨capture, queue, capacity, isRunning⟩ := recorder
  obtain rfl : isRunning = true := hrunning
  have hmarked : (atRest ⟨capture, queue, capacity, true⟩).after [.stop, .wait now]
      = ⟨⟨capture, queue ++ [.stop], capacity, true⟩, .nothing, .waiting⟩ := by
    change (wait ⟨⟨capture, queue, capacity, true⟩, .nothing, .asking⟩ now).2 = _
    rw [wait, hroom]
    rfl
  have hlength : (queue ++ [QueueItem.stop]).length = queue.length + 1 := List.length_append
  have hgone := isRunning_workFor capture queue capacity now
  rw [after_append, after_append, hmarked, after_workTurns .waiting now hlength.ge]
  change (wait ⟨_, .nothing, .waiting⟩ now).2 = _
  rw [wait_gone hgone]
  rw [Recorder.stop, requestStop, if_pos rfl, catchUp, hlength]
  rfl

/-- To stop a recording without a worker is a schedule of two turns. -/
theorem after_stop_stopped (now : τ) (hstopped : recorder.isRunning = false) :
    (atRest recorder).after [.stop, .wait now] = atRest (recorder.stop now) := by
  obtain ⟨capture, queue, capacity, isRunning⟩ := recorder
  obtain rfl : isRunning = false := hstopped
  change (wait ⟨_, .nothing, .waiting⟩ now).2 = _
  rw [wait_gone rfl, Recorder.stop, requestStop, if_neg Bool.false_ne_true, catchUp,
    workFor_stopped rfl]
  rfl

end Shared

end Recorder
end DesktopMacro
