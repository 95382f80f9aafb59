/-
The recorder: a queue between the hooks and the recording.

The hooks put what they report into the queue and never wait: when it is full, the report is lost. A
worker takes the reports out one by one. Stopping puts a mark behind what is in the queue; when the
worker meets it, it ends the recording and stops. What is put in after the mark waits for the next
start.
-/
import DesktopMacro.Record.Capture

set_option autoImplicit false

namespace DesktopMacro

/-- What is in the queue: a report, or the mark at which the worker stops. -/
inductive QueueItem (τ : Type) where
  | event (event : InputEvent τ)
  | stop

/-- A recording with its queue and its worker. -/
structure Recorder (τ : Type) where
  capture : Capture τ
  queue : List (QueueItem τ)
  /-- How many items the queue takes; none is no limit. -/
  capacity : Option Nat
  isRunning : Bool

namespace Recorder

variable {τ : Type}

/-- A recorder whose worker does not run. -/
def initial (capture : Capture τ) (capacity : Option Nat) : Recorder τ :=
  { capture, queue := [], capacity, isRunning := false }

def isFull (recorder : Recorder τ) : Bool :=
  match recorder.capacity with
  | none => false
  | some capacity => decide (capacity ≤ recorder.queue.length)

/-- Puts a report into the queue, and says whether there was room. -/
def push (recorder : Recorder τ) (event : InputEvent τ) : Bool × Recorder τ :=
  if recorder.isFull then (false, recorder)
  else (true, { recorder with queue := recorder.queue ++ [.event event] })

/-- Puts reports into the queue, one after the other. -/
def pushAll (recorder : Recorder τ) : List (InputEvent τ) → List Bool × Recorder τ
  | [] => ([], recorder)
  | event :: events =>
    let (taken, recorder) := recorder.push event
    let (more, recorder) := recorder.pushAll events
    (taken :: more, recorder)

/-- Starts a recording and the worker, unless it runs. -/
def start (recorder : Recorder τ) (now : τ) : Recorder τ :=
  if recorder.isRunning then recorder
  else { recorder with capture := recorder.capture.start now, isRunning := true }

/-- Puts the mark behind what is in the queue; that waits for room, however long. -/
def requestStop (recorder : Recorder τ) : Recorder τ :=
  if recorder.isRunning then { recorder with queue := recorder.queue ++ [.stop] } else recorder

variable [Timeline τ]

/-- The recording after it has ended. -/
def ended (capture : Capture τ) (now : τ) : Capture τ := (capture.step (Capture.stop now)).2

/-- The worker takes one item, if it runs and there is one. A report that cannot be used is passed
over. -/
def work (recorder : Recorder τ) (now : τ) : Recorder τ :=
  if recorder.isRunning then
    match recorder.queue with
    | [] => recorder
    | .event event :: queue =>
      { recorder with queue, capture := (recorder.capture.step (Capture.handle event)).2 }
    | .stop :: queue =>
      { recorder with queue, isRunning := false, capture := ended recorder.capture now }
  else recorder

/-- The worker takes up to so many items. -/
def workFor (recorder : Recorder τ) (now : τ) : (items : Nat) → Recorder τ
  | 0 => recorder
  | items + 1 => (recorder.work now).workFor now items

/-- The worker takes what is in the queue. -/
def catchUp (recorder : Recorder τ) (now : τ) : Recorder τ :=
  recorder.workFor now recorder.queue.length

/-- The worker has nothing to do and looks whether a text has been waiting long enough. It does not
survive a failure there. -/
def idle (recorder : Recorder τ) (now : τ) : Recorder τ :=
  if recorder.isRunning && recorder.queue.isEmpty then
    let (result, capture) := recorder.capture.step (Capture.poll now)
    { recorder with capture, isRunning := result.isOk }
  else recorder

/-- Stops the recording, with everything that is in the queue. -/
def stop (recorder : Recorder τ) (now : τ) : Recorder τ :=
  let recorder := recorder.requestStop.catchUp now
  { recorder with capture := ended recorder.capture now }

end Recorder
end DesktopMacro
