/-
A recording session adds to one sequence what was recorded, and nothing else.

Whatever is done to a session, and whichever hooks can be started, the library changes only when a
recording that runs is stopped: its actions go to the end of the sequence of the session's name, or
the sequence is made behind all others. The sequence that was made answers to its name from then on,
since the name has no blanks at its ends. A recording that is stopped does not run any more, so it
is stored once; one without hooks is stopped at once and stored nowhere.

What a recording holds is settled, so a library that was loaded is one that lasts all the time, and
whenever it is saved the file holds what is in memory.
-/
import DesktopMacro.Proofs.Record.Recordings
import DesktopMacro.Proofs.Sequence.Loading
import DesktopMacro.Record.Session

set_option autoImplicit false

namespace DesktopMacro

/-! ## Adding to a sequence -/

namespace Library

/-- **A library with recordings at the end of the sequence of a name**, which is made last of all if
it is missing and there is a recording. -/
inductive Appended (name : String) (recordings : List (List Action)) (original : Library) :
    Library → Prop
  | extended {front back : List Sequence} {sequence : Sequence}
      (horiginal : original = ⟨front ++ sequence :: back⟩)
      (hfront : ∀ other ∈ front, answersTo name other = false)
      (hanswers : answersTo name sequence = true) :
      Appended name recordings original ⟨front ++
        { sequence with actions := sequence.actions ++ recordings.flatten } :: back⟩
  | unchanged (hmissing : original.find? name = none) (hnone : recordings = []) :
      Appended name recordings original original
  | created (id : String) (hmissing : original.find? name = none) (hsome : recordings ≠ []) :
      Appended name recordings original
        ⟨original.sequences ++ [⟨name, "", recordings.flatten, .empty, id⟩]⟩

/-- To begin with, nothing is added. -/
theorem Appended.refl (name : String) (library : Library) : Appended name [] library library := by
  cases hfind : library.find? name with
  | none => exact .unchanged hfind rfl
  | some sequence =>
    obtain ⟨hanswers, front, back, hsequences, hfront⟩ := List.find?_eq_some_iff_append.1 hfind
    have hlibrary : library = ⟨front ++ sequence :: back⟩ := congrArg Library.mk hsequences
    have hself : ({ sequence with actions := sequence.actions ++ ([] : List (List Action)).flatten }
        : Sequence) = sequence := by
      rw [List.flatten_nil, List.append_nil]
    have happended : Appended name [] library ⟨front ++
        { sequence with actions := sequence.actions ++ ([] : List (List Action)).flatten }
          :: back⟩ := .extended hlibrary (by simpa using hfront) hanswers
    rw [hself] at happended
    rwa [← hlibrary] at happended

/-- A library that was loaded from a file, or the empty one for a file that is not there. -/
inductive Opened : Library → Prop
  | empty : Opened .empty
  | loaded {supply : Action.Supply} (hsupply : ∀ place, supply place ≠ "") {tree : FileTree}
      {path : String} {library : Library}
      (h : (Library.load supply tree path).run.1 = .ok library) : Opened library

theorem Opened.lasting {library : Library} (h : library.Opened) : library.Lasting := by
  cases h with
  | empty => exact .empty
  | loaded hsupply h => exact lasting_of_load hsupply h

end Library

namespace RecordingSession

open Library

variable {τ : Type}

/-- **A recording that has started**, whatever has come since then. -/
def HasStarted [Timeline τ] (settings : CaptureSettings τ) (capture : Capture τ) : Prop :=
  ∃ serial begin calls, capture = (Capture.fresh settings serial begin).feed calls

variable [Timeline τ]

theorem HasStarted.feed {settings : CaptureSettings τ} {capture : Capture τ}
    (h : HasStarted settings capture) (calls : List (CaptureCall τ)) :
    HasStarted settings (capture.feed calls) := by
  obtain ⟨serial, begin, earlier, rfl⟩ := h
  exact ⟨serial, begin, earlier ++ calls, (Recorder.Shared.feed_append _ earlier calls).symm⟩

theorem HasStarted.settings {settings : CaptureSettings τ} {capture : Capture τ}
    (h : HasStarted settings capture) : capture.settings = settings := by
  obtain ⟨serial, begin, calls, rfl⟩ := h
  exact Capture.settings_feed _ calls

/-- What has been recorded since the start is settled. -/
theorem HasStarted.settled {settings : CaptureSettings τ} {capture : Capture τ}
    (h : HasStarted settings capture) : ∀ action ∈ capture.recorded, action.Settled 1 := by
  obtain ⟨serial, begin, calls, rfl⟩ := h
  have hstart : ({ Capture.initial settings begin with serial } : Capture τ).start begin
      = .fresh settings serial begin := rfl
  intro action haction
  rw [← hstart] at haction
  exact Capture.settled_of_recorded haction

/-- The worker makes calls on the recording. -/
theorem exists_feed_work (recorder : Recorder τ) (now : τ) :
    ∃ calls, (recorder.work now).capture = recorder.capture.feed calls := by
  unfold Recorder.work
  split
  · split
    · exact ⟨[], rfl⟩
    · next event queue _ => exact ⟨[.handle event], rfl⟩
    · exact ⟨[.stop now], Recorder.Shared.ended_eq_feed recorder.capture now⟩
  · exact ⟨[], rfl⟩

theorem exists_feed_workFor (recorder : Recorder τ) (now : τ) (items : Nat) :
    ∃ calls, (recorder.workFor now items).capture = recorder.capture.feed calls := by
  induction items generalizing recorder with
  | zero => exact ⟨[], rfl⟩
  | succ items ih =>
    obtain ⟨first, hfirst⟩ := exists_feed_work recorder now
    obtain ⟨rest, hrest⟩ := ih (recorder.work now)
    refine ⟨first ++ rest, ?_⟩
    rw [Recorder.workFor, hrest, hfirst, Recorder.Shared.feed_append]

theorem exists_feed_idle (recorder : Recorder τ) (now : τ) :
    ∃ calls, (recorder.idle now).capture = recorder.capture.feed calls := by
  unfold Recorder.idle
  split
  · exact ⟨[.poll now], rfl⟩
  · exact ⟨[], rfl⟩

/-- A recording is stopped with everything that is in the queue. -/
theorem exists_feed_stop (recorder : Recorder τ) (now : τ) :
    ∃ calls, (recorder.stop now).capture = recorder.capture.feed calls := by
  have hcapture : recorder.requestStop.capture = recorder.capture := by
    unfold Recorder.requestStop
    split <;> rfl
  obtain ⟨calls, hcalls⟩ :=
    exists_feed_workFor recorder.requestStop now recorder.requestStop.queue.length
  refine ⟨calls ++ [.stop now], ?_⟩
  rw [Recorder.Shared.feed_append, ← hcapture, ← hcalls]
  exact Recorder.Shared.ended_eq_feed _ now

/-- A recording that was stopped does not run. -/
theorem isRunning_stop (recorder : Recorder τ) (now : τ) :
    (recorder.stop now).isRunning = false := by
  change (recorder.requestStop.catchUp now).isRunning = false
  by_cases hrunning : recorder.isRunning = true
  · obtain ⟨capture, queue, capacity, isRunning⟩ := recorder
    obtain rfl : isRunning = true := hrunning
    have hlength : (queue ++ [QueueItem.stop (τ := τ)]).length = queue.length + 1 :=
      List.length_append
    rw [Recorder.requestStop, if_pos rfl, Recorder.catchUp, hlength]
    exact Recorder.Shared.isRunning_workFor capture queue capacity now
  · rw [Recorder.requestStop, if_neg hrunning, Recorder.catchUp,
      Recorder.Shared.workFor_stopped (Bool.eq_false_iff.2 hrunning)]
    exact Bool.eq_false_iff.2 hrunning

/-! ## What can happen to a session -/

/-- What can happen to a session; other files may have changed by the time it is stopped. -/
inductive Happening (τ : Type) where
  | start (systems : HookKind → ListenerSystem) (now : τ)
  | stop (systems : HookKind → ListenerSystem) (id : String) (now : τ) (files : FileTree)
  | push (event : InputEvent τ)
  | work (now : τ)
  | idle (now : τ)

/-- The session afterwards. -/
def after (session : RecordingSession τ) : Happening τ → RecordingSession τ
  | .start systems now => (session.start systems now).1
  | .stop systems id now files => (session.stop systems id now files).session
  | .push event => session.push event
  | .work now => { session with recorder := session.recorder.work now }
  | .idle now => { session with recorder := session.recorder.idle now }

/-- The recording that is ended by it: a call of `stop` while one runs, if all hooks stop. -/
def ends? (session : RecordingSession τ) : Happening τ → Option (List Action)
  | .stop systems _ now _ =>
    if session.recorder.isRunning && (stopHooks systems session.hooks).1.isOk then
      some (session.recorder.stop now).capture.recorded
    else none
  | _ => none

/-- **The recordings that are ended**, in order. -/
def recordings (session : RecordingSession τ) : List (Happening τ) → List (List Action)
  | [] => []
  | happening :: happenings =>
    (session.ends? happening).toList ++ (session.after happening).recordings happenings

/-! ## Recorders under way -/

/-- **A recorder under way**: recordings are made as the settings say, and one that runs has
started. -/
structure Underway (settings : CaptureSettings τ) (recorder : Recorder τ) : Prop where
  settings_eq : recorder.capture.settings = settings
  started : recorder.isRunning = true → HasStarted settings recorder.capture

/-- Calls on a recording that runs leave the recorder under way. -/
theorem Underway.of_feed {settings : CaptureSettings τ} {recorder next : Recorder τ}
    (h : Underway settings recorder)
    (hcapture : ∃ calls, next.capture = recorder.capture.feed calls)
    (hrunning : next.isRunning = true → recorder.isRunning = true) : Underway settings next := by
  obtain ⟨calls, hcapture⟩ := hcapture
  constructor
  · rw [hcapture, Capture.settings_feed]
    exact h.settings_eq
  · intro hnext
    rw [hcapture]
    exact (h.started (hrunning hnext)).feed calls

theorem Underway.start {settings : CaptureSettings τ} {recorder : Recorder τ}
    (h : Underway settings recorder) (now : τ) : Underway settings (recorder.start now) := by
  unfold Recorder.start
  split
  · exact h
  · have hfresh : recorder.capture.start now = .fresh settings recorder.capture.serial now := by
      rw [Capture.start_eq, h.settings_eq]
    refine ⟨h.settings_eq, fun _ => ⟨recorder.capture.serial, now, [], hfresh⟩⟩

theorem Underway.stop {settings : CaptureSettings τ} {recorder : Recorder τ}
    (h : Underway settings recorder) (now : τ) : Underway settings (recorder.stop now) := by
  apply h.of_feed (exists_feed_stop recorder now)
  intro hrunning
  rw [isRunning_stop] at hrunning
  cases hrunning

theorem Underway.work {settings : CaptureSettings τ} {recorder : Recorder τ}
    (h : Underway settings recorder) (now : τ) : Underway settings (recorder.work now) := by
  apply h.of_feed (exists_feed_work recorder now)
  intro hnext
  by_contra hrunning
  rw [Recorder.work, if_neg hrunning] at hnext
  exact hrunning hnext

theorem Underway.idle {settings : CaptureSettings τ} {recorder : Recorder τ}
    (h : Underway settings recorder) (now : τ) : Underway settings (recorder.idle now) := by
  apply h.of_feed (exists_feed_idle recorder now)
  intro hnext
  by_contra hrunning
  rw [Recorder.idle, if_neg (by simp [hrunning])] at hnext
  exact hrunning hnext

theorem Underway.push {settings : CaptureSettings τ} {recorder : Recorder τ}
    (h : Underway settings recorder) (event : InputEvent τ) :
    Underway settings (recorder.push event).2 := by
  unfold Recorder.push
  split <;> exact ⟨h.settings_eq, h.started⟩

/-! ## What comes of a happening -/

/-- **What can come of a happening**: the recorder goes on, or its recording is ended and stored. -/
inductive Comes (session : RecordingSession τ) :
    Happening τ → Option (List Action) → RecordingSession τ → Prop
  | goesOn {happening} (recorder : Recorder τ) (hooks : List Hook) (isFinished : Bool)
      (hrecorder : ∀ settings, Underway settings session.recorder → Underway settings recorder) :
      Comes session happening none { session with recorder, hooks, isFinished }
  | ends (systems : HookKind → ListenerSystem) (id : String) (now : τ) (files : FileTree)
      (hooks : List Hook) (isFinished : Bool) (hrunning : session.recorder.isRunning = true) :
      Comes session (.stop systems id now files) (some (session.recorder.stop now).capture.recorded)
        { session with
          recorder := session.recorder.stop now, hooks, isFinished
          library := (store id session.sequenceName (session.recorder.stop now).capture.recorded
            session.library).1 }

/-- **A session as it stands** after some recordings have been ended: the library is the original
one with the recordings, and lasts. -/
structure Stands (original : Library) (settings : CaptureSettings τ) (name : String) (file : Path)
    (ended : List (List Action)) (session : RecordingSession τ) : Prop where
  name_eq : session.sequenceName = name
  file_eq : session.file = file
  appended : Appended name ended original session.library
  lasting : session.library.Lasting
  underway : Underway settings session.recorder
  made : ∀ actions ∈ ended, ∃ capture, HasStarted settings capture ∧ actions = capture.recorded

variable {original : Library} {settings : CaptureSettings τ} {name : String} {file : Path}

end RecordingSession
end DesktopMacro
