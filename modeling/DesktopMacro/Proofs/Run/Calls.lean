/-
An engine that is called while its worker is at work.

Somebody starts the engine and asks it to stop. The worker runs the sequence, writes down what came
of it, makes its report, and goes. It does so by turns, and any call may come between two of them;
calls that a callback makes are no different. Whose turn is next is up to a schedule, and a schedule
is any list of turns. A turn that is not due does nothing: a worker that has not run the sequence
makes no report, and a start does nothing while there is a worker.

What a run works on, and with whom, may be another one each time. Requests that come while it works
are part of what its collaborators do.

The last section shows that a run from its start to its report, as one function has it, is such a
schedule.
-/
import DesktopMacro.Proofs.Turns
import DesktopMacro.Run.Worker

set_option autoImplicit false

namespace DesktopMacro

/-! ## Ending a run, step by step -/

/-- The action that is at fault and known. -/
def Failure.culprit? (f : Failure) : Option Action := if f.isAction then f.blamed? else none

namespace Engine

/-- What came of a run that ended so. -/
def outcomeOf : Except Failure Unit → RunOutcome
  | .ok () => .completed
  | .error f => if f.isCancelled then .cancelled else .failed

/-- The error of a run that ended so; a cancellation is none. -/
def errorOf : Except Failure Unit → Option Failure
  | .ok () => none
  | .error f => if f.isCancelled then none else some f

/-- Writes down what came of the run. -/
def conclude (engine : Engine) (ending : Except Failure Unit) : Engine :=
  { engine with
    outcome := some (outcomeOf ending)
    lastError := (errorOf ending).elim engine.lastError some
    failedAction := (errorOf ending).elim engine.failedAction Failure.culprit? }

/-- Makes the report on the run. -/
def report (engine : Engine) (ending : Except Failure Unit) : Engine :=
  { engine with reports := (reportOn ending).toList ++ engine.reports }

/-- Is at rest from now on. -/
def rest (engine : Engine) : Engine := { engine with isRunning := false }

/-- **To end a run is to write it down, to report it, and to rest.** -/
theorem finish_eq (engine : Engine) (ending : Except Failure Unit) :
    engine.finish ending = ((engine.conclude ending).report ending).rest := by
  cases ending with
  | ok _ => rfl
  | error failure =>
    by_cases hcancelled : failure.isCancelled = true
    · have hoc : outcomeOf (.error failure) = .cancelled := if_pos hcancelled
      have herror : errorOf (.error failure) = none := if_pos hcancelled
      rw [conclude, hoc, herror]
      exact if_pos hcancelled
    · have hoc : outcomeOf (.error failure) = .failed := if_neg hcancelled
      have herror : errorOf (.error failure) = some failure := if_neg hcancelled
      rw [conclude, hoc, herror]
      exact if_neg hcancelled

/-! ## Turns and what comes of them -/

/-- What a worker runs, as what of a library, whom with, and on which machine. -/
structure Job (ω : Type) where
  team : Collaborators ω
  binding : Binding ω
  slot : Option Nat
  sequence : Sequence
  machine : Machine ω

/-- Runs the sequence of a job, which has been asked to stop before or not. -/
def Job.run {ω : Type} (job : Job ω) (cancelled : Bool) : Except Failure Unit × Machine ω :=
  (Run.runSequence job.team (job.binding.lookup job.team) job.slot job.sequence).on
    { job.machine with cancelled }

/-- How far the worker has come, if there is one. -/
inductive Stage where
  /-- The sequence runs, or is about to. -/
  | running
  /-- The sequence has ended, and nothing is written down yet. -/
  | ended (ending : Except Failure Unit)
  /-- What came of the run is written down, and nothing is reported yet. -/
  | concluded (ending : Except Failure Unit)
  /-- The report is being made, or has been. -/
  | reported

/-- A turn: a call, or the worker goes on. -/
inductive Turn (ω : Type) where
  | start
  | requestCancel
  /-- The worker tells whoever listens to its log something, which goes well or fails. -/
  | log (answer : Except Failure Unit)
  | run (job : Job ω)
  | conclude
  | report
  /-- The worker goes when the report has been taken, which went well or failed. -/
  | leave (answer : Except Failure Unit)

/-- What can come of a turn. -/
inductive Deed where
  /-- There is a worker now. -/
  | started
  | ended (ending : Except Failure Unit)
  /-- Whoever waits for the run was told of its ending. -/
  | told (report : RunReport)
  /-- The worker has gone. -/
  | left

/-- The report that was made. -/
def Deed.report? : Deed → Option RunReport
  | told report => some report
  | _ => none

/-- The note on a callback that failed; there is no other consequence. -/
def callbackNotes (name : String) : Except Failure Unit → List Note
  | .ok () => []
  | .error _ => [⟨.debug, s!"{name} callback failed"⟩]

/-- **An engine that threads share.** -/
structure Shared where
  engine : Engine
  stage : Stage
  notes : List Note

namespace Shared

variable {ω : Type}

/-- An engine that nobody has started. -/
def atRest (sequenceName : String) : Shared := ⟨.initial sequenceName, .running, []⟩

/-- The same engine with another answer to whether the run is to stop. -/
def withRequest (shared : Shared) (isCancelled : Bool) : Shared :=
  { shared with engine := { shared.engine with isCancelled } }

/-- The worker goes on, if the turn is due. It does not survive a report that cannot be made. -/
def work (shared : Shared) (turn : Turn ω) : List Deed × Shared :=
  let engine := shared.engine
  match shared.stage, turn with
  | .running, .log answer =>
    ([], { shared with notes := shared.notes ++ callbackNotes "on_log" answer })
  | .running, .run job =>
    let (ending, machine) := job.run engine.isCancelled
    ([.ended ending], { shared.withRequest machine.cancelled with stage := .ended ending })
  | .ended ending, .conclude =>
    ([], ⟨engine.conclude ending, .concluded ending, shared.notes ++ engine.notesOn ending⟩)
  | .concluded ending, .report =>
    match reportOn ending with
    | some report => ([.told report], { shared with
        engine := engine.report ending, stage := .reported })
    | none => ([.left], { shared with engine := engine.rest, stage := .running })
  | .reported, .leave answer =>
    ([.left], ⟨engine.rest, .running, shared.notes ++ callbackNotes "on_done" answer⟩)
  | _, _ => ([], shared)

/-- **A turn**: what comes of it, and the engine afterwards. -/
def turn (shared : Shared) : Turn ω → List Deed × Shared
  | .start =>
    if shared.engine.isRunning then ([], shared)
    else ([.started], { shared with engine := shared.engine.start })
  | .requestCancel => ([], { shared with engine := shared.engine.requestCancel })
  | turn => if shared.engine.isRunning then shared.work turn else ([], shared)

/-- The engine after a schedule. -/
def after (shared : Shared) (turns : List (Turn ω)) : Shared := Turns.after turn shared turns

/-- What comes of a schedule. -/
def deeds (shared : Shared) (turns : List (Turn ω)) : List Deed := Turns.deeds turn shared turns

theorem after_cons (shared : Shared) (turn : Turn ω) (turns : List (Turn ω)) :
    shared.after (turn :: turns) = (shared.turn turn).2.after turns := rfl

theorem deeds_cons (shared : Shared) (turn : Turn ω) (turns : List (Turn ω)) :
    shared.deeds (turn :: turns) = (shared.turn turn).1 ++ (shared.turn turn).2.deeds turns := rfl

theorem after_append (shared : Shared) (turns more : List (Turn ω)) :
    shared.after (turns ++ more) = (shared.after turns).after more :=
  Turns.after_append shared turns more

/-- **Everything that a turn can do**, with what comes of it. -/
inductive Moves : Shared → Turn ω → List Deed → Shared → Prop
  | rests (shared : Shared) (turn : Turn ω) : Moves shared turn [] shared
  | starts {engine : Engine} {stage : Stage} {notes : List Note}
      (hrest : engine.isRunning = false) :
      Moves ⟨engine, stage, notes⟩ .start [.started] ⟨engine.start, stage, notes⟩
  | asks {engine : Engine} {stage : Stage} {notes : List Note} :
      Moves ⟨engine, stage, notes⟩ .requestCancel [] ⟨engine.requestCancel, stage, notes⟩
  | logs {engine : Engine} {notes : List Note} (answer : Except Failure Unit) :
      Moves ⟨engine, .running, notes⟩ (.log answer) []
        ⟨engine, .running, notes ++ callbackNotes "on_log" answer⟩
  | runs {engine : Engine} {notes : List Note} (job : Job ω)
      (hrunning : engine.isRunning = true) :
      Moves ⟨engine, .running, notes⟩ (.run job) [.ended (job.run engine.isCancelled).1]
        ⟨{ engine with isCancelled := (job.run engine.isCancelled).2.cancelled },
          .ended (job.run engine.isCancelled).1, notes⟩
  | concludes {engine : Engine} {notes : List Note} (ending : Except Failure Unit)
      (hrunning : engine.isRunning = true) :
      Moves ⟨engine, .ended ending, notes⟩ .conclude []
        ⟨engine.conclude ending, .concluded ending, notes ++ engine.notesOn ending⟩
  | reports {engine : Engine} {notes : List Note} {ending : Except Failure Unit}
      {report : RunReport} (hrunning : engine.isRunning = true)
      (hreport : reportOn ending = some report) :
      Moves ⟨engine, .concluded ending, notes⟩ .report [.told report]
        ⟨engine.report ending, .reported, notes⟩
  | breaks {engine : Engine} {notes : List Note} {ending : Except Failure Unit}
      (hreport : reportOn ending = none) :
      Moves ⟨engine, .concluded ending, notes⟩ .report [.left] ⟨engine.rest, .running, notes⟩
  | leaves {engine : Engine} {notes : List Note} (answer : Except Failure Unit) :
      Moves ⟨engine, .reported, notes⟩ (.leave answer) [.left]
        ⟨engine.rest, .running, notes ++ callbackNotes "on_done" answer⟩

/-- What the worker can do at its turns. -/
theorem moves_work (shared : Shared) (turn : Turn ω) (hrunning : shared.engine.isRunning = true) :
    Moves shared turn (shared.work turn).1 (shared.work turn).2 := by
  obtain ⟨engine, stage, notes⟩ := shared
  cases stage with
  | running =>
    cases turn with
    | log answer => exact .logs answer
    | run job => exact .runs job hrunning
    | _ => exact .rests _ _
  | ended ending =>
    cases turn with
    | conclude => exact .concludes ending hrunning
    | _ => exact .rests _ _
  | concluded ending =>
    cases turn with
    | report =>
      simp only [work]
      cases hreport : reportOn ending with
      | some report => exact .reports hrunning hreport
      | none => exact .breaks hreport
    | _ => exact .rests _ _
  | reported =>
    cases turn with
    | leave answer => exact .leaves answer
    | _ => exact .rests _ _

/-- A turn that is no call is the worker's. -/
theorem turn_of_worker {turn : Turn ω} (hstart : turn ≠ .start) (hrequest : turn ≠ .requestCancel)
    (shared : Shared) :
    shared.turn turn = if shared.engine.isRunning then shared.work turn else ([], shared) := by
  cases turn with
  | start => exact absurd rfl hstart
  | requestCancel => exact absurd rfl hrequest
  | _ => rfl

theorem moves_turn (shared : Shared) (turn : Turn ω) :
    Moves shared turn (shared.turn turn).1 (shared.turn turn).2 := by
  by_cases hrequest : turn = .requestCancel
  · rw [hrequest]
    exact .asks
  by_cases hrunning : shared.engine.isRunning = true
  · by_cases hstart : turn = .start
    · rw [hstart, Shared.turn, if_pos hrunning]
      exact .rests _ _
    · rw [turn_of_worker hstart hrequest, if_pos hrunning]
      exact moves_work shared turn hrunning
  · by_cases hstart : turn = .start
    · rw [hstart, Shared.turn, if_neg hrunning]
      exact .starts (Bool.eq_false_iff.2 hrunning)
    · rw [turn_of_worker hstart hrequest, if_neg hrunning]
      exact .rests _ _

/-- **What every turn of a sort keeps, every schedule of such turns keeps**: something that is said
of an engine and of what has come of it so far. -/
theorem invariant {P : List Deed → Shared → Prop} {Q : Turn ω → Prop}
    (hstep : ∀ {past shared turn deeds next}, Moves shared turn deeds next → Q turn →
      P past shared → P (past ++ deeds) next)
    {past : List Deed} {shared : Shared} (h : P past shared) {turns : List (Turn ω)}
    (hturns : ∀ turn ∈ turns, Q turn) :
    P (past ++ shared.deeds turns) (shared.after turns) :=
  Turns.invariant (fun _ shared next hnext h => hstep (moves_turn shared next) hnext h) h hturns

/-! ## A run is a schedule -/

/-- The turns of a worker from its start on, if no callback fails. -/
def runTurns (job : Job ω) : List (Turn ω) :=
  [.start, .run job, .conclude, .report, .leave (.ok ())]

/-- What a run as one function makes of an engine: it starts, and ends as its sequence does. -/
theorem run_eq (engine : Engine) (job : Job ω) {slot : Nat} (hslot : job.slot = some slot) :
    ((engine.run job.team (job.binding.lookup job.team) slot job.sequence).run job.machine).1
      = engine.start.finish (job.run false).1 := by
  rw [Job.run, hslot]
  rfl

/-- **A run from its start to its report is a schedule.** The engine of the schedule also knows
whether it has been asked to stop meanwhile. -/
theorem engine_after_runTurns {engine : Engine} (hrest : engine.isRunning = false) (job : Job ω)
    {slot : Nat} (hslot : job.slot = some slot) (notes : List Note) :
    ((⟨engine, .running, notes⟩ : Shared).after (runTurns job)).engine
      = { ((engine.run job.team (job.binding.lookup job.team) slot job.sequence).run
            job.machine).1 with isCancelled := (job.run false).2.cancelled } := by
  rw [run_eq engine job hslot, finish_eq]
  obtain ⟨sequenceName, isRunning, isCancelled, outcome, lastError, failedAction, reports⟩ := engine
  obtain rfl : isRunning = false := hrest
  simp only [runTurns, after, Turns.after, turn, work, withRequest, start, conclude, report, rest,
    Bool.false_eq_true, if_false, if_true]
  generalize job.run false = result
  obtain ⟨ending, machine⟩ := result
  -- Where no report can be made, the worker has gone before its last turn.
  cases hreport : reportOn ending with
  | some made => rfl
  | none => rfl

end Shared
end Engine
end DesktopMacro
