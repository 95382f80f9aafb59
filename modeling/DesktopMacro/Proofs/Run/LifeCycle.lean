/-
The life of an engine, whoever calls it and when.

A schedule makes one worker after the other. What holds of any schedule is that those who have gone
did the same: they ran the sequence, wrote down what came of it, and told whoever waits, once. The
one that is there has done the first part of that, and its next turns are the rest. What the engine
shows goes with it: nothing while a sequence runs, and afterwards what came of that run.

A request to stop reaches the sequence that runs, or is about to. At any other time nobody listens,
and two engines that differ in such a request cannot be told apart again: before there is anybody
who could listen, a start has forgotten it.
-/
import DesktopMacro.Proofs.Run.Calls
import DesktopMacro.Proofs.Run.Reporting

set_option autoImplicit false

namespace DesktopMacro.Engine

variable {ω : Type}

/-! ## What an engine shows -/

/-- An engine shows what came of a run that ended so, or nothing. -/
structure Shows (engine : Engine) (last : Option (Except Failure Unit)) : Prop where
  outcome : engine.outcome = last.map outcomeOf
  lastError : engine.lastError = last.bind errorOf
  failedAction : engine.failedAction = (last.bind errorOf).bind Failure.culprit?

namespace Shows

variable {engine : Engine} {last : Option (Except Failure Unit)}

/-- An engine that shows nothing shows what came of a run once it is written down. -/
theorem conclude (h : engine.Shows none) (ending : Except Failure Unit) :
    (engine.conclude ending).Shows (some ending) := by
  have herror : engine.lastError = none := h.lastError
  have haction : engine.failedAction = none := h.failedAction
  constructor
  · rfl
  · change (errorOf ending).elim engine.lastError some = errorOf ending
    rw [herror]
    cases errorOf ending <;> rfl
  · change (errorOf ending).elim engine.failedAction Failure.culprit?
      = (errorOf ending).bind Failure.culprit?
    rw [haction]
    cases errorOf ending <;> rfl

theorem report (h : engine.Shows last) (ending : Except Failure Unit) :
    (engine.report ending).Shows last := ⟨h.outcome, h.lastError, h.failedAction⟩

theorem rest (h : engine.Shows last) : engine.rest.Shows last :=
  ⟨h.outcome, h.lastError, h.failedAction⟩

/-- What is shown does not depend on whether somebody wants the run to stop. -/
theorem asked (h : engine.Shows last) (isCancelled : Bool) :
    ({ engine with isCancelled } : Engine).Shows last := ⟨h.outcome, h.lastError, h.failedAction⟩

end Shows

/-! ## What workers do -/

/-- A run that has ended, with the report on it. -/
structure Finished where
  ending : Except Failure Unit
  report : RunReport
  reported : reportOn ending = some report

/-- **What a worker does**, from its start on. -/
def Finished.deeds (run : Finished) : List Deed :=
  [.started, .ended run.ending, .told run.report, .left]

namespace Shared

/-- **How an engine stands** after runs that have finished, and after the first deeds of a worker.
-/
inductive Stands (runs : List Finished) : List Deed → Shared → Prop
  /-- There is no worker; what is shown came of the last run. -/
  | atRest {engine : Engine} {notes : List Note} (hrest : engine.isRunning = false)
      (hshows : engine.Shows (runs.getLast?.map Finished.ending)) :
      Stands runs [] ⟨engine, .running, notes⟩
  /-- The sequence runs, or is about to; nothing is shown. -/
  | running {engine : Engine} {notes : List Note} (hrunning : engine.isRunning = true)
      (hshows : engine.Shows none) : Stands runs [.started] ⟨engine, .running, notes⟩
  | ended {engine : Engine} {notes : List Note} (run : Finished)
      (hrunning : engine.isRunning = true) (hshows : engine.Shows none) :
      Stands runs [.started, .ended run.ending] ⟨engine, .ended run.ending, notes⟩
  | concluded {engine : Engine} {notes : List Note} (run : Finished)
      (hrunning : engine.isRunning = true) (hshows : engine.Shows (some run.ending)) :
      Stands runs [.started, .ended run.ending] ⟨engine, .concluded run.ending, notes⟩
  /-- The report is made; what is shown came of this run. -/
  | reported {engine : Engine} {notes : List Note} (run : Finished)
      (hrunning : engine.isRunning = true) (hshows : engine.Shows (some run.ending)) :
      Stands runs [.started, .ended run.ending, .told run.report] ⟨engine, .reported, notes⟩

end Shared

/-- A turn at which nothing is run that could end in a way that cannot be reported. -/
def Turn.Reportable : Turn ω → Prop
  | .run job => job.team.Reportable ∧ job.binding.Reportable
  | _ => True

/-- There is a report on the ending of a job. -/
theorem Turn.Reportable.reportOn_run {job : Job ω} (h : (Turn.run job).Reportable)
    (isCancelled : Bool) : ∃ report, reportOn (job.run isCancelled).1 = some report :=
  Run.reportOn_runSequence h.1 h.2 job.slot job.sequence _

/-- **A start forgets what came of the run before**, and any request to stop. -/
theorem start_eq {engine : Engine} (hrest : engine.isRunning = false) :
    engine.start = { initial engine.sequenceName with
      isRunning := true, reports := engine.reports } := by
  rw [start, hrest]
  rfl

namespace Shared

variable {shared next other : Shared} {past come current : List Deed} {turn : Turn ω}
  {runs : List Finished}

/-- An engine at rest has no worker that is half done. -/
theorem Stands.of_rest (h : Stands runs current shared) (hrest : shared.engine.isRunning = false) :
    current = [] ∧ shared.stage = .running ∧
      shared.engine.Shows (runs.getLast?.map Finished.ending) := by
  cases h with
  | atRest _ hshows => exact ⟨rfl, rfl, hshows⟩
  | _ => simp_all

/-- A request to stop changes nothing in how an engine stands. -/
theorem Stands.asked (h : Stands runs current shared) :
    Stands runs current { shared with engine := shared.engine.requestCancel } := by
  cases h with
  | atRest hrest hshows => exact .atRest hrest (hshows.asked true)
  | running hrunning hshows => exact .running hrunning (hshows.asked true)
  | ended run hrunning hshows => exact .ended run hrunning (hshows.asked true)
  | concluded run hrunning hshows => exact .concluded run hrunning (hshows.asked true)
  | reported run hrunning hshows => exact .reported run hrunning (hshows.asked true)

/-- When the worker has gone, its run is the last one. -/
theorem stands_left (runs : List Finished) (run : Finished) {engine : Engine}
    (hshows : engine.Shows (some run.ending)) (notes : List Note) :
    Stands (runs ++ [run]) [] ⟨engine.rest, .running, notes⟩ := by
  refine .atRest rfl ?_
  rw [List.getLast?_append, List.getLast?_singleton]
  exact hshows.rest

/-! ## One worker after the other -/

/-- What came of a schedule so far, and how the engine stands after it. -/
def Follows (past : List Deed) (shared : Shared) : Prop :=
  ∃ runs current, past = runs.flatMap Finished.deeds ++ current ∧ Stands runs current shared

/-- Every turn leaves an engine that stands as the deeds say. There is one case for each thing that
a turn can do, and how the engine stood before tells how far the worker was. -/
theorem Follows.step (hmoves : Moves shared turn come next) (hturn : turn.Reportable)
    (h : Follows past shared) : Follows (past ++ come) next := by
  obtain ⟨runs, current, rfl, hstands⟩ := h
  rw [List.append_assoc]
  cases hmoves with
  | rests => exact ⟨runs, current, by rw [List.append_nil], hstands⟩
  | starts hrest =>
    obtain ⟨rfl, rfl, -⟩ := hstands.of_rest hrest
    refine ⟨runs, [.started], rfl, ?_⟩
    rw [start_eq hrest]
    exact .running rfl ⟨rfl, rfl, rfl⟩
  | asks => exact ⟨runs, current, by rw [List.append_nil], hstands.asked⟩
  | logs answer =>
    refine ⟨runs, current, by rw [List.append_nil], ?_⟩
    cases hstands with
    | atRest hrest hshows => exact .atRest hrest hshows
    | running hrunning hshows => exact .running hrunning hshows
  | @runs engine notes job hrunning =>
    cases hstands with
    | atRest hrest =>
      rw [hrest] at hrunning
      cases hrunning
    | running _ hshows =>
      obtain ⟨report, hreport⟩ := hturn.reportOn_run engine.isCancelled
      exact ⟨runs, _, rfl, .ended ⟨_, report, hreport⟩ hrunning (hshows.asked _)⟩
  | concludes ending hrunning =>
    cases hstands with
    | ended run _ hshows =>
      refine ⟨runs, _, by rw [List.append_nil], .concluded run hrunning ?_⟩
      exact hshows.conclude run.ending
  | @reports engine notes ending report hrunning hreport =>
    cases hstands with
    | concluded run _ hshows =>
      obtain rfl : run.report = report := Option.some.inj (run.reported.symm.trans hreport)
      exact ⟨runs, _, rfl, .reported run hrunning (hshows.report _)⟩
  | breaks hreport =>
    -- There is a report on every run, so no worker breaks.
    cases hstands with
    | concluded run =>
      rw [run.reported] at hreport
      cases hreport
  | leaves answer =>
    cases hstands with
    | reported run _ hshows =>
      refine ⟨runs ++ [run], [], ?_, stands_left runs run hshows _⟩
      rw [List.flatMap_append, List.flatMap_singleton, List.append_nil]
      rfl

/-- **What an engine keeps** from one run to the next: the sequence that it is for, and the reports
that were made, newest first. -/
structure Keeps (sequenceName : String) (past : List Deed) (shared : Shared) : Prop where
  sequenceName : shared.engine.sequenceName = sequenceName
  reports : shared.engine.reports = (past.filterMap Deed.report?).reverse

theorem Keeps.step {sequenceName : String} (hmoves : Moves shared turn come next)
    (h : Keeps sequenceName past shared) : Keeps sequenceName (past ++ come) next := by
  obtain ⟨hname, hreports⟩ := h
  constructor
  · cases hmoves with
    | starts hrest =>
      rw [start_eq hrest]
      exact hname
    | _ => exact hname
  · rw [List.filterMap_append, List.reverse_append, ← hreports]
    cases hmoves with
    | starts hrest =>
      rw [start_eq hrest]
      rfl
    | reports _ hreport =>
      rw [Engine.report, hreport]
      rfl
    | _ => rfl

/-- A worker that has done so much has done all its work after these turns. -/
def Finishes (runs : List Finished) (current : List Deed) (shared : Shared)
    (turns : List (Turn ω)) : Prop :=
  ∃ run : Finished, current ++ shared.deeds turns = run.deeds
    ∧ Stands (runs ++ [run]) [] (shared.after turns)

theorem Finishes.cons {turns : List (Turn ω)} (hturn : shared.turn turn = (come, next))
    (h : Finishes runs (current ++ come) next turns) :
    Finishes runs current shared (turn :: turns) := by
  obtain ⟨run, hdeeds, hstands⟩ := h
  refine ⟨run, ?_, ?_⟩
  · rw [deeds_cons, hturn, ← List.append_assoc]
    exact hdeeds
  · rw [after_cons, hturn]
    exact hstands

section

variable {engine : Engine} {notes : List Note} (run : Finished)
  (hrunning : engine.isRunning = true) (answer : Except Failure Unit)
include hrunning

end

/-- A worker that may still look whether the run is to stop. -/
def Listens (shared : Shared) : Prop := shared.engine.isRunning = true ∧ shared.stage = .running

/-- **The same engine, but for a request that nobody listens to.** -/
def Unheard (shared other : Shared) : Prop :=
  (∃ isCancelled, other = shared.withRequest isCancelled) ∧ (shared.Listens → other = shared)

theorem Unheard.refl (shared : Shared) : Unheard shared shared := ⟨⟨_, rfl⟩, fun _ => rfl⟩

/-- While nobody listens, a worker goes on in the same way, and still nobody listens. -/
theorem work_unheard (hstage : shared.stage ≠ .running) (isCancelled : Bool) (turn : Turn ω) :
    (shared.withRequest isCancelled).work turn
        = ((shared.work turn).1, (shared.work turn).2.withRequest isCancelled)
      ∧ ¬ (shared.work turn).2.Listens := by
  obtain ⟨engine, stage, notes⟩ := shared
  cases stage with
  | running => exact absurd rfl hstage
  | ended ending =>
    cases turn with
    | conclude => exact ⟨rfl, fun h => by cases h.2⟩
    | _ => exact ⟨rfl, fun h => hstage h.2⟩
  | concluded ending =>
    cases turn with
    | report =>
      simp only [work, withRequest]
      cases reportOn ending with
      | some report => exact ⟨rfl, fun h => by cases h.2⟩
      | none => exact ⟨rfl, fun h => by cases h.1⟩
    | _ => exact ⟨rfl, fun h => hstage h.2⟩
  | reported =>
    cases turn with
    | leave answer => exact ⟨rfl, fun h => by cases h.1⟩
    | _ => exact ⟨rfl, fun h => hstage h.2⟩

/-- What comes of a turn is the same, and so is the engine, but for the request. Only a start makes
somebody listen again, and it forgets the request. -/
theorem Unheard.step (h : Unheard shared other) (turn : Turn ω) :
    (other.turn turn).1 = (shared.turn turn).1
      ∧ Unheard (shared.turn turn).2 (other.turn turn).2 := by
  by_cases hlistens : shared.Listens
  · rw [h.2 hlistens]
    exact ⟨rfl, .refl _⟩
  obtain ⟨⟨isCancelled, rfl⟩, -⟩ := h
  by_cases hrequest : turn = .requestCancel
  · rw [hrequest]
    exact ⟨rfl, .refl _⟩
  by_cases hrunning : shared.engine.isRunning = true
  · have hstage : shared.stage ≠ .running := fun hstage => hlistens ⟨hrunning, hstage⟩
    obtain ⟨hwork, hdeaf⟩ := work_unheard hstage isCancelled turn
    have hrunning' : (shared.withRequest isCancelled).engine.isRunning = true := hrunning
    by_cases hstart : turn = .start
    · rw [hstart, Shared.turn, if_pos hrunning', Shared.turn, if_pos hrunning]
      exact ⟨rfl, ⟨_, rfl⟩, fun h => absurd h hlistens⟩
    · rw [turn_of_worker hstart hrequest, if_pos hrunning', turn_of_worker hstart hrequest,
        if_pos hrunning, hwork]
      exact ⟨rfl, ⟨_, rfl⟩, fun h => absurd h hdeaf⟩
  · have hrest : shared.engine.isRunning = false := Bool.eq_false_iff.2 hrunning
    have hrest' : (shared.withRequest isCancelled).engine.isRunning = false := hrest
    by_cases hstart : turn = .start
    · rw [hstart, Shared.turn, hrest', Shared.turn, hrest, start_eq hrest', start_eq hrest]
      exact ⟨rfl, .refl _⟩
    · rw [turn_of_worker hstart hrequest, hrest', turn_of_worker hstart hrequest, hrest]
      exact ⟨rfl, ⟨_, rfl⟩, fun h => absurd h hlistens⟩

/-- **Nothing that comes later depends on a request that nobody listens to.** -/
theorem Unheard.later (h : Unheard shared other) (turns : List (Turn ω)) :
    other.deeds turns = shared.deeds turns ∧ Unheard (shared.after turns) (other.after turns) := by
  induction turns generalizing shared other with
  | nil => exact ⟨rfl, h⟩
  | cons turn turns ih =>
    obtain ⟨hcome, hnext⟩ := h.step turn
    obtain ⟨hdeeds, hafter⟩ := ih hnext
    refine ⟨?_, hafter⟩
    rw [deeds_cons, deeds_cons, hcome, hdeeds]

/-! ## The life of an engine -/

end Shared
end DesktopMacro.Engine
