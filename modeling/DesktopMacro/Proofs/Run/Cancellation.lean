/-
Cancellation is final.

A run is stopped from the moment at which a collaborator cancels it, and stays so. A check that
finds it stopped ends it, and nothing on the way out puts up with that. Between two checks, what was
begun goes on; but no slice of a pause, no action, no attempt and no round begins in a run that has
been stopped, because right before each of them there is a check.

The last part is not true of what runs detached, but inside of a sequence nothing is: a lookup
detaches only what nothing else is running under.
-/
import DesktopMacro.Proofs.Run.Journal

set_option autoImplicit false

namespace DesktopMacro

variable {ω : Type} {rules : Rules ω} {m m' : Machine ω} {e : Option Failure}

/-! ## Journals that heed a cancellation -/

/-- **Marks that heed a cancellation**, newest first, between a time at which the run was stopped or
not and another: a run that is stopped stays so, and what starts, starts in a run that is not. -/
def Mark.Heed (before : Bool) : (marks : List Mark) → (after : Bool) → Prop
  | [], after => before = true → after = true
  | mark :: earlier, after =>
    (mark.stopped = true → after = true) ∧ (mark.step.isStart = true → mark.stopped = false)
      ∧ Heed before earlier mark.stopped

namespace Mark.Heed

variable {before between after : Bool} {marks later earlier : List Mark}

theorem append (h : Heed before earlier between) (h' : Heed between later after) :
    Heed before (later ++ earlier) after := by
  induction later generalizing after with
  | nil =>
    cases earlier with
    | nil => exact fun hb => h' (h hb)
    | cons mark earlier => exact ⟨fun hm => h' (h.1 hm), h.2⟩
  | cons mark later ih => exact ⟨h'.1, h'.2.1, ih h'.2.2⟩

/-- One mark, made when the run was stopped or not as before. -/
theorem single {step : Step} {callStack : List String} (hafter : before = true → after = true)
    (hstart : step.isStart = true → before = false) :
    Heed before [⟨step, before, callStack⟩] after :=
  ⟨hafter, hstart, id⟩

/-- A run that was stopped is stopped afterwards. -/
theorem stays (h : Heed before marks after) (hbefore : before = true) : after = true := by
  induction marks generalizing after with
  | nil => exact h hbefore
  | cons newest marks ih => exact h.1 (ih h.2.2)

/-- A run that was stopped before has been stopped at every mark. -/
theorem stopped (h : Heed before marks after) (hbefore : before = true) :
    ∀ mark ∈ marks, mark.stopped = true := by
  induction marks generalizing after with
  | nil => nofun
  | cons newest marks ih =>
    intro mark hmark
    rcases List.mem_cons.1 hmark with rfl | hearlier
    · exact h.2.2.stays hbefore
    · exact ih h.2.2 mark hearlier

/-- What starts, starts in a run that has not been stopped. -/
theorem awake (h : Heed before marks after) :
    ∀ mark ∈ marks, mark.step.isStart = true → mark.stopped = false := by
  induction marks generalizing after with
  | nil => nofun
  | cons newest marks ih =>
    intro mark hmark
    rcases List.mem_cons.1 hmark with rfl | hearlier
    · exact h.2.1
    · exact ih h.2.2 mark hearlier

/-- The marks after one at which the run was stopped. -/
theorem from_mark {mark : Mark} (h : Heed before (later ++ mark :: earlier) after)
    (hmark : mark.stopped = true) : Heed true later after := by
  induction later generalizing after with
  | nil => exact fun _ => h.1 hmark
  | cons newest later ih => exact ⟨h.1, h.2.1, ih h.2.2⟩

/-- **From a mark on at which the run was stopped, nothing starts.** -/
theorem final {mark : Mark} (h : Heed before (later ++ mark :: earlier) after)
    (hmark : mark.stopped = true) : ∀ other ∈ mark :: later, other.step.isStart = false := by
  intro other hother
  -- Stopped stays stopped, and what starts is not stopped, so nothing starts.
  have hstopped : other.stopped = true := by
    rcases List.mem_cons.1 hother with rfl | hlater
    · exact hmark
    · exact (h.from_mark hmark).stopped rfl other hlater
  have hmem : other ∈ later ++ mark :: earlier := by
    rcases List.mem_cons.1 hother with rfl | hlater
    · exact List.mem_append_right later List.mem_cons_self
    · exact List.mem_append_left _ hlater
  cases hstart : other.step.isStart with
  | false => rfl
  | true =>
    have hawake := h.awake other hmem hstart
    rw [hstopped] at hawake
    cases hawake

end Mark.Heed

/-! ## Courses heed a cancellation -/

/-- What was added to the journal between two machines heeds a cancellation. -/
def Machine.Heeds (m m' : Machine ω) : Prop :=
  ∃ marks, m'.journal = marks ++ m.journal ∧ Mark.Heed m.isStopped marks m'.isStopped

namespace Machine.Heeds

variable {m₁ : Machine ω}

theorem trans (h : m.Heeds m₁) (h' : m₁.Heeds m') : m.Heeds m' := by
  obtain ⟨earlier, hearlier, hheed⟩ := h
  obtain ⟨later, hlater, hheed'⟩ := h'
  refine ⟨later ++ earlier, ?_, hheed.append hheed'⟩
  rw [hlater, hearlier, List.append_assoc]

/-- What writes nothing down and does not wake a run. -/
theorem silent (hjournal : m'.journal = m.journal)
    (hstays : m.isStopped = true → m'.isStopped = true) : m.Heeds m' :=
  ⟨[], hjournal, hstays⟩

theorem mark (m : Machine ω) (step : Step)
    (awake : step.isStart = true → m.isStopped = false) : m.Heeds (m.mark step) :=
  ⟨[_], rfl, .single id awake⟩

theorem tell (m : Machine ω) (text : String) : m.Heeds (m.tell text) :=
  .silent (m.journal_tell text) fun h => by rwa [m.isStopped_tell]

theorem modifyFrame (m : Machine ω) (change : Frame → Frame) : m.Heeds (m.modifyFrame change) :=
  .silent (m.journal_modifyFrame change) fun h => by rwa [m.isStopped_modifyFrame]

/-- A collaborator can cancel a run, and nobody can take that back. -/
theorem after {α : Type} (m : Machine ω) (reply : Reply ω α) : m.Heeds (m.after reply) := by
  refine .silent rfl fun hstopped => ?_
  have hcancelled : m.cancelled = true ∧ (!m.detached) = true := by
    rwa [Machine.isStopped, Bool.and_eq_true] at hstopped
  show ((m.cancelled || reply.cancels) && !m.detached) = true
  rw [hcancelled.1, hcancelled.2]
  rfl

theorem pushFrame (m : Machine ω) (frame : Frame) : m.Heeds (Run.pushFrame m frame) :=
  .trans (.silent rfl id) (.mark { m with frames := frame :: m.frames } .entered nofun)

theorem popFrame (m : Machine ω) : m.Heeds (Run.popFrame m) := by
  unfold Run.popFrame
  split
  · exact .silent rfl id
  · next top frames _ =>
    exact .mark { m with frames, library := Run.settle m.library top } .left nofun

end Machine.Heeds

/-- **A course inside of a sequence heeds a cancellation.** The induction follows the course; only
what is detached could go on in a stopped run, and inside of a sequence nothing is. -/
theorem Course.heeds (hc : Course rules m e m') (hinside : m.frames ≠ []) : m.Heeds m' := by
  induction hc with
  | rest m => exact .silent rfl id
  | next h₁ _ ih₁ ih₂ => exact (ih₁ hinside).trans (ih₂ (h₁.kept.frames_ne_nil hinside))
  | noted notes _ ih => exact (ih hinside).trans (.silent rfl id)
  | told text _ ih => exact (ih hinside).trans (.tell _ text)
  | stored m s => exact (Machine.Heeds.mark m .stored nofun).trans (.modifyFrame _ _)
  | given m slot values =>
    exact (Machine.Heeds.mark m .stored nofun).trans (.silent rfl id)
  | edited m edit => exact .modifyFrame m _
  | asked m request reply awake =>
    exact (Machine.Heeds.mark m (.asked request) awake).trans (.after _ reply)
  | started m step _ awake => exact .mark m step fun _ => awake
  | failed m f => exact .mark m (.failed f) nofun
  | mended m f => exact .mark m (.failed f) nofun
  | noticed m => exact .mark m .noticed nofun
  | tolerated _ _ ih => exact ih hinside
  | blamed _ _ ih => exact ih hinside
  | framed _ _ _ _ ih =>
    exact ((Machine.Heeds.pushFrame _ _).trans (ih (List.cons_ne_nil _ _))).trans (.popFrame _)
  -- Inside of a sequence nothing is at rest.
  | detached atRest => exact absurd atRest hinside

namespace Run

/-- What is put together of runs that heed a cancellation does so, too. -/
theorem heeds_bind {α β : Type} {x : Run ω α} {f : α → Run ω β} {m : Machine ω}
    (hx : m.Heeds (x.on m).2)
    (hf : ∀ a m', x.on m = (.ok a, m') → m'.Heeds ((f a).on m').2) :
    m.Heeds ((x >>= f).on m).2 := by
  rcases h : x.on m with ⟨r, m'⟩
  rw [h] at hx
  cases r with
  | ok a =>
    rw [on_bind_ok h]
    exact hx.trans (hf a m' h)
  | error e =>
    rw [on_bind_error h]
    exact hx

theorem heeds_log (text : String) (level : Level) (m : Machine ω) :
    m.Heeds ((log text level : Run ω Unit).on m).2 := by
  rw [on_log]
  exact .trans (.silent rfl id) (.tell _ text)

variable (team : Collaborators ω) (binding : Binding ω) (slot : Option Nat) (sequence : Sequence)

/-- A sequence heeds a cancellation on any machine: its actions run inside of it. -/
theorem heeds_runSequence (m : Machine ω) :
    m.Heeds ((runSequence team (binding.lookup team) slot sequence).on m).2 := by
  have hactions := takes_runActions (Rules.allow_free team)
    (takes_binding (Rules.allow_free team) Rules.opens_free binding) [] 0 sequence.actions
  unfold runSequence
  refine heeds_bind (heeds_log _ _ m) fun _ m₁ _ => ?_
  refine heeds_bind ?_ fun _ m₂ _ => heeds_log _ _ m₂
  -- The actions run in a frame, so their course is one inside of a sequence.
  have hcourse := (hactions (pushFrame m₁ (.enter sequence slot))).course (Machine.within_free _)
  rw [on_inFrame]
  exact ((Machine.Heeds.pushFrame m₁ _).trans (hcourse.heeds (List.cons_ne_nil _ _))).trans
    (.popFrame _)

/-- **Cancellation is final.** Whatever a sequence consists of, whatever it is bound to, and however
its collaborators behave: once a check has found the run cancelled, the sequence ends with the
cancellation; and from the first mark on at which the run had been stopped, no slice of a pause, no
action, no attempt and no round begins. -/
theorem cancellation_final (m : Machine ω) :
    ∃ marks, ((runSequence team (binding.lookup team) slot sequence).on m).2.journal
        = marks ++ m.journal
      ∧ ((∃ mark ∈ marks, mark.step.isNotice = true) →
        ((runSequence team (binding.lookup team) slot sequence).on m).1 = .error .stopped)
      ∧ (∀ later mark earlier, marks = later ++ mark :: earlier → mark.stopped = true →
        ∀ other ∈ mark :: later, other.step.isStart = false)
      ∧ (m.isStopped = true → ∀ mark ∈ marks, mark.step.isStart = false) := by
  obtain ⟨marks, hmarks, hheed⟩ := heeds_runSequence team binding slot sequence m
  refine ⟨marks, hmarks, fun ⟨mark, hmark, hnotice⟩ => ?_, ?_, fun hstopped mark hmark => ?_⟩
  · obtain ⟨marks', hmarks', hconcludes⟩ :=
      (course_runSequence team binding slot sequence m).concludes
    -- Both describe what was added to the same journal.
    have hsame : marks' = marks := List.append_cancel_right (hmarks'.symm.trans hmarks)
    rw [hsame] at hconcludes
    rcases hr : ((runSequence team (binding.lookup team) slot sequence).on m).1 with f | a
    · rw [hr] at hconcludes
      rcases hconcludes.eq_stopped_or with rfl | hquiet
      · rfl
      · rw [hquiet mark hmark] at hnotice
        cases hnotice
    · rw [hr] at hconcludes
      rw [hconcludes mark hmark] at hnotice
      cases hnotice
  · rintro later mark earlier rfl hstopped
    exact hheed.final hstopped
  · cases hstart : mark.step.isStart with
    | false => rfl
    | true =>
      have hawake := hheed.awake mark hmark hstart
      rw [hheed.stopped hstopped mark hmark] at hawake
      cases hawake

end Run
end DesktopMacro
