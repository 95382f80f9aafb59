/-
What a course leaves behind.

Whatever happens on a course, the same sequences are running afterwards, the library has the same
names, and nobody is detached who was not before. The journal grows, and only at its new end. Of a
failure that a course ends in, the journal shows where it came up, and that nothing but the leaving
of sequences came after it.

Keeping a journal, telling whoever listens what goes on and leaving notes in a log is asked of
nobody, and none of it changes what the run does to the world, to the variables and to its own
actions. So two machines that differ in nothing else are the same outwardly; what remains of the
journal are the requests to collaborators, in their order.
-/
import DesktopMacro.Proofs.Run.Lookups

set_option autoImplicit false

namespace DesktopMacro

variable {ω : Type} {rules : Rules ω} {m m₁ m' : Machine ω} {e : Option Failure}

/-! ## Machines -/

namespace Machine

@[simp] theorem journal_tell (m : Machine ω) (text : String) :
    (m.tell text).journal = m.journal := by
  unfold tell
  split <;> rfl

@[simp] theorem isStopped_tell (m : Machine ω) (text : String) :
    (m.tell text).isStopped = m.isStopped := by
  unfold tell
  split <;> rfl

@[simp] theorem journal_modifyFrame (m : Machine ω) (change : Frame → Frame) :
    (m.modifyFrame change).journal = m.journal := by
  unfold modifyFrame
  split <;> rfl

@[simp] theorem isStopped_modifyFrame (m : Machine ω) (change : Frame → Frame) :
    (m.modifyFrame change).isStopped = m.isStopped := by
  unfold modifyFrame
  split <;> rfl

end Machine

/-! ## What stays as it is -/

/-- What no course changes. -/
structure Machine.Kept (m m' : Machine ω) : Prop where
  frames : m'.frames.map Frame.name = m.frames.map Frame.name
  library : m'.library.names = m.library.names
  detached : m'.detached = m.detached

namespace Machine.Kept

theorem refl (m : Machine ω) : m.Kept m := ⟨rfl, rfl, rfl⟩

theorem trans (h : m.Kept m₁) (h' : m₁.Kept m') : m.Kept m' :=
  ⟨h'.frames.trans h.frames, h'.library.trans h.library, h'.detached.trans h.detached⟩

theorem callStack (h : m.Kept m') : m'.callStack = m.callStack := by
  unfold Machine.callStack
  rw [h.frames]

theorem frames_ne_nil (h : m.Kept m') (hm : m.frames ≠ []) : m'.frames ≠ [] := by
  intro hnil
  have hframes := h.frames
  rw [hnil, List.map_nil] at hframes
  exact hm (List.map_eq_nil_iff.1 hframes.symm)

theorem tell (m : Machine ω) (text : String) : m.Kept (m.tell text) := by
  unfold Machine.tell
  split <;> exact ⟨rfl, rfl, rfl⟩

theorem modifyFrame (m : Machine ω) {change : Frame → Frame}
    (h : ∀ frame, (change frame).name = frame.name) : m.Kept (m.modifyFrame change) := by
  unfold Machine.modifyFrame
  split
  · exact .refl m
  · next top frames hframes =>
    refine ⟨?_, rfl, rfl⟩
    rw [hframes]
    simp only [List.map_cons, h]

theorem mark (m : Machine ω) (step : Step) : m.Kept (m.mark step) := ⟨rfl, rfl, rfl⟩

theorem putStore (m : Machine ω) (s : Store) : m.Kept (m.putStore s) :=
  .modifyFrame m fun _ => rfl

theorem putEdit (m : Machine ω) (edit : Edit) : m.Kept (m.putEdit edit) :=
  .modifyFrame m fun _ => rfl

end Machine.Kept

theorem Run.names_settle (library : Library) (frame : Frame) :
    (Run.settle library frame).names = library.names := by
  unfold Run.settle
  split
  · rfl
  · exact library.names_modify _ fun _ => rfl

/-- A machine whose innermost sequence is taken away again is as it was. -/
theorem Machine.Kept.framed {frame : Frame} (h : (Run.pushFrame m frame).Kept m') :
    m.Kept (Run.popFrame m') := by
  have hframes : m'.frames.map Frame.name = frame.name :: m.frames.map Frame.name := h.frames
  unfold Run.popFrame
  split
  -- The inside cannot have taken the frame away: its name is still there.
  · next hnil =>
    rw [hnil] at hframes
    cases hframes
  · next top below hcons =>
    rw [hcons] at hframes
    refine ⟨(List.cons.inj hframes).2, ?_, h.detached⟩
    exact (Run.names_settle m'.library top).trans h.library

/-- **A course changes neither which sequences are running nor the names of the library.** -/
theorem Course.kept (hc : Course rules m e m') : m.Kept m' := by
  induction hc with
  | rest m => exact .refl m
  | next _ _ ih₁ ih₂ => exact ih₁.trans ih₂
  | noted _ _ ih => exact ⟨ih.frames, ih.library, ih.detached⟩
  | told text _ ih => exact ih.trans (.tell _ text)
  | stored m s => exact (Machine.Kept.mark m .stored).trans (.putStore _ s)
  | given m slot values => exact ⟨rfl, m.library.names_modify slot fun _ => rfl, rfl⟩
  | edited m edit => exact .putEdit m edit
  | asked => exact ⟨rfl, rfl, rfl⟩
  | started m step => exact .mark m step
  | failed m f => exact .mark m (.failed f)
  | mended m f => exact .mark m (.failed f)
  | noticed m => exact .mark m .noticed
  | tolerated _ _ ih => exact ih
  | blamed _ _ ih => exact ih
  | framed _ _ _ _ ih => exact ih.framed
  | detached _ _ ih => exact ⟨ih.frames, ih.library, rfl⟩

namespace Run

/-- A frame that comes on top has the last name on the stack. -/
theorem callStack_pushFrame (m : Machine ω) (frame : Frame) :
    (pushFrame m frame).callStack = m.callStack ++ [frame.name] := by
  show (frame.name :: m.frames.map Frame.name).reverse = _
  rw [List.reverse_cons]
  rfl

/-- A sequence that starts is written down once it is on the stack. -/
theorem journal_pushFrame (m : Machine ω) (frame : Frame) :
    ∃ mark : Mark, mark.step = .entered ∧ mark.callStack = (pushFrame m frame).callStack
      ∧ (pushFrame m frame).journal = mark :: m.journal :=
  ⟨_, rfl, rfl, rfl⟩

/-- One that ends is written down once it is off the stack. -/
theorem journal_popFrame (m : Machine ω) :
    (popFrame m).journal = m.journal ∨
      ∃ mark : Mark, mark.step = .left ∧ mark.callStack = (popFrame m).callStack
        ∧ (popFrame m).journal = mark :: m.journal := by
  unfold popFrame
  split
  · exact .inl rfl
  · exact .inr ⟨_, rfl, rfl, rfl⟩

end Run

/-! ## Where a failure came up -/

namespace Failure

/-- A failure as it came up, or blamed on an action since. -/
def IsFrom (f first : Failure) : Prop := f = first ∨ ∃ action, f = first.blame action

/-- Who is blamed first stays to blame. -/
theorem blame_blame (f : Failure) (a b : Action) : (f.blame a).blame b = f.blame a := by
  cases f <;> rfl

theorem IsFrom.blame {f first : Failure} (h : f.IsFrom first) (action : Action) :
    (f.blame action).IsFrom first := by
  rcases h with rfl | ⟨earlier, rfl⟩
  · exact .inr ⟨action, rfl⟩
  · exact .inr ⟨earlier, blame_blame first earlier action⟩

/-- **The journal of a failure**, newest mark first: it came up at some mark, or was noticed there,
and afterwards sequences were left. No cancellation had been noticed before. -/
def ComesFrom (f : Failure) (marks : List Mark) : Prop :=
  ∃ later mark earlier, marks = later ++ mark :: earlier
    ∧ (∀ after ∈ later, after.step = .left)
    ∧ (∀ before ∈ earlier, before.step.isNotice = false)
    ∧ (mark.step = .noticed ∧ f = .stopped ∨ ∃ first, mark.step = .failed first ∧ f.IsFrom first)

namespace ComesFrom

variable {f : Failure} {marks : List Mark}

/-- A failure that has come up just now. -/
theorem now {mark : Mark} (h : mark.step = .noticed ∧ f = .stopped ∨
    ∃ first, mark.step = .failed first ∧ f.IsFrom first) : f.ComesFrom [mark] :=
  ⟨[], mark, [], rfl, List.forall_mem_nil _, List.forall_mem_nil _, h⟩

theorem blame (h : f.ComesFrom marks) (action : Action) : (f.blame action).ComesFrom marks := by
  obtain ⟨later, mark, earlier, hmarks, hlater, hearlier, hmark⟩ := h
  refine ⟨later, mark, earlier, hmarks, hlater, hearlier, ?_⟩
  rcases hmark with ⟨hnoticed, rfl⟩ | ⟨first, hfailed, hfirst⟩
  · exact .inl ⟨hnoticed, rfl⟩
  · exact .inr ⟨first, hfailed, hfirst.blame action⟩

/-- Only a failure that is the cancellation has been noticed. -/
theorem eq_stopped_or (h : f.ComesFrom marks) :
    f = .stopped ∨ ∀ mark ∈ marks, mark.step.isNotice = false := by
  obtain ⟨later, mark, earlier, rfl, hlater, hearlier, hmark⟩ := h
  rcases hmark with ⟨-, hstopped⟩ | ⟨first, hfailed, -⟩
  · exact .inl hstopped
  · refine .inr fun other hother => ?_
    rcases List.mem_append.1 hother with hafter | hrest
    · rw [hlater other hafter]
      rfl
    · rcases List.mem_cons.1 hrest with rfl | hbefore
      · rw [hfailed]
        rfl
      · exact hearlier other hbefore

end ComesFrom
end Failure

/-- How the new marks of a course go with its ending: no cancellation is noticed unless it is what
the course ends in. -/
def Run.Concludes (marks : List Mark) : Option Failure → Prop
  | none => ∀ mark ∈ marks, mark.step.isNotice = false
  | some f => f.ComesFrom marks

namespace Run.Concludes

variable {marks before : List Mark}

theorem append (hbefore : Concludes before none) (h : Concludes marks e) :
    Concludes (marks ++ before) e := by
  cases e with
  | none =>
    intro mark hmark
    rcases List.mem_append.1 hmark with hnew | hold
    · exact h mark hnew
    · exact hbefore mark hold
  | some f =>
    obtain ⟨later, mark, earlier, rfl, hlater, hearlier, hmark⟩ := h
    -- The failure came up where it did; what was there before is older than that.
    refine ⟨later, mark, earlier ++ before, by simp, hlater, fun old hold => ?_, hmark⟩
    rcases List.mem_append.1 hold with hnear | hfar
    · exact hearlier old hnear
    · exact hbefore old hfar

/-- Leaving a sequence says nothing of how a course ended. -/
theorem left (h : Concludes marks e) {mark : Mark} (hmark : mark.step = .left) :
    Concludes (mark :: marks) e := by
  cases e with
  | none =>
    intro other hother
    rcases List.mem_cons.1 hother with rfl | hold
    · rw [hmark]
      rfl
    · exact h other hold
  | some f =>
    obtain ⟨later, first, earlier, rfl, hlater, hearlier, hfirst⟩ := h
    refine ⟨mark :: later, first, earlier, rfl, fun after hafter => ?_, hearlier, hfirst⟩
    rcases List.mem_cons.1 hafter with rfl | hold
    · exact hmark
    · exact hlater after hold

theorem single {mark : Mark} (h : mark.step.isNotice = false) : Concludes [mark] none :=
  fun other hother => by rwa [List.mem_singleton.1 hother]

theorem nil : Concludes [] none := List.forall_mem_nil _

/-- A course that writes one step down, which is no notice, and ends well. -/
theorem of_mark (m : Machine ω) {step : Step} (h : step.isNotice = false)
    (hm' : m'.journal = (m.mark step).journal) :
    ∃ marks, m'.journal = marks ++ m.journal ∧ Concludes marks none :=
  ⟨[⟨step, m.isStopped, m.callStack⟩], hm', single h⟩

end Run.Concludes

open Run in
/-- **A course only adds to the journal**, and what it adds goes with its ending. The induction
follows the course; after a failure has come up, only the leaving of a frame writes a mark. -/
theorem Course.concludes (hc : Course rules m e m') :
    ∃ marks, m'.journal = marks ++ m.journal ∧ Concludes marks e := by
  induction hc with
  | rest m => exact ⟨[], rfl, .nil⟩
  | next _ _ ih₁ ih₂ =>
    obtain ⟨before, hbefore, hquiet⟩ := ih₁
    obtain ⟨marks, hmarks, hconcludes⟩ := ih₂
    refine ⟨marks ++ before, ?_, hquiet.append hconcludes⟩
    rw [hmarks, hbefore, List.append_assoc]
  | noted _ _ ih => exact ih
  | told text _ ih =>
    rw [Machine.journal_tell]
    exact ih
  | stored m s => exact Concludes.of_mark m rfl (Machine.journal_modifyFrame (m.mark .stored) _)
  | given m slot values => exact Concludes.of_mark m rfl rfl
  | edited m edit =>
    rw [Machine.putEdit, Machine.journal_modifyFrame]
    exact ⟨[], rfl, .nil⟩
  | asked m request reply => exact Concludes.of_mark m rfl rfl
  | started m step isStart =>
    refine Concludes.of_mark m ?_ rfl
    cases step <;> first | rfl | cases isStart
  | failed m f =>
    exact ⟨[⟨.failed f, m.isStopped, m.callStack⟩], rfl, .now (.inr ⟨f, rfl, .inl rfl⟩)⟩
  | mended m f => exact Concludes.of_mark m rfl rfl
  | noticed m => exact ⟨[⟨.noticed, m.isStopped, m.callStack⟩], rfl, .now (.inl ⟨rfl, rfl⟩)⟩
  | @tolerated m m₁ f tolerable _ ih =>
    obtain ⟨marks, hmarks, hcomes⟩ := ih
    -- A cancellation is not tolerated, and without one nothing has been noticed.
    refine ⟨marks, hmarks, hcomes.eq_stopped_or.resolve_left ?_⟩
    rintro rfl
    cases tolerable
  | blamed action _ ih =>
    obtain ⟨marks, hmarks, hcomes⟩ := ih
    exact ⟨marks, hmarks, hcomes.blame action⟩
  | @framed m m₁ e sequence slot _ hinside ih =>
    obtain ⟨marks, hmarks, hconcludes⟩ := ih
    obtain ⟨entered, hentered, -, hpush⟩ := journal_pushFrame m (.enter sequence slot)
    have hquiet : entered.step.isNotice = false := by rw [hentered]; rfl
    have hboth : Concludes (marks ++ [entered]) e := .append (.single hquiet) hconcludes
    have hnew : m₁.journal = (marks ++ [entered]) ++ m.journal := by
      rw [hmarks, hpush, List.append_assoc]
      rfl
    -- The mark of leaving comes after everything inside, and is the only one that may.
    rcases journal_popFrame m₁ with hsame | ⟨mark, hleft, -, hpop⟩
    · exact ⟨marks ++ [entered], by rw [hsame, hnew], hboth⟩
    · exact ⟨mark :: (marks ++ [entered]), by rw [hpop, hnew]; rfl, hboth.left hleft⟩
  | detached _ _ ih => exact ih

/-! ## What a run does outwardly -/

/-- Something that only the log shows. -/
def Event.isLogged : Event → Bool
  | logged _ => true
  | _ => false

/-- A step that asks a collaborator for something. -/
def Step.isRequest : Step → Bool
  | asked _ => true
  | _ => false

namespace Machine

/-- **A machine as it is outwardly**: without what was heard and logged, and with no steps in its
journal but the requests. -/
def outward (m : Machine ω) : Machine ω :=
  { m with
    heard := []
    events := m.events.filter (fun event => !event.isLogged)
    journal := m.journal.filter (fun mark => mark.step.isRequest) }

@[simp] theorem outward_mark {step : Step} (h : step.isRequest = false) (m : Machine ω) :
    (m.mark step).outward = m.outward := by
  unfold outward mark
  simp only [List.filter_cons, h, Bool.false_eq_true, if_false]

@[simp] theorem outward_logged (notes : List Note) (m : Machine ω) :
    (m.see (notes.map .logged)).outward = m.outward := by
  have hnone : (notes.map Event.logged).reverse.filter (fun event => !event.isLogged) = [] := by
    simp [List.filter_eq_nil_iff, Event.isLogged]
  unfold outward see
  simp only [List.filter_append, hnone, List.nil_append]

@[simp] theorem outward_tell (m : Machine ω) (text : String) :
    (m.tell text).outward = m.outward := by
  unfold tell
  split <;> rfl

theorem outward_log (m : Machine ω) (level : Level) (text : String) :
    ((m.see [.logged ⟨level, text⟩]).tell text).outward = m.outward := by
  rw [outward_tell]
  exact m.outward_logged [⟨level, text⟩]

/-- Whether a machine has been stopped shows outwardly. -/
theorem isStopped_of_outward {m m' : Machine ω} (h : m.outward = m'.outward) :
    m.isStopped = m'.isStopped := by
  have hsame : m.outward.isStopped = m'.outward.isStopped := congrArg isStopped h
  exact hsame

end Machine
end DesktopMacro
