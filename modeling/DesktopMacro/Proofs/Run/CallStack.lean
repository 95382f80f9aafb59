/-
The discipline of the call stack.

A sequence comes on top of others only if it is one of the library and no sequence of its name is
running, names taken without regard to case. So no two running sequences have the same name, and
there is at most one more of them than the library has sequences. And whoever puts a sequence on top
takes it away again, however the sequence ends.
-/
import DesktopMacro.Proofs.Run.Journal
import Mathlib.Data.List.Nodup
import Mathlib.Data.List.Perm.Subperm

set_option autoImplicit false

namespace DesktopMacro

variable {ω : Type} {m m₁ m' : Machine ω} {e : Option Failure}

/-! ## Stacks in order -/

/-- **A call stack in order**, outermost name first: no two names are the same, and all but the
first one are names of the library. -/
structure InOrder (names stack : List String) : Prop where
  distinct : (stack.map Text.fold).Nodup
  known : ∀ name ∈ stack.tail, name ∈ names

namespace InOrder

variable {names stack : List String}

theorem nil (names : List String) : InOrder names [] := ⟨List.nodup_nil, nofun⟩

/-- There is no room for more names than the library has, and the first one. -/
theorem length_le (h : InOrder names stack) : stack.length ≤ names.length + 1 := by
  cases stack with
  | nil => exact Nat.zero_le _
  | cons first rest =>
    have hdistinct : (rest.map Text.fold).Nodup := (List.nodup_cons.1 h.distinct).2
    -- The first name need not be one of the library, so it is counted apart.
    have hsubset : rest.map Text.fold ⊆ names.map Text.fold := List.map_subset _ h.known
    have hlength := (hdistinct.subperm hsubset).length_le
    rw [List.length_map, List.length_map] at hlength
    exact Nat.succ_le_succ hlength

/-- A name comes on top. -/
theorem push (h : InOrder names stack) {name : String}
    (hidle : ∀ running ∈ stack, Text.fold running ≠ Text.fold name)
    (hknown : stack = [] ∨ name ∈ names) : InOrder names (stack ++ [name]) where
  distinct := by
    rw [List.map_append, List.nodup_append]
    refine ⟨h.distinct, List.nodup_singleton _, ?_⟩
    intro a ha b hb
    -- No name below is the new one, whatever the case of their letters.
    obtain ⟨running, hrunning, rfl⟩ := List.mem_map.1 ha
    rw [List.mem_singleton.1 hb]
    exact hidle running hrunning
  known := by
    cases stack with
    | nil => nofun
    | cons first rest =>
      intro other hother
      rcases List.mem_append.1 hother with hrest | hlast
      · exact h.known other hrest
      · rw [List.mem_singleton.1 hlast]
        exact hknown.resolve_left (List.cons_ne_nil _ _)

end InOrder

/-! ## Courses keep the stack in order -/

/-- A sequence that comes on top is not running, and is one of the library unless it is the
first. -/
def Rules.stack (ω : Type) : Rules ω where
  entry m _ sequence := Run.isRunning m sequence.name = false
    ∧ (m.frames = [] ∨ sequence.name ∈ m.library.names)
  point _ _ := True

/-- What was added to the journal between two machines was written with the stack in order. -/
def Machine.Ordered (m m' : Machine ω) : Prop :=
  ∃ marks, m'.journal = marks ++ m.journal
    ∧ ∀ mark ∈ marks, InOrder m.library.names mark.callStack

namespace Machine.Ordered

theorem silent (h : m'.journal = m.journal) : m.Ordered m' := ⟨[], h, nofun⟩

theorem mark (h : InOrder m.library.names m.callStack) (step : Step) : m.Ordered (m.mark step) :=
  ⟨[_], rfl, fun mark hmark => by rwa [List.mem_singleton.1 hmark]⟩

theorem trans (h : m.Ordered m₁) (hlibrary : m₁.library.names = m.library.names)
    (h' : m₁.Ordered m') : m.Ordered m' := by
  obtain ⟨earlier, hearlier, horder⟩ := h
  obtain ⟨later, hlater, horder'⟩ := h'
  refine ⟨later ++ earlier, ?_, fun mark hmark => ?_⟩
  · rw [hlater, hearlier, List.append_assoc]
  · rcases List.mem_append.1 hmark with hnew | hold
    · have hmark' := horder' mark hnew
      rwa [hlibrary] at hmark'
    · exact horder mark hold

end Machine.Ordered

/-- A machine whose stack is in order stays so where the running sequences and the library do. -/
theorem Machine.Kept.inOrder (hkept : m.Kept m') (h : InOrder m.library.names m.callStack) :
    InOrder m'.library.names m'.callStack := by
  rwa [hkept.library, hkept.callStack]

theorem Run.inOrder_pushFrame (h : InOrder m.library.names m.callStack) {sequence : Sequence}
    (slot : Option Nat) (hentry : (Rules.stack ω).entry m slot sequence) :
    InOrder m.library.names (pushFrame m (.enter sequence slot)).callStack := by
  rw [callStack_pushFrame]
  show InOrder m.library.names (m.callStack ++ [sequence.name])
  refine h.push (fun running hrunning heq => ?_) (hentry.2.imp (fun hnil => ?_) id)
  · have hany : isRunning m sequence.name = true :=
      List.any_eq_true.2 ⟨running, hrunning, by simpa using heq⟩
    rw [hentry.1] at hany
    cases hany
  · unfold Machine.callStack
    rw [hnil]
    rfl

/-- **A course keeps the stack in order at every mark.** Only a frame that is entered or left
changes the stack. -/
theorem Course.ordered (hc : Course (Rules.stack ω) m e m')
    (h : InOrder m.library.names m.callStack) : m.Ordered m' := by
  induction hc with
  | rest m => exact .silent rfl
  | next h₁ _ ih₁ ih₂ => exact (ih₁ h).trans h₁.kept.library (ih₂ (h₁.kept.inOrder h))
  | noted notes _ ih => exact ih h
  | told text _ ih =>
    obtain ⟨marks, hmarks, horder⟩ := ih h
    exact ⟨marks, by rw [Machine.journal_tell, hmarks], horder⟩
  | stored m s =>
    exact (Machine.Ordered.mark h .stored).trans rfl (.silent (Machine.journal_modifyFrame _ _))
  | given m slot values =>
    exact (Machine.Ordered.mark h .stored).trans rfl (.silent rfl)
  | edited m edit => exact .silent (Machine.journal_modifyFrame _ _)
  | asked m request reply =>
    exact (Machine.Ordered.mark h (.asked request)).trans rfl (.silent rfl)
  | started m step => exact .mark h step
  | failed m f => exact .mark h (.failed f)
  | mended m f => exact .mark h (.failed f)
  | noticed m => exact .mark h .noticed
  | tolerated _ _ ih => exact ih h
  | blamed _ _ ih => exact ih h
  | @framed m m₁ e sequence slot hentry hinside ih =>
    have hpushed := Run.inOrder_pushFrame h slot hentry
    obtain ⟨entered, -, hentered, hpush⟩ := Run.journal_pushFrame m (.enter sequence slot)
    -- Three parts: the frame is entered, the inside runs, the frame is left.
    have hbefore : m.Ordered (Run.pushFrame m (.enter sequence slot)) :=
      ⟨[entered], hpush, fun mark hmark => by rwa [List.mem_singleton.1 hmark, hentered]⟩
    have hleft : m₁.Ordered (Run.popFrame m₁) := by
      rcases Run.journal_popFrame m₁ with hsame | ⟨left, -, hstack, hpop⟩
      · exact .silent hsame
      · refine ⟨[left], hpop, fun mark hmark => ?_⟩
        rw [List.mem_singleton.1 hmark, hstack, hinside.kept.framed.callStack, hinside.kept.library]
        exact h
    exact (hbefore.trans rfl (ih hpushed)).trans hinside.kept.library hleft
  | detached _ _ ih => exact ih h

/-! ## Calls -/

namespace Run

/-- A call puts the stack back, on every machine. -/
theorem callStack_call (team : Collaborators ω) (depth : Nat) (call : Call) (m : Machine ω) :
    ((call.run team (libraryLookup team depth)).on m).2.callStack = m.callStack :=
  (course_call team depth call (Rules.allow_free team) Rules.opens_free (fun _ _ _ _ _ => trivial)
    m.within_free).kept.callStack

/-- A call that nothing is running under keeps the stack in order. -/
theorem ordered_call (team : Collaborators ω) (depth : Nat) (call : Call)
    (hrest : m.frames = []) :
    m.Ordered ((call.run team (libraryLookup team depth)).on m).2 := by
  have hopens : (Rules.stack ω).Opens := fun _ _ _ hoffers =>
    ⟨hoffers.2, .inr (mem_names_of_offers hoffers)⟩
  have hentry : ∀ m' : Machine ω, ∀ slot sequence, m'.frames = m.frames →
      m'.library = m.library → (Rules.stack ω).entry m' slot sequence :=
    fun m' _ sequence hframes _ => by
    rw [hrest] at hframes
    refine ⟨?_, .inl hframes⟩
    unfold isRunning Machine.callStack
    rw [hframes]
    rfl
  -- At rest the stack is empty, and an empty stack is in order over any library.
  have hstack : m.callStack = [] := by
    unfold Machine.callStack
    rw [hrest]
    rfl
  refine (course_call team depth call (fun _ _ _ => trivial) hopens hentry ?_).ordered ?_
  · exact fun _ _ _ _ _ _ _ _ => trivial
  · rw [hstack]
    exact .nil _

/-- **The discipline of the call stack.** A call leaves the stack as it was, on every machine and
however it ends. And in a call that nothing is running under, at every step no two names on the
stack are the same, and there is at most one more of them than the library has sequences. -/
theorem callStack_disciplined (team : Collaborators ω) (depth : Nat) (call : Call)
    (m : Machine ω) :
    ((call.run team (libraryLookup team depth)).on m).2.callStack = m.callStack
      ∧ (m.frames = [] → ∃ marks,
        ((call.run team (libraryLookup team depth)).on m).2.journal = marks ++ m.journal
        ∧ ∀ mark ∈ marks, (mark.callStack.map Text.fold).Nodup
          ∧ mark.callStack.length ≤ m.library.sequences.length + 1) := by
  refine ⟨callStack_call team depth call m, fun hrest => ?_⟩
  obtain ⟨marks, hmarks, horder⟩ := ordered_call team depth call hrest
  refine ⟨marks, hmarks, fun mark hmark => ⟨(horder mark hmark).distinct, ?_⟩⟩
  have hlength := (horder mark hmark).length_le
  rwa [Library.names, List.length_map] at hlength

end Run
end DesktopMacro
