/-
Whose variables a payload can reach.

A payload can start sequences of the library, and they can start others; all of them work on
variables of their own. The variables of whatever is running already are out of their reach, for two
reasons: a frame below another one is left alone by every course, and in the library only sequences
are written to that are not running. Besides its calls a payload changes no variables at all, and a
call that is refused changes none in the library either.

So a payload upholds both, by `DesktopMacro.Proofs.Run.FrameRules`, because the sequences that it
asks for do.
-/
import DesktopMacro.Proofs.Run.Blame
import DesktopMacro.Proofs.Run.FrameRules
import DesktopMacro.Proofs.Run.Termination
import DesktopMacro.Proofs.Sequence.Names

set_option autoImplicit false

namespace DesktopMacro

variable {ω : Type} {m m₁ m' : Machine ω} {e : Option Failure}

/-! ## What is running in the library -/

/-- Only a sequence that a machine offers may come on top of it. -/
def Rules.offered (ω : Type) : Rules ω where
  entry m slot sequence := ∃ number, slot = some number ∧ m.Offers number sequence.name
  point _ _ := True

/-- **The library keeps what is running**: a sequence of the library whose name is running has not
changed, and so neither have its variables. -/
def Machine.Spares (m m' : Machine ω) : Prop :=
  ∀ (slot : Nat) (sequence : Sequence), m.library.sequences[slot]? = some sequence →
    Run.isRunning m sequence.name = true → m'.library.sequences[slot]? = some sequence

theorem Machine.Kept.isRunning (hkept : m.Kept m') (name : String) :
    Run.isRunning m' name = Run.isRunning m name := by
  unfold Run.isRunning
  rw [hkept.callStack]

namespace Machine.Spares

theorem of_library (h : m'.library = m.library) : m.Spares m' := by
  intro slot sequence hsequence _
  rw [h]
  exact hsequence

/-- What is running at first is still running when the second part begins. -/
theorem trans (h : m.Spares m₁) (hrunning : ∀ name, Run.isRunning m₁ name = Run.isRunning m name)
    (h' : m₁.Spares m') : m.Spares m' := by
  intro slot sequence hsequence hname
  refine h' slot sequence (h slot sequence hsequence hname) ?_
  rw [hrunning, hname]

/-- A sequence that is offered is not running, so it may change. -/
theorem modify (h : m.Spares m₁) {number : Nat} {name : String} (offered : m.Offers number name)
    (change : Sequence → Sequence) (hlibrary : m'.library = m₁.library.modify number change) :
    m.Spares m' := by
  intro slot sequence hsequence hrunning
  have hne : number ≠ slot := by
    rintro rfl
    have hname := offered.1
    rw [hsequence] at hname
    -- Otherwise the one that is running would be the one that is offered.
    rw [Option.some.inj hname, offered.2] at hrunning
    cases hrunning
  rw [hlibrary, Library.modify, List.getElem?_modify_ne _ _ hne]
  exact h slot sequence hsequence hrunning

end Machine.Spares

theorem Machine.slots_modifyFrame (m : Machine ω) {change : Frame → Frame}
    (h : ∀ frame, (change frame).slot = frame.slot) :
    (m.modifyFrame change).frames.map Frame.slot = m.frames.map Frame.slot := by
  unfold modifyFrame
  split
  · rfl
  · next top frames hframes => rw [hframes, List.map_cons, List.map_cons, h]

/-- A running sequence keeps its number in the library. -/
theorem Course.slots {rules : Rules ω} (hc : Course rules m e m') :
    m'.frames.map Frame.slot = m.frames.map Frame.slot := by
  induction hc with
  | next _ _ ih₁ ih₂ => exact ih₂.trans ih₁
  | told text _ ih => rw [Machine.frames_tell, ih]
  | stored m s => exact Machine.slots_modifyFrame (m.mark .stored) fun _ => rfl
  | edited m edit => exact m.slots_modifyFrame fun _ => rfl
  | framed sequence slot _ hinside => rw [hinside.frames_popFrame]
  | noted _ _ ih => exact ih
  | tolerated _ _ ih => exact ih
  | blamed _ _ ih => exact ih
  | detached _ _ ih => exact ih
  | _ => rfl

theorem Run.library_popFrame {frame : Frame} {frames : List Frame}
    (hframes : m.frames = frame :: frames) :
    (popFrame m).library = settle m.library frame := by
  unfold popFrame
  rw [hframes]
  rfl

/-- **A course spares what is running.** The library changes where variables are given and where a
frame is left, and both happen only to a sequence that was offered before. -/
theorem Course.spares (hc : Course (Rules.offered ω) m e m') : m.Spares m' := by
  induction hc with
  | next h₁ _ ih₁ ih₂ => exact ih₁.trans h₁.kept.isRunning ih₂
  | noted _ _ ih => exact ih
  | @told m m₁ e text _ ih =>
    have hlibrary : (m₁.tell text).library = m₁.library := by
      unfold Machine.tell
      split <;> rfl
    intro slot sequence hsequence hrunning
    rw [hlibrary]
    exact ih slot sequence hsequence hrunning
  | stored m s =>
    refine .of_library ?_
    unfold Machine.putStore Machine.modifyFrame
    split <;> rfl
  | given m slot values name offered => exact Machine.Spares.modify (.of_library rfl) offered _ rfl
  | edited m edit =>
    refine .of_library ?_
    unfold Machine.putEdit Machine.modifyFrame
    split <;> rfl
  | tolerated _ _ ih => exact ih
  | blamed _ _ ih => exact ih
  | @framed m m₁ e sequence slot allowed hinside ih =>
    obtain ⟨number, rfl, offered⟩ := allowed
    have hinner : m.Spares m₁ := fun other found hfound hrunning =>
      ih other found hfound (by rw [Run.isRunning_pushFrame, hrunning, Bool.true_or])
    -- The frame that is left is the one that was entered, so it settles only its own sequence.
    have hslots : m₁.frames.map Frame.slot = some number :: m.frames.map Frame.slot := hinside.slots
    obtain ⟨top, below, hframes, htop, -⟩ := List.map_eq_cons_iff.1 hslots
    refine hinner.modify offered top.leave ?_
    rw [Run.library_popFrame hframes, Run.settle, htop]
  | detached _ _ ih => exact ih
  | _ => exact .of_library rfl

/-! ## Sequences that are looked up -/

/-- **A machine refuses a name** that its library does not know, or that is running. -/
def Machine.Refuses (m : Machine ω) (name : String) : Prop :=
  ∀ sequence, m.library.find? name = some sequence → Run.isRunning m sequence.name = true

namespace Run

variable {team : Collaborators ω} {P : Failure → Prop}

/-- What is refused is only noted. -/
theorem on_findIdle_of_refuses {name : String} (h : m.Refuses name) :
    ∃ notes : List Note, (findIdle name).on m = (.ok none, m.see (notes.map .logged)) := by
  unfold findIdle
  rw [on_get_bind]
  cases hindex : m.library.indexOf? name with
  | none => exact ⟨_, rfl⟩
  | some slot =>
    cases hsequence : m.library.sequences[slot]? with
    | none => exact ⟨[], by simp only [hsequence]; rfl⟩
    | some sequence =>
      have hrunning := h sequence (Library.find?_of_indexOf? hindex hsequence)
      exact ⟨_, by simp only [hsequence, hrunning]; rfl⟩

/-- What changes when a sequence is looked up that a machine refuses: nothing that is kept. -/
def KeepsRefused (name : String) (m m' : Machine ω) : Prop :=
  m.Refuses name → m'.frames = m.frames ∧ m'.library = m.library

theorem frameRule_keepsRefused (name : String) : FrameRule (KeepsRefused (ω := ω) name) where
  silent hframes hlibrary _ := ⟨hframes, hlibrary⟩
  trans h h' hrefuses := by
    obtain ⟨hframes, hlibrary⟩ := h hrefuses
    -- Frames and library are as they were, so the name is still refused.
    have hstill : Machine.Refuses _ name := fun sequence hfound => by
      rw [isRunning_congr hframes]
      exact hrefuses sequence (hlibrary ▸ hfound)
    obtain ⟨hframes', hlibrary'⟩ := h' hstill
    exact ⟨hframes'.trans hframes, hlibrary'.trans hlibrary⟩

theorem upholds_refused (team : Collaborators ω) (depth : Nat) (name : String)
    (values : List (String × String)) :
    (libraryLookup team depth name values).Upholds (KeepsRefused name) := by
  intro m hrefuses
  obtain ⟨notes, hnone⟩ := on_findIdle_of_refuses hrefuses
  cases depth with
  | zero =>
    unfold libraryLookup lookupOver
    rw [on_bind_ok hnone]
    exact ⟨rfl, rfl⟩
  | succ depth =>
    unfold libraryLookup lookupOver
    rw [on_bind_ok hnone]
    exact ⟨rfl, rfl⟩

/-- A sequence that runs from inside another one leaves the frames as they were. -/
theorem frames_runNested {lookup : Lookup ω} (hlookup : lookup.Takes (Rules.free ω) P)
    (slot : Nat) (sequence : Sequence) (m : Machine ω) :
    ((runNested team (some lookup) slot sequence).on m).2.frames = m.frames := by
  have hbody : (do
      log s!"Running nested sequence '{sequence.name}'"
      runActions team (some lookup) [] 0 sequence.actions : Run ω Unit).Takes (Rules.free ω)
      (sequence.Escapes team (Rules.free ω) P) :=
    (takes_log _ _).bind fun _ =>
      takes_runActions (Rules.allow_free team) hlookup.of_some [] 0 sequence.actions
  have hframe : ∀ m : Machine ω, ((inFrame (.enter sequence (some slot)) do
      log s!"Running nested sequence '{sequence.name}'"
      runActions team (some lookup) [] 0 sequence.actions).on m).2.frames = m.frames := fun m => by
    rw [on_inFrame]
    exact ((hbody _).course (Machine.within_free _)).frames_popFrame
  unfold runNested
  rw [on_detachedAtRest]
  split
  · exact hframe { m with detached := true }
  · exact hframe m

theorem frames_lookupOver {inner : Option (Lookup ω)}
    (hinner : ∀ deeper ∈ inner, deeper.Takes (Rules.free ω) P) (name : String)
    (values : List (String × String)) (m : Machine ω) :
    ((lookupOver team inner name values).on m).2.frames = m.frames := by
  unfold lookupOver
  rcases on_findIdle name m with ⟨notes, hnone⟩ | ⟨slot, sequence, -, -, hsome⟩
  · rw [on_bind_ok hnone]
    rfl
  · rw [on_bind_ok hsome]
    dsimp only
    rw [on_bind_ok (on_giveVariables slot values m)]
    cases inner with
    | none => exact frames_given m slot values
    | some deeper =>
      let filled : Sequence := { sequence with store := setAll sequence.store values }
      have hnested : ((runNested team (some deeper) slot filled).on (given m slot values)).2.frames
          = (given m slot values).frames :=
        frames_runNested (hinner deeper rfl) slot filled (given m slot values)
      dsimp only
      unfold succeeded
      rw [on_outcome_bind, ← frames_given m slot values, ← hnested]
      -- Whatever the answer is, no more than a note is taken on it.
      split
      · rfl
      · split
        · rfl
        · rfl

/-- **What is out of reach of a lookup**: the frames, and what is running in the library. -/
def KeepsRunning (m m' : Machine ω) : Prop := m'.frames = m.frames ∧ m.Spares m'

theorem frameRule_keepsRunning : FrameRule (KeepsRunning (ω := ω)) where
  silent hframes hlibrary := ⟨hframes, .of_library hlibrary⟩
  trans h h' := ⟨h'.1.trans h.1, h.2.trans (isRunning_congr h.1) h'.2⟩

theorem upholds_keepsRunning (team : Collaborators ω) (depth : Nat) (name : String)
    (values : List (String × String)) :
    (libraryLookup team depth name values).Upholds KeepsRunning := by
  intro m
  refine ⟨?_, ?_⟩
  · have hdeeper := takes_libraryLookup (Rules.allow_free team) Rules.opens_free
    cases depth with
    | zero =>
      have hnone : ∀ deeper ∈ (none : Option (Lookup ω)),
          deeper.Takes (Rules.free ω) (fun _ => True) := nofun
      exact frames_lookupOver hnone name values m
    | succ depth => exact frames_lookupOver (hdeeper depth).of_some name values m
  · have hopens : (Rules.offered ω).Opens := fun _ slot _ offered => ⟨slot, rfl, offered⟩
    have htakes : (libraryLookup team depth).Takes (Rules.offered ω) fun f => f.isAction = false :=
      takes_libraryLookup (fun _ _ _ => trivial) hopens depth
    exact ((htakes name values m).course fun _ _ _ _ _ _ _ _ => trivial).spares

/-! ## Payloads -/

/-- **A payload leaves the variables of others alone**, however it ends. An action with a payload
changes no variables of a sequence that is running, neither in its frame nor in the library. And a
call of a name that is refused changes no variables of any sequence at all. -/
theorem payload_leaves_variables (team : Collaborators ω) (depth : Nat) (m : Machine ω) :
    (∀ place header task,
      let m' := ((runAction team (some (libraryLookup team depth)) place
        (.task header (.payload task))).on m).2
      m'.frames = m.frames ∧
        ∀ (slot : Nat) (sequence : Sequence), m.library.sequences[slot]? = some sequence →
          isRunning m sequence.name = true → m'.library.sequences[slot]? = some sequence) ∧
    ∀ (follower : Directive.Follower) name values call,
      Directive.readCall name values = .ok call → m.Refuses call.name →
        let m' := ((follower.call (some (libraryLookup team depth)) name values).on m).2
        m'.frames = m.frames ∧ m'.library = m.library := by
  refine ⟨fun place header task => ?_, fun follower name values call hread hrefuses => ?_⟩
  · have hunchanged : ∀ change : Change, change.apply (.payload task) = .payload task := by
      intro change
      cases change <;> rfl
    obtain ⟨shown, hcurrent, -, -⟩ := on_current_of_unchanged place header hunchanged m
    have hpayload : (runPayload team (some (libraryLookup team depth))
        (.task shown (.payload task)) task).Upholds KeepsRunning :=
      frameRule_keepsRunning.habit.runPayload _ task (upholds_keepsRunning team depth)
    have hdispatch : (dispatch team place (.task shown (.payload task))
        (runPayload team (some (libraryLookup team depth)) (.task shown (.payload task))
          task)).Upholds KeepsRunning :=
      frameRule_keepsRunning.habit.dispatch place _ hpayload
    dsimp only [runAction]
    rw [on_bind_ok hcurrent]
    exact hdispatch m
  · refine (frameRule_keepsRefused call.name).habit.call follower (fun other hother texts => ?_) m
      hrefuses
    cases hread.symm.trans hother
    exact upholds_refused team depth call.name texts

/-- A sequence with a variable. -/
def counting : Sequence := ⟨"Count", "", [], setAll .empty [("n", "1")], ""⟩

/-- A machine on which the sequence is running. -/
def whileCounting : Machine Unit :=
  { Machine.initial () ⟨[counting]⟩ with frames := [.enter counting (some 0)] }

/-- An action that would give the sequence another value. -/
def recounting : Directive.Follower := ⟨.task (.initial "a") (.payload .initial), 0, 0⟩

/-- The sequence is refused while it is running, and its variable stays what it was. -/
theorem whileCounting_refuses :
    whileCounting.Refuses "count" ∧
      let m' := ((recounting.call (some (libraryLookup withoutDevices 1)) (.text "count")
        (.object [("n", .text "2")])).on whileCounting).2
      m'.frames = whileCounting.frames ∧ m'.library = whileCounting.library := by
  have hrefuses : whileCounting.Refuses "count" := fun sequence hfound => by
    have hcounting : whileCounting.library.find? "count" = some counting := rfl
    cases hcounting.symm.trans hfound
    rfl
  exact ⟨hrefuses, (payload_leaves_variables withoutDevices 1 whileCounting).2 recounting
    (.text "count") (.object [("n", .text "2")]) ⟨"count", [("n", .text "2")]⟩ rfl hrefuses⟩

end Run
end DesktopMacro
