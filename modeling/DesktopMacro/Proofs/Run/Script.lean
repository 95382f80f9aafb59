/-
Running a script does not edit it.

The actions of a running sequence are the ones that are saved later, and two kinds of tasks write
into them: a variable task that names no variable gives itself a name, and a browser task keeps the
point that its script reports. Both also show what they have become, in the name of an action that
had none. Nothing else of a library changes, however a run ends and whatever other sequences it
starts.

What a run writes is in the edits of a frame until the frame is left. An edit suits a tree if what
it makes of the task at its place is one of the two changes; every edit that is made does, by the
rule for actions in `DesktopMacro.Proofs.Run.Habits`, and a frame whose edits suit the tree
leaves it with nothing else changed. That the tree which is left is the one that was run is what
`DesktopMacro.Proofs.Run.Ownership` says: a sequence of the library does not change while its name
is running.
-/
import DesktopMacro.Proofs.Run.FrameRules
import DesktopMacro.Proofs.Run.Habits
import DesktopMacro.Proofs.Run.Ownership

set_option autoImplicit false

namespace DesktopMacro

variable {ω : Type}

/-! ## What a run may make of a script -/

/-- **What a run may make of a task and its header**: nothing else, a variable where an enabled task
named none, or another point of a browser task. The name of the action changes at most with one of
these, and only if it was empty. -/
inductive Action.Task.Retouched :
    Action.Header → Action.Task → Action.Header → Action.Task → Prop where
  | same (header : Action.Header) (task : Action.Task) : Retouched header task header task
  | named {header : Action.Header} {task : VariableTask} (enabled : header.enabled = true)
    (unnamed : task.name = "") (name shown : String)
    (keeps : header.name ≠ "" → shown = header.name) :
    Retouched header (.variable task) { header with name := shown } (.variable { task with name })
  | pointed {header : Action.Header} {task : BrowserTask} (x y : Int) (shown : String)
    (keeps : header.name ≠ "" → shown = header.name) :
    Retouched header (.browser task) { header with name := shown } (.browser { task with x, y })

mutual

/-- **What a run may make of an action**: the shape of its tree stays. -/
inductive Action.Retouched : Action → Action → Prop where
  | task {header header' : Action.Header} {task task' : Action.Task}
    (h : Action.Task.Retouched header task header' task') :
    Retouched (.task header task) (.task header' task')
  | loop (header : Action.Header) (spec : LoopSpec) {actions actions' : List Action}
    (h : Action.AllRetouched actions actions') :
    Retouched (.loop header spec actions) (.loop header spec actions')
  | choice (header : Action.Header) (spec : ChoiceSpec)
    {thenActions thenActions' elseActions elseActions' : List Action}
    (hthen : Action.AllRetouched thenActions thenActions')
    (helse : Action.AllRetouched elseActions elseActions') :
    Retouched (.choice header spec thenActions elseActions)
      (.choice header spec thenActions' elseActions')

/-- What a run may make of actions side by side. -/
inductive Action.AllRetouched : List Action → List Action → Prop where
  | nil : AllRetouched [] []
  | cons {action action' : Action} {actions actions' : List Action}
    (head : Action.Retouched action action') (tail : Action.AllRetouched actions actions') :
    AllRetouched (action :: actions) (action' :: actions')

end

/-- **What a run may make of a sequence**; its variables are not part of the script. -/
structure Sequence.Retouched (before after : Sequence) : Prop where
  id : after.id = before.id
  name : after.name = before.name
  description : after.description = before.description
  actions : Action.AllRetouched before.actions after.actions

/-- **What a run may make of a library**: every sequence keeps its number. -/
structure Library.Retouched (before after : Library) : Prop where
  length : after.sequences.length = before.sequences.length
  sequences : ∀ (slot : Nat) (sequence : Sequence), before.sequences[slot]? = some sequence →
    ∃ now, after.sequences[slot]? = some now ∧ sequence.Retouched now

/-! ### One run after another -/

theorem Action.Task.Retouched.trans {header header₁ header₂ : Action.Header}
    {task task₁ task₂ : Action.Task} (h : Retouched header task header₁ task₁)
    (h' : Retouched header₁ task₁ header₂ task₂) : Retouched header task header₂ task₂ := by
  -- A name that is kept by the first step is not empty, so the second keeps it as well.
  cases h with
  | same => exact h'
  | named enabled unnamed name shown keeps =>
    cases h' with
    | same => exact .named enabled unnamed name shown keeps
    | named _ _ name' shown' keeps' =>
      exact .named enabled unnamed name' shown' fun hne =>
        (keeps' (by rw [keeps hne]; exact hne)).trans (keeps hne)
  | pointed x y shown keeps =>
    cases h' with
    | same => exact .pointed x y shown keeps
    | pointed x' y' shown' keeps' =>
      exact .pointed x' y' shown' fun hne =>
        (keeps' (by rw [keeps hne]; exact hne)).trans (keeps hne)

mutual

theorem Action.Retouched.refl (action : Action) : action.Retouched action :=
  match action with
  | .task header work => .task (.same header work)
  | .loop header spec actions => .loop header spec (Action.AllRetouched.refl actions)
  | .choice header spec thenActions elseActions =>
    .choice header spec (Action.AllRetouched.refl thenActions)
      (Action.AllRetouched.refl elseActions)

theorem Action.AllRetouched.refl (actions : List Action) : Action.AllRetouched actions actions :=
  match actions with
  | [] => .nil
  | action :: actions => .cons (Action.Retouched.refl action) (Action.AllRetouched.refl actions)

end

mutual

theorem Action.Retouched.trans {action middle after : Action} (h : action.Retouched middle)
    (h' : middle.Retouched after) : action.Retouched after := by
  match action with
  | .task header work =>
    obtain ⟨h⟩ := h
    obtain ⟨h'⟩ := h'
    exact .task (h.trans h')
  | .loop header spec actions =>
    obtain _ | ⟨_, _, h⟩ := h
    obtain _ | ⟨_, _, h'⟩ := h'
    exact .loop header spec (Action.AllRetouched.trans h h')
  | .choice header spec thenActions elseActions =>
    obtain _ | _ | ⟨_, _, hthen, helse⟩ := h
    obtain _ | _ | ⟨_, _, hthen', helse'⟩ := h'
    exact .choice header spec (Action.AllRetouched.trans hthen hthen')
      (Action.AllRetouched.trans helse helse')

theorem Action.AllRetouched.trans {actions middle after : List Action}
    (h : Action.AllRetouched actions middle) (h' : Action.AllRetouched middle after) :
    Action.AllRetouched actions after := by
  match actions with
  | [] =>
    cases h
    exact h'
  | action :: actions =>
    obtain _ | ⟨head, tail⟩ := h
    obtain _ | ⟨head', tail'⟩ := h'
    exact .cons (Action.Retouched.trans head head') (Action.AllRetouched.trans tail tail')

end

theorem Sequence.Retouched.refl (sequence : Sequence) : sequence.Retouched sequence :=
  ⟨rfl, rfl, rfl, .refl sequence.actions⟩

theorem Sequence.Retouched.trans {before middle after : Sequence} (h : before.Retouched middle)
    (h' : middle.Retouched after) : before.Retouched after :=
  ⟨h'.id.trans h.id, h'.name.trans h.name, h'.description.trans h.description,
    h.actions.trans h'.actions⟩

namespace Library.Retouched

theorem refl (library : Library) : library.Retouched library :=
  ⟨rfl, fun _ sequence h => ⟨sequence, h, .refl sequence⟩⟩

theorem trans {before middle after : Library} (h : before.Retouched middle)
    (h' : middle.Retouched after) : before.Retouched after := by
  refine ⟨h'.length.trans h.length, fun slot sequence hsequence => ?_⟩
  obtain ⟨now, hnow, hfirst⟩ := h.sequences slot sequence hsequence
  obtain ⟨later, hlater, hsecond⟩ := h'.sequences slot now hnow
  exact ⟨later, hlater, hfirst.trans hsecond⟩

/-- Changing one sequence as a run may. -/
theorem modify {library : Library} {slot : Nat} {change : Sequence → Sequence}
    (h : ∀ sequence, library.sequences[slot]? = some sequence →
      sequence.Retouched (change sequence)) :
    library.Retouched (library.modify slot change) := by
  refine ⟨List.length_modify _ _ _, fun other sequence hsequence => ?_⟩
  by_cases hslot : slot = other
  · subst hslot
    refine ⟨change sequence, ?_, h sequence hsequence⟩
    rw [Library.modify, List.getElem?_modify_eq, hsequence]
    rfl
  · refine ⟨sequence, ?_, .refl sequence⟩
    rw [Library.modify, List.getElem?_modify_ne _ _ hslot]
    exact hsequence

end Library.Retouched

/-! ## Edits that suit a tree -/

/-- **An edit suits a tree** if it makes of the task at its place what a run may make of it. -/
def Edit.Suits (root : List Action) (edit : Edit) : Prop :=
  ∀ header task, (Action.task header task).StandsAt root edit.place →
    Action.Task.Retouched header task (edit.header header) (edit.change.apply task)

theorem Edit.suits_nil (edit : Edit) : edit.Suits [] :=
  fun _ _ hstands => (Action.not_standsAt_nil _ hstands).elim

namespace Frame

variable {frame : Frame} {root : List Action}

/-- The task at a place of a frame is what a run may have made of the one in the tree. -/
theorem retouched_current (h : ∀ edit ∈ frame.edits, edit.Suits root) {place : Place}
    {header : Action.Header} {task : Action.Task}
    (hstands : (Action.task header task).StandsAt root place) :
    Action.Task.Retouched header task (frame.current place header task).1
      (frame.current place header task).2 := by
  unfold current
  split
  · next edit hfound =>
    have hplace : edit.place = place := by simpa using List.find?_some hfound
    exact h edit (List.mem_of_find?_eq_some hfound) header task (hplace ▸ hstands)
  · exact .same header task

mutual

theorem retouched_edited (h : ∀ edit ∈ frame.edits, edit.Suits root) {place : Place}
    (action : Action) (hstands : action.StandsAt root place) :
    action.Retouched (frame.edited place action) := by
  match action with
  | .task header task => exact .task (retouched_current h hstands)
  | .loop header spec actions =>
    have hinside := (Action.handsDown_standsAt root).inLoop hstands
    exact .loop header spec (retouched_editedAll h actions hinside)
  | .choice header spec thenActions elseActions =>
    have hthen := (Action.handsDown_standsAt root).inThen hstands
    have helse := (Action.handsDown_standsAt root).inElse hstands
    exact .choice header spec (retouched_editedAll h thenActions hthen)
      (retouched_editedAll h elseActions helse)

theorem retouched_editedAll (h : ∀ edit ∈ frame.edits, edit.Suits root) {place : Place}
    {index : Nat} (actions : List Action) (hstand : Action.StandFrom root place index actions) :
    Action.AllRetouched actions (frame.editedAll place index actions) := by
  match actions with
  | [] => exact .nil
  | action :: actions =>
    exact .cons (retouched_edited h action hstand.head) (retouched_editedAll h actions hstand.tail)

end

/-- **A frame with suitable edits leaves a sequence as a run may leave it.** -/
theorem retouched_leave {sequence : Sequence}
    (h : ∀ edit ∈ frame.edits, edit.Suits sequence.actions) :
    sequence.Retouched (frame.leave sequence) :=
  ⟨rfl, rfl, rfl, retouched_editedAll h sequence.actions (.all _)⟩

end Frame

/-! ## The rule -/

/-- The edits of the innermost sequence. -/
def Machine.edits (m : Machine ω) : List Edit :=
  match m.frames with
  | [] => []
  | frame :: _ => frame.edits

/-- **What a run makes of a machine** whose innermost sequence has a tree of actions: if the edits
so far suit the tree, so do those afterwards, and the library is what a run may make of it. -/
def Run.Retouches (root : List Action) (m m' : Machine ω) : Prop :=
  (∀ edit ∈ m.edits, edit.Suits root) →
    (∀ edit ∈ m'.edits, edit.Suits root) ∧ m.library.Retouched m'.library

theorem Machine.edits_congr {m m' : Machine ω} (h : m'.frames = m.frames) : m'.edits = m.edits := by
  unfold edits
  rw [h]

theorem Machine.library_modifyFrame (m : Machine ω) (change : Frame → Frame) :
    (m.modifyFrame change).library = m.library := by
  unfold modifyFrame
  split <;> rfl

theorem Machine.edits_putEdit (m : Machine ω) (edit : Edit) :
    ∀ old ∈ (m.putEdit edit).edits, old = edit ∨ old ∈ m.edits := by
  intro old hold
  unfold putEdit modifyFrame at hold
  split at hold
  · exact .inr hold
  · next hframes =>
    rw [edits, hframes]
    exact List.mem_cons.1 hold

namespace Run

variable {team : Collaborators ω} {root : List Action}

theorem storeRule_retouches (root : List Action) : StoreRule (Retouches (ω := ω) root) where
  silent hframes hlibrary hsuits := by
    rw [Machine.edits_congr hframes, hlibrary]
    exact ⟨hsuits, .refl _⟩
  trans h h' hsuits := by
    obtain ⟨hmiddle, hfirst⟩ := h hsuits
    obtain ⟨hafter, hsecond⟩ := h' hmiddle
    exact ⟨hafter, hfirst.trans hsecond⟩
  stored m store hsuits := by
    have hlibrary : ((m.mark .stored).putStore store).library = m.library :=
      Machine.library_modifyFrame _ _
    have hedits : ((m.mark .stored).putStore store).edits = m.edits := by
      unfold Machine.putStore Machine.modifyFrame Machine.edits Machine.mark
      cases m.frames <;> rfl
    rw [hedits, hlibrary]
    exact ⟨hsuits, .refl _⟩

/-! ### Tasks that change themselves -/

theorem upholds_putEdit {edit : Edit} (h : edit.Suits root) :
    (modify (·.putEdit edit) : Run ω Unit).Upholds (Retouches root) := by
  intro m hsuits
  refine ⟨fun old hold => ?_, ?_⟩
  · rcases m.edits_putEdit edit old hold with rfl | hbefore
    · exact h
    · exact hsuits old hbefore
  · have hlibrary : (m.putEdit edit).library = m.library := m.library_modifyFrame _
    rw [show ((modify (·.putEdit edit) : Run ω Unit).on m).2 = m.putEdit edit from rfl, hlibrary]
    exact .refl _

/-- An action that is no keyboard action keeps its description when it shows what it has become, and
its name unless that is empty. -/
theorem of_withDisplay? {header : Action.Header} {task : Action.Task} {shown : Action}
    (hkeyboard : ∀ keyboard, task ≠ .keyboard keyboard)
    (h : (Action.task header task).withDisplay? = .ok shown) :
    shown.header.description = header.description ∧
      (header.name ≠ "" → shown.header.name = header.name) := by
  have hdisplay : (Action.task header task).display?
      = (Action.task header task).label?.map fun label => (label, header.description) := by
    unfold Action.display?
    split
    · next hequal =>
      cases hequal
      exact absurd rfl (hkeyboard _)
    · cases (Action.task header task).label? <;> rfl
  unfold Action.withDisplay? at h
  rw [hdisplay] at h
  cases hlabel : (Action.task header task).label? with
  | error cause =>
    rw [hlabel] at h
    cases h
  | ok label =>
    rw [hlabel] at h
    cases h
    refine ⟨rfl, fun hne => ?_⟩
    have hkept : header.name.isEmpty = false := by simpa using hne
    unfold Action.label? at hlabel
    rw [if_neg (by simpa [Action.header] using hne)] at hlabel
    exact (Except.ok.inj hlabel).symm

/-- A task is changed by edits that suit the tree, if with every name that may be shown the change
is one that a run may make. -/
theorem upholds_editTask {place : Place} {header : Action.Header} {task : Action.Task}
    {change : Change} (hkeyboard : ∀ keyboard, change.apply task ≠ .keyboard keyboard)
    (hsuits : ∀ shown, (header.name ≠ "" → shown = header.name) →
      Edit.Suits root ⟨place, change, shown, header.description⟩) :
    (editTask place header task change : Run ω Unit).Upholds (Retouches root) := by
  have rule := storeRule_retouches (ω := ω) root
  refine rule.habit.bind (upholds_putEdit (hsuits header.name fun _ => rfl)) fun _ => ?_
  cases hshown : (Action.task header (change.apply task)).withDisplay? with
  | error cause =>
    -- What cannot be shown is not edited a second time.
    exact fun _ => rule.silent rfl rfl
  | ok shown =>
    obtain ⟨hdescription, hname⟩ := of_withDisplay? hkeyboard hshown
    simp only [ofExcept, pure_bind]
    rw [hdescription]
    exact upholds_putEdit (hsuits shown.header.name hname)

/-- What an edit makes of the only task at its place. -/
theorem suits_of_standsAt {edit : Edit} {header : Action.Header} {task : Action.Task}
    (hstands : (Action.task header task).StandsAt root edit.place)
    (h : Action.Task.Retouched header task (edit.header header) (edit.change.apply task)) :
    edit.Suits root := by
  intro other work hother
  cases hstands.unique hother
  exact h

/-- **A task of the tree changes itself as a run may**, in whatever way it ends. The task that runs
is the one of the tree as edits have left it. -/
theorem upholds_task {lookup : Option (Lookup ω)}
    (hlookup : ∀ inner ∈ lookup, ∀ name values, (inner name values).Upholds (Retouches root))
    {place : Place} {header : Action.Header} {task : Action.Task}
    (hstands : (Action.task header task).StandsAt root place) :
    (runAction team lookup place (.task header task)).Upholds (Retouches root) := by
  have habit := (storeRule_retouches (ω := ω) root).storeHabit team
  intro m hsuits
  obtain ⟨header', task', hretouched, hcurrent⟩ : ∃ header' task',
      Action.Task.Retouched header task header' task' ∧
        (current place header task).on m = (.ok (header', task'), m) := by
    unfold current
    rw [on_get_bind]
    cases hframes : m.frames with
    | nil => exact ⟨header, task, .same header task, rfl⟩
    | cons frame frames =>
      have hedits : ∀ edit ∈ frame.edits, edit.Suits root := fun edit hedit =>
        hsuits edit (by rw [Machine.edits, hframes]; exact hedit)
      exact ⟨_, _, frame.retouched_current hedits hstands, rfl⟩
  have hwork : (dispatch team place (.task header' task')
      (runTask team lookup place header' task')).Upholds (Retouches root) := by
    refine habit.dispatchEnabled place _ fun enabled => habit.runTask hlookup ?_ ?_
    · rintro t rfl hunnamed name
      refine upholds_editTask (fun _ => nofun) fun shown hshown => suits_of_standsAt hstands ?_
      have hnamed : Action.Task.Retouched header' (.variable t) { header' with name := shown }
          (.variable { t with name }) := .named enabled hunnamed name shown hshown
      cases hretouched with
      | same => exact hnamed
      | named henabled hbefore before shown' hshown' =>
        exact (Action.Task.Retouched.named henabled hbefore before shown' hshown').trans hnamed
    · rintro t rfl x y
      refine upholds_editTask (fun _ => nofun) fun shown hshown => suits_of_standsAt hstands ?_
      have hpointed : Action.Task.Retouched header' (.browser t) { header' with name := shown }
          (.browser { t with x, y }) := .pointed x y shown hshown
      cases hretouched with
      | same => exact hpointed
      | pointed x' y' shown' hshown' =>
        exact (Action.Task.Retouched.pointed x' y' shown' hshown').trans hpointed
  dsimp only [runAction]
  rw [on_bind_ok hcurrent]
  exact hwork m hsuits

/-- The actions of a sequence change themselves as a run may. -/
theorem upholds_actions {lookup : Option (Lookup ω)}
    (hlookup : ∀ inner ∈ lookup, ∀ name values, (inner name values).Upholds (Retouches root)) :
    (runActions team lookup [] 0 root).Upholds (Retouches root) :=
  ((storeRule_retouches root).storeHabit team).runActions (Action.handsDown_standsAt root)
    (fun _ _ _ hstands => upholds_task hlookup hstands) root (Action.StandFrom.all root)

/-! ## Frames -/

/-- The frame of a sequence has no edits when it is entered. -/
theorem edits_pushFrame (m : Machine ω) (sequence : Sequence) (slot : Option Nat) :
    ∀ edit ∈ (pushFrame m (.enter sequence slot)).edits, edit.Suits root := nofun

/-- **A sequence that runs in its frame leaves the library as a run may**, if the library has it at
the number of the frame. -/
theorem retouched_inFrame {P : Failure → Prop} {m : Machine ω} {slot : Option Nat}
    {sequence : Sequence} {body : Run ω Unit}
    (hslot : ∀ number, slot = some number → m.library.sequences[number]? = some sequence)
    (htakes : body.Takes (Rules.offered ω) P)
    (hupholds : body.Upholds (Retouches sequence.actions)) :
    m.library.Retouched ((inFrame (.enter sequence slot) body).on m).2.library := by
  let start := pushFrame m (.enter sequence slot)
  obtain ⟨hsuits, hlibrary⟩ := hupholds start (edits_pushFrame m sequence slot)
  have hcourse := (htakes start).course fun _ _ _ _ _ _ _ _ => trivial
  rw [on_inFrame]
  dsimp only
  rcases hinside : body.on start with ⟨r, inside⟩
  rw [hinside] at hsuits hlibrary hcourse
  -- The frame that is left is the one that was entered, with suitable edits.
  have hslots : inside.frames.map Frame.slot = slot :: m.frames.map Frame.slot := hcourse.slots
  obtain ⟨top, below, hframes, htop, -⟩ := List.map_eq_cons_iff.1 hslots
  have hedits : ∀ edit ∈ top.edits, edit.Suits sequence.actions := fun edit hedit =>
    hsuits edit (by rw [Machine.edits, hframes]; exact hedit)
  rw [library_popFrame hframes, settle, htop]
  cases slot with
  | none => exact hlibrary
  | some number =>
    -- Its name was running all the time, so the library still has the sequence that was entered.
    have hrunning : isRunning start sequence.name = true := by
      rw [isRunning_pushFrame]
      simp [Frame.enter]
    have hstill : inside.library.sequences[number]? = some sequence :=
      hcourse.spares number sequence (hslot number rfl) hrunning
    refine hlibrary.trans (.modify fun found hfound => ?_)
    cases hstill.symm.trans hfound
    exact Frame.retouched_leave hedits

/-! ## Sequences that are looked up -/

theorem retouched_given (m : Machine ω) (slot : Nat) (values : List (String × String)) :
    m.library.Retouched (given m slot values).library := by
  unfold given
  split
  · exact .refl _
  · exact .modify fun sequence _ => ⟨rfl, rfl, rfl, .refl sequence.actions⟩

/-- The library has the sequence that was looked up, with the variables that it was given. -/
theorem found_given {m : Machine ω} {slot : Nat} {sequence : Sequence}
    (h : m.library.sequences[slot]? = some sequence) (values : List (String × String)) :
    (given m slot values).library.sequences[slot]?
      = some { sequence with store := setAll sequence.store values } := by
  unfold given
  cases values with
  | nil => exact h
  | cons value values =>
    show (m.library.sequences.modify slot _)[slot]? = _
    rw [List.getElem?_modify_eq, h]
    rfl

theorem library_succeeded (name : String) (body : Run ω Unit) (m : Machine ω) :
    ((succeeded name body).on m).2.library = (body.on m).2.library := by
  unfold succeeded
  rw [on_outcome_bind]
  split
  · rfl
  · split
    · rfl
    · rfl

theorem library_detachedAtRest {m : Machine ω} {body : Run ω Unit}
    (h : ∀ detached, m.library.Retouched (body.on { m with detached }).2.library) :
    m.library.Retouched ((detachedAtRest body).on m).2.library := by
  rw [on_detachedAtRest]
  split
  · exact h true
  · exact h m.detached

/-- **Looking a sequence up leaves the library as a run may**, if what it asks for in turn does. -/
theorem retouched_lookupOver {P : Failure → Prop} {inner : Option (Lookup ω)}
    (htakes : ∀ deeper ∈ inner, deeper.Takes (Rules.offered ω) P)
    (hupholds : ∀ deeper ∈ inner, ∀ root name values,
      (deeper name values).Upholds (Retouches root))
    (name : String) (values : List (String × String)) (m : Machine ω) :
    m.library.Retouched ((lookupOver team inner name values).on m).2.library := by
  unfold lookupOver
  rcases on_findIdle name m with ⟨notes, hnone⟩ | ⟨slot, sequence, hfound, -, hsome⟩
  · rw [on_bind_ok hnone]
    exact .refl _
  · rw [on_bind_ok hsome]
    dsimp only
    rw [on_bind_ok (on_giveVariables slot values m)]
    refine (retouched_given m slot values).trans ?_
    cases inner with
    | none => exact .refl _
    | some deeper =>
      let filled : Sequence := { sequence with store := setAll sequence.store values }
      have hbody : (do
          log s!"Running nested sequence '{filled.name}'"
          runActions team (some deeper) [] 0 filled.actions : Run ω Unit).Upholds
          (Retouches filled.actions) :=
        have habit := (storeRule_retouches (ω := ω) filled.actions).habit
        habit.bind (habit.log _ _) fun _ =>
          upholds_actions fun other hother => hupholds other hother filled.actions
      have htakesBody : (do
          log s!"Running nested sequence '{filled.name}'"
          runActions team (some deeper) [] 0 filled.actions : Run ω Unit).Takes (Rules.offered ω)
          (filled.Escapes team (Rules.offered ω) P) :=
        (takes_log _ _).bind fun _ => takes_runActions (fun _ _ _ => trivial) htakes [] 0 _
      have hslot : ∀ number, some slot = some number →
          (given m slot values).library.sequences[number]? = some filled := by
        rintro number ⟨⟩
        exact found_given hfound values
      dsimp only
      rw [library_succeeded]
      unfold runNested
      exact library_detachedAtRest fun detached =>
        retouched_inFrame (m := { given m slot values with detached }) hslot htakesBody hbody

/-- A lookup that leaves the frames alone, and the library as a run may, upholds the rule of every
tree. -/
theorem upholds_of_frames {call : Run ω Bool}
    (hframes : ∀ m : Machine ω, (call.on m).2.frames = m.frames)
    (hlibrary : ∀ m : Machine ω, m.library.Retouched (call.on m).2.library) (root : List Action) :
    call.Upholds (Retouches root) := by
  intro m hsuits
  rw [Machine.edits_congr (hframes m)]
  exact ⟨hsuits, hlibrary m⟩

theorem opens_offered : (Rules.offered ω).Opens := fun _ slot _ offered => ⟨slot, rfl, offered⟩

theorem takes_offered (team : Collaborators ω) (depth : Nat) :
    (libraryLookup team depth).Takes (Rules.offered ω) fun f => f.isAction = false :=
  takes_libraryLookup (fun _ _ _ => trivial) opens_offered depth

/-- The induction is on the depth of the lookups. -/
theorem retouched_libraryLookup (team : Collaborators ω) (depth : Nat) (name : String)
    (values : List (String × String)) (m : Machine ω) :
    m.library.Retouched ((libraryLookup team depth name values).on m).2.library := by
  induction depth generalizing name values m with
  | zero =>
    have hnone : ∀ deeper ∈ (none : Option (Lookup ω)),
        deeper.Takes (Rules.offered ω) (fun _ => True) := nofun
    exact retouched_lookupOver hnone nofun name values m
  | succ depth ih =>
    refine retouched_lookupOver (takes_offered team depth).of_some ?_ name values m
    rintro deeper ⟨⟩ root name values
    exact upholds_of_frames (fun m => (upholds_keepsRunning team depth name values m).1)
      (ih name values) root

/-- **Whatever a run is bound to**, a lookup upholds the rule of every tree. -/
theorem upholds_binding (team : Collaborators ω) (binding : Binding ω) :
    ∀ inner ∈ binding.lookup team, ∀ root name values,
      (inner name values).Upholds (Retouches root) := by
  match binding with
  | .none => nofun
  | .library sequences =>
    rintro inner ⟨⟩ root name values
    exact upholds_of_frames (fun m => (upholds_keepsRunning team _ name values m).1)
      (retouched_libraryLookup team _ name values) root
  | .foreign answer =>
    rintro inner ⟨⟩ root name values
    exact (storeRule_retouches root).habit.ask _ _

/-! ## Whole runs -/

/-- The machine when the actions of a sequence have run and its frame is still there. -/
def atEnd (team : Collaborators ω) (lookup : Option (Lookup ω)) (slot : Option Nat)
    (sequence : Sequence) (m : Machine ω) : Machine ω :=
  ((runActions team lookup [] 0 sequence.actions).on (pushFrame m (.enter sequence slot))).2

/-- A sequence as the innermost frame of a machine leaves it. -/
def leftBy (m : Machine ω) (sequence : Sequence) : Sequence :=
  match m.frames with
  | [] => sequence
  | frame :: _ => frame.leave sequence

/-- Whatever its number is, a sequence is left as a run may leave it. -/
theorem retouched_leftBy (binding : Binding ω) (slot : Option Nat) (sequence : Sequence)
    (m : Machine ω) :
    sequence.Retouched (leftBy (atEnd team (binding.lookup team) slot sequence m) sequence) := by
  have hactions : (runActions team (binding.lookup team) [] 0 sequence.actions).Upholds
      (Retouches sequence.actions) :=
    upholds_actions fun inner hinner => upholds_binding team binding inner hinner sequence.actions
  obtain ⟨hsuits, -⟩ := hactions _ (edits_pushFrame m sequence slot)
  unfold leftBy atEnd
  split
  · exact .refl sequence
  · next frame _ hframes =>
    refine frame.retouched_leave fun edit hedit => hsuits edit ?_
    rw [Machine.edits, hframes]
    exact hedit

/-- **Running a script does not edit it**, whatever the run is bound to and however it ends. After
the run of a sequence every library is what a run may make of it, and so is the sequence itself,
which the library need not have; and the same holds when a sequence is looked up and run. -/
theorem runs_keep_script (team : Collaborators ω) (binding : Binding ω) (m : Machine ω)
    (slot : Option Nat) (sequence : Sequence)
    (hslot : ∀ number, slot = some number → m.library.sequences[number]? = some sequence) :
    m.library.Retouched
        ((runSequence team (binding.lookup team) slot sequence).on m).2.library ∧
      sequence.Retouched (leftBy (atEnd team (binding.lookup team) slot sequence m) sequence) ∧
      ∀ lookup ∈ binding.lookup team, ∀ name values,
        m.library.Retouched ((lookup name values).on m).2.library := by
  have htakes : ∀ inner ∈ binding.lookup team, inner.Takes (Rules.offered ω) binding.FailsWith :=
    takes_binding (fun _ _ _ => trivial) opens_offered binding
  have hupholds := upholds_binding team binding
  refine ⟨?_, retouched_leftBy binding slot sequence m, fun lookup hlookup name values => ?_⟩
  · let text := s!"Starting sequence '{sequence.name}' ({sequence.actions.length} actions)"
    let started := (m.see [.logged ⟨.info, text⟩]).tell text
    have hlibrary : started.library = m.library := Machine.library_tell _ text
    have hframe : started.library.Retouched ((inFrame (.enter sequence slot)
        (runActions team (binding.lookup team) [] 0 sequence.actions)).on started).2.library :=
      retouched_inFrame (fun number hnumber => hlibrary ▸ hslot number hnumber)
        (takes_runActions (fun _ _ _ => trivial) htakes [] 0 sequence.actions)
        (upholds_actions fun inner hinner => hupholds inner hinner sequence.actions)
    rw [hlibrary] at hframe
    unfold runSequence
    rw [on_bind_ok (on_log _ _ m)]
    rcases hr : (inFrame (.enter sequence slot)
      (runActions team (binding.lookup team) [] 0 sequence.actions)).on started with ⟨r, after⟩
    rw [hr] at hframe
    cases r with
    | error failure =>
      rw [on_bind_error hr]
      exact hframe
    | ok done =>
      -- What is logged at the end does not touch the library.
      rw [on_bind_ok hr, on_log]
      dsimp only
      rw [Machine.library_tell]
      exact hframe
  · exact (hupholds lookup hlookup [] name values m fun edit _ => edit.suits_nil).2

/-- A sequence whose only action sets a variable but names none. -/
def unnamedVariable : Sequence :=
  ⟨"Count", "", [.task (.initial "a") (.variable .initial)], .empty, "s"⟩

/-- The library after a run of the sequence. -/
def libraryAfterNaming : Library :=
  ((runSequence withoutDevices (Binding.none.lookup withoutDevices) (some 0) unnamedVariable).on
    (.initial () ⟨[unnamedVariable]⟩)).2.library

/-- The run gives the action a name, and does nothing else to the script. -/
theorem unnamedVariable_kept :
    (∀ number, some 0 = some number → [unnamedVariable][number]? = some unnamedVariable) ∧
      libraryAfterNaming.sequences.map (fun sequence => sequence.actions.map (·.header.name))
        = [["Variable: Set 'var' to ''"]] ∧
      Library.Retouched ⟨[unnamedVariable]⟩ libraryAfterNaming := by
  have hslot : ∀ number, some 0 = some number →
      [unnamedVariable][number]? = some unnamedVariable := by
    rintro _ ⟨⟩
    rfl
  exact ⟨hslot, rfl, (runs_keep_script withoutDevices .none (.initial () ⟨[unnamedVariable]⟩)
    (some 0) unnamedVariable hslot).1⟩

end Run
end DesktopMacro
