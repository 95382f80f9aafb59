/-
Disabled actions are invisible.

A sequence is entered, run and left in step with what pruning leaves of it, and so are the sequences
that it looks up, at every depth. So a run that is never cancelled asks the same of its
collaborators when every disabled action of the library has been taken out before, leaves the same
variables and the pruned library, and ends in the same way.

What it logs differs only where it counts actions. A file action that reads the log would see that,
so none may.
-/
import DesktopMacro.Proofs.Run.MirroredActions
import DesktopMacro.Proofs.Run.Script

set_option autoImplicit false

namespace DesktopMacro

variable {ω : Type} {team : Collaborators ω} {m m' : Machine ω}

/-! ## Frames that come and go -/

/-- A sequence and what pruning leaves of it are entered in step. -/
theorem Machine.Akin.pushFrame (h : m.Akin m') (sequence : Sequence) (slot : Option Nat) :
    (Run.pushFrame m (.enter sequence slot)).Mirrors sequence.actions
      (Run.pushFrame m' (.enter sequence.pruned slot)) := by
  have hnames : (Frame.enter sequence.pruned slot :: m'.frames).map Frame.name
      = (Frame.enter sequence slot :: m.frames).map Frame.name :=
    congrArg (sequence.name :: ·) h.names
  exact ⟨(h.framed hnames).mark rfl, _, _, _, _, rfl, rfl, .enter _ rfl slot slot⟩

/-- **They are left in step**, if the library still has the sequence that was entered. -/
theorem Machine.Mirrors.popFrame {sequence : Sequence} {slot : Option Nat}
    (h : m.Mirrors sequence.actions m') {slots slots' : List (Option Nat)}
    (hslots : m.frames.map Frame.slot = slot :: slots)
    (hslots' : m'.frames.map Frame.slot = slot :: slots')
    (hstill : ∀ number, slot = some number → m.library.sequences[number]? = some sequence) :
    (Run.popFrame m).Akin (Run.popFrame m') := by
  obtain ⟨frame, frames, frame', frames', hframes, hframes', hmirrors⟩ := h.top
  have hnames : frames'.map Frame.name = frames.map Frame.name := by
    have htop := h.names
    rw [hframes, hframes'] at htop
    exact (List.cons.inj htop).2
  rw [hframes] at hslots
  rw [hframes'] at hslots'
  have hslot : frame.slot = slot := (List.cons.inj hslots).1
  have hslot' : frame'.slot = slot := (List.cons.inj hslots').1
  have hlibrary : Run.settle m'.library frame' = (Run.settle m.library frame).pruned := by
    unfold Run.settle
    rw [hslot, hslot', h.library]
    cases slot with
    | none => rfl
    | some number =>
      refine (Library.pruned_modify fun found hfound => ?_).symm
      cases (hstill number rfl).symm.trans hfound
      exact hmirrors.pruned_leave
  unfold Run.popFrame
  rw [hframes, hframes']
  exact ((h.toAkin.framed hnames).settled hlibrary).mark rfl

namespace Run

theorem cancelled_popFrame (m : Machine ω) : (popFrame m).cancelled = m.cancelled := by
  unfold popFrame
  split <;> rfl

theorem stays_inFrame (frame : Frame) {body : Run ω Unit} (h : body.Stays) :
    (inFrame frame body).Stays := fun m hm => by
  rw [on_inFrame]
  exact (cancelled_popFrame _).trans (h (pushFrame m frame) hm)

theorem stays_detachedAtRest {body : Run ω Unit} (h : body.Stays) :
    (detachedAtRest body).Stays := fun m hm => by
  rw [on_detachedAtRest]
  split
  · exact h { m with detached := true } hm
  · exact h m hm

/-- **A body that is mirrored by another one is so in its frame.** The frames below are as they were
when it was entered. -/
theorem meets_inFrame {P P' : Failure → Prop} (hm : m.Akin m') {slot : Option Nat}
    {sequence : Sequence}
    (hslot : ∀ number, slot = some number → m.library.sequences[number]? = some sequence)
    {body body' : Run ω Unit} (htakes : body.Takes (Rules.offered ω) P)
    (htakes' : body'.Takes (Rules.offered ω) P')
    (hbody : Mirrored sequence.actions Failure.Recounted Eq body body') :
    let after := (inFrame (.enter sequence slot) body).on m
    let after' := (inFrame (.enter sequence.pruned slot) body').on m'
    after.2.cancelled = false → Matching Failure.Recounted Eq after.1 after'.1
      ∧ after.2.Akin after'.2 ∧ after.2.frames = m.frames ∧ after'.2.frames = m'.frames
      ∧ (body'.on (pushFrame m' (.enter sequence.pruned slot))).2.store
        = (body.on (pushFrame m (.enter sequence slot))).2.store := by
  intro after after' hawake
  let start := pushFrame m (.enter sequence slot)
  let start' := pushFrame m' (.enter sequence.pruned slot)
  have hafter : after = ((body.on start).1, popFrame (body.on start).2) := on_inFrame _ _ _
  have hafter' : after' = ((body'.on start').1, popFrame (body'.on start').2) := on_inFrame _ _ _
  have hcourse := (htakes start).course fun _ _ _ _ _ _ _ _ => trivial
  have hcourse' := (htakes' start').course fun _ _ _ _ _ _ _ _ => trivial
  rw [hafter] at hawake ⊢
  rw [hafter']
  obtain ⟨hresult, hinside⟩ := hbody.meets (hm.pushFrame sequence slot)
    ((cancelled_popFrame _).symm.trans hawake)
  have hrunning : isRunning start sequence.name = true := by
    rw [isRunning_pushFrame]
    simp [Frame.enter]
  -- Its name was running all the time, so the library still has the sequence that was entered.
  have hstill : ∀ number, slot = some number →
      (body.on start).2.library.sequences[number]? = some sequence := fun number hnumber =>
    hcourse.spares number sequence (hslot number hnumber) hrunning
  exact ⟨hresult, hinside.popFrame hcourse.slots hcourse'.slots hstill, hcourse.frames_popFrame,
    hcourse'.frames_popFrame, hinside.store⟩

/-! ## Sequences that are looked up -/

/-- A sequence is found idle or not, whether the library is pruned or not. -/
theorem meets_findIdle (hm : m.Akin m') (name : String) :
    (∃ notes : List Note, (findIdle name).on m = (.ok none, m.see (notes.map .logged)) ∧
      (findIdle name).on m' = (.ok none, m'.see (notes.map .logged))) ∨
    ∃ slot sequence, m.library.sequences[slot]? = some sequence ∧
      (findIdle name).on m = (.ok (some (slot, sequence)), m) ∧
      (findIdle name).on m' = (.ok (some (slot, sequence.pruned)), m') := by
  have hrunning : ∀ name, isRunning m' name = isRunning m name := fun name => by
    unfold isRunning
    rw [hm.callStack]
  unfold findIdle
  rw [on_get_bind, on_get_bind, hm.library, Library.indexOf?_pruned, hm.callStack]
  cases m.library.indexOf? name with
  | none => exact .inl ⟨_, rfl, rfl⟩
  | some slot =>
    dsimp only
    rw [Library.getElem?_pruned]
    cases hfound : m.library.sequences[slot]? with
    | none => exact .inl ⟨[], rfl, rfl⟩
    | some sequence =>
      dsimp only [Option.map_some, Sequence.pruned]
      rw [hrunning]
      by_cases busy : isRunning m sequence.name = true
      · rw [if_pos busy, if_pos busy]
        exact .inl ⟨_, rfl, rfl⟩
      · rw [if_neg busy, if_neg busy]
        exact .inr ⟨slot, sequence, hfound, rfl, rfl⟩

/-- A sequence is given its variables whether it is pruned or not. -/
theorem akin_given (hm : m.Akin m') (slot : Nat) (values : List (String × String)) :
    (given m slot values).Akin (given m' slot values) := by
  unfold given
  split
  · exact hm
  · have hmarked : (m.mark .stored).Akin (m'.mark .stored) := hm.mark rfl
    refine hmarked.settled ?_
    show m'.library.modify slot _ = (m.library.modify slot _).pruned
    rw [hm.library]
    refine (Library.pruned_modify ?_).symm
    exact fun _ _ => rfl

theorem cancelled_given (m : Machine ω) (slot : Nat) (values : List (String × String)) :
    (given m slot values).cancelled = m.cancelled := by
  unfold given
  split <;> rfl

/-- Whether a sequence ran is answered in the same way; a failure that is an action's fault is only
noted. -/
theorem meets_succeeded (name : String) {body body' : Run ω Unit}
    (hresult : Matching Failure.Recounted Eq (body.on m).1 (body'.on m').1)
    (hakin : (body.on m).2.Akin (body'.on m').2) :
    Matching Eq Eq ((succeeded name body).on m).1 ((succeeded name body').on m').1 ∧
      ((succeeded name body).on m).2.Akin ((succeeded name body').on m').2 ∧
      ((succeeded name body).on m).2.frames = (body.on m).2.frames ∧
      ((succeeded name body').on m').2.frames = (body'.on m').2.frames := by
  unfold succeeded
  rw [on_outcome_bind, on_outcome_bind]
  generalize (body.on m).1 = r, (body'.on m').1 = r' at hresult
  cases hresult with
  | ok => exact ⟨.ok rfl, hakin, rfl, rfl⟩
  | @error f f' hfailure =>
    dsimp only
    rw [hfailure.isAction]
    by_cases hfault : f.isAction = true
    · rw [if_pos hfault, if_pos hfault]
      have hseen := (((Text.Recounted.same s!"Sequence '{name}' failed: ").append hfailure.text))
      exact ⟨.ok rfl, hakin.see (.cons (.logged .error hseen) .nil), rfl, rfl⟩
    · rw [if_neg hfault, if_neg hfault]
      cases hfailure.eq_of_not_isAction (by simpa using hfault)
      exact ⟨.error rfl, hakin, rfl, rfl⟩

/-- What is noted on an answer does not cancel the run. -/
theorem cancelled_succeeded (name : String) (body : Run ω Unit) (m : Machine ω) :
    ((succeeded name body).on m).2.cancelled = (body.on m).2.cancelled := by
  unfold succeeded
  rw [on_outcome_bind]
  split
  · rfl
  · split <;> rfl

/-- What a sequence does that is run from inside another one. -/
def nestedBody (team : Collaborators ω) (lookup : Option (Lookup ω)) (sequence : Sequence) :
    Run ω Unit := do
  log s!"Running nested sequence '{sequence.name}'"
  runActions team lookup [] 0 sequence.actions

theorem mirrored_nestedBody (hfiles : team.ReadsNoLog) {lookup : Option (Lookup ω)}
    (hlookup : ∀ inner ∈ lookup, ∀ root name texts,
      Mirrored root Eq Eq (inner name texts) (inner name texts)) (sequence : Sequence) :
    Mirrored sequence.actions Failure.Recounted Eq (nestedBody team lookup sequence)
      (nestedBody team lookup sequence.pruned) :=
  (mirrored_log (.same _) .info).andThen fun _ =>
    mirrored_runActions hfiles (fun inner hinner => hlookup inner hinner sequence.actions)
      sequence.actions (.all _)

/-- **Looking a sequence up mirrors itself**, if what it asks for in turn does. -/
theorem mirrored_lookupOver (hfiles : team.ReadsNoLog) {P : Failure → Prop}
    {inner : Option (Lookup ω)} (htakes : ∀ deeper ∈ inner, deeper.Takes (Rules.offered ω) P)
    (hinner : ∀ deeper ∈ inner, ∀ root name texts,
      Mirrored root Eq Eq (deeper name texts) (deeper name texts))
    (root : List Action) (name : String) (values : List (String × String)) :
    Mirrored root Eq Eq (lookupOver team inner name values)
      (lookupOver team inner name values) := by
  refine ⟨fun m hm => ?_, fun {m m'} hm hawake => ?_⟩
  · unfold lookupOver
    rcases on_findIdle name m with ⟨notes, hnone⟩ | ⟨slot, sequence, -, -, hsome⟩
    · rw [on_bind_ok hnone]
      exact hm
    · have hgiven := (cancelled_given m slot values).trans hm
      rw [on_bind_ok hsome]
      dsimp only
      rw [on_bind_ok (on_giveVariables slot values m)]
      cases inner with
      | none => exact hgiven
      | some deeper =>
        exact (cancelled_succeeded _ _ _).trans (stays_detachedAtRest
          (stays_inFrame _ (mirrored_nestedBody hfiles hinner _).stays) _ hgiven)
  · unfold lookupOver at hawake ⊢
    rcases meets_findIdle hm.toAkin name with
      ⟨notes, hnone, hnone'⟩ | ⟨slot, sequence, hfound, hsome, hsome'⟩
    · rw [on_bind_ok hnone, on_bind_ok hnone']
      exact ⟨.ok rfl, hm.see (Event.recounted_same _)⟩
    · have hakin := akin_given hm.toAkin slot values
      have hframes := frames_given m slot values
      have hframes' := frames_given m' slot values
      rw [on_bind_ok hsome] at hawake ⊢
      rw [on_bind_ok hsome']
      dsimp only at hawake ⊢
      rw [on_bind_ok (on_giveVariables slot values m)] at hawake ⊢
      rw [on_bind_ok (on_giveVariables slot values m')]
      cases inner with
      | none => exact ⟨.ok rfl, hm.of_akin hakin hframes hframes'⟩
      | some deeper =>
        let filled : Sequence := { sequence with store := setAll sequence.store values }
        obtain ⟨frame, frames, frame', frames', htop, htop', -⟩ := hm.top
        -- Something is running already, so nothing is detached.
        have hnested : (runNested team (some deeper) slot filled).on (given m slot values)
            = (inFrame (.enter filled (some slot)) (nestedBody team (some deeper) filled)).on
              (given m slot values) := by
          refine (on_detachedAtRest _ _).trans (if_neg ?_)
          rw [hframes, htop]
          nofun
        have hnested' : (runNested team (some deeper) slot filled.pruned).on (given m' slot values)
            = (inFrame (.enter filled.pruned (some slot))
              (nestedBody team (some deeper) filled.pruned)).on (given m' slot values) := by
          refine (on_detachedAtRest _ _).trans (if_neg ?_)
          rw [hframes', htop']
          nofun
        have hslot : ∀ number, some slot = some number →
            (given m slot values).library.sequences[number]? = some filled := by
          rintro number ⟨⟩
          exact found_given hfound values
        have htakesBody : ∀ sequence : Sequence, (nestedBody team (some deeper) sequence).Takes
            (Rules.offered ω) (sequence.Escapes team (Rules.offered ω) P) := fun sequence =>
          (takes_log _ _).bind fun _ => takes_runActions (fun _ _ _ => trivial) htakes [] 0 _
        have hinside : ((runNested team (some deeper) slot filled).on
            (given m slot values)).2.cancelled = false :=
          (cancelled_succeeded _ _ _).symm.trans hawake
        rw [hnested] at hinside
        obtain ⟨hresult, hafter, hback, hback', -⟩ := meets_inFrame hakin hslot (htakesBody filled)
          (htakesBody filled.pruned) (mirrored_nestedBody hfiles hinner filled) hinside
        rw [← hnested] at hresult hafter hback
        rw [← hnested'] at hresult hafter hback'
        obtain ⟨hanswer, hend, hkept, hkept'⟩ := meets_succeeded sequence.name hresult hafter
        exact ⟨hanswer, hm.of_akin hend (hkept.trans (hback.trans hframes))
          (hkept'.trans (hback'.trans hframes'))⟩

/-- The induction is on the depth down to which a lookup can look up again. -/
theorem mirrored_libraryLookup (hfiles : team.ReadsNoLog) (depth : Nat) (root : List Action)
    (name : String) (values : List (String × String)) :
    Mirrored root Eq Eq (libraryLookup team depth name values)
      (libraryLookup team depth name values) := by
  induction depth generalizing root name values with
  | zero =>
    have hnone : ∀ deeper ∈ (none : Option (Lookup ω)),
        deeper.Takes (Rules.offered ω) (fun _ => True) := nofun
    exact mirrored_lookupOver hfiles hnone nofun root name values
  | succ depth ih =>
    refine mirrored_lookupOver hfiles (takes_offered team depth).of_some ?_ root name values
    rintro deeper ⟨⟩
    exact ih

/-- **Whatever a run is bound to**, looking a sequence up mirrors itself. -/
theorem mirrored_binding (hfiles : team.ReadsNoLog) (binding : Binding ω) :
    ∀ inner ∈ binding.lookup team, ∀ root name texts,
      Mirrored root Eq Eq (inner name texts) (inner name texts) := by
  rintro inner hinner root name texts
  cases binding with
  | none => cases hinner
  | library sequences =>
    cases hinner
    exact mirrored_libraryLookup hfiles _ root name texts
  | foreign answer =>
    cases hinner
    exact mirrored_ask _ _

end Run

/-! ## Whole runs -/

/-- What the payloads of a run can ask for when every library is pruned. -/
def Binding.pruned : Binding ω → Binding ω
  | .none => .none
  | .library sequences => .library sequences.pruned
  | .foreign answer => .foreign answer

/-- A pruned library has as many sequences, so there is as much room for frames. -/
theorem Binding.lookup_pruned (binding : Binding ω) (team : Collaborators ω) :
    binding.pruned.lookup team = binding.lookup team := by
  cases binding with
  | none | foreign => rfl
  | library sequences =>
    show some (Run.libraryLookup team (sequences.sequences.map Sequence.pruned).length) = _
    rw [List.length_map]
    rfl

namespace Run

/-- The machine when a sequence has announced itself. -/
def announced (sequence : Sequence) (m : Machine ω) : Machine ω :=
  ((log s!"Starting sequence '{sequence.name}' ({sequence.actions.length} actions)").on m).2

/-- How the actions of a sequence come out in its frame. -/
def cameOut (team : Collaborators ω) (lookup : Option (Lookup ω)) (slot : Option Nat)
    (sequence : Sequence) (m : Machine ω) : Except Failure Unit × Machine ω :=
  (runActions team lookup [] 0 sequence.actions).on
    (pushFrame (announced sequence m) (.enter sequence slot))

/-- A machine is akin to itself with a pruned library, also when the sequence has announced itself
with another number of actions. -/
theorem akin_announced (sequence : Sequence) (m : Machine ω) :
    (announced sequence m).Akin
      (announced sequence.pruned { m with library := m.library.pruned }) := by
  have hstart : m.Akin { m with library := m.library.pruned } :=
    ⟨rfl, rfl, rfl, rfl, List.forall₂_same.2 fun text _ => .same text, rfl, rfl,
      Event.recounted_same _, rfl⟩
  have htext : Text.Recounted
      s!"Starting sequence '{sequence.name}' ({sequence.actions.length} actions)"
      s!"Starting sequence '{sequence.pruned.name}' ({sequence.pruned.actions.length} actions)" :=
    ((Text.Recounted.same _).append (.count sequence.actions)).append (.same _)
  exact (hstart.see (.cons (.logged .info htext) .nil)).tell htext

/-- A sequence announces itself, its actions come out, and it tells when it is through. -/
theorem on_runSequence (lookup : Option (Lookup ω)) (slot : Option Nat) (sequence : Sequence)
    (m : Machine ω) :
    (runSequence team lookup slot sequence).on m =
      match (cameOut team lookup slot sequence m).1 with
      | .ok () => (log s!"Sequence '{sequence.name}' completed").on
          (popFrame (cameOut team lookup slot sequence m).2)
      | .error failure => (.error failure, popFrame (cameOut team lookup slot sequence m).2) := by
  have hframe : (inFrame (.enter sequence slot) (runActions team lookup [] 0 sequence.actions)).on
      (announced sequence m) = ((cameOut team lookup slot sequence m).1,
        popFrame (cameOut team lookup slot sequence m).2) := on_inFrame _ _ _
  refine (on_bind_ok (on_log _ _ m)).trans ?_
  cases hresult : (cameOut team lookup slot sequence m).1 with
  | ok done =>
    rw [hresult] at hframe
    exact on_bind_ok hframe
  | error failure =>
    rw [hresult] at hframe
    exact on_bind_error hframe

/-- **A run is mirrored by the run of the pruned script**, if no file that is read goes by what was
logged. -/
theorem akin_runSequence (hfiles : team.ReadsNoLog) (binding : Binding ω) (slot : Option Nat)
    (sequence : Sequence) (m : Machine ω)
    (hslot : ∀ number, slot = some number → m.library.sequences[number]? = some sequence) :
    let pruned : Machine ω := { m with library := m.library.pruned }
    let run := (runSequence team (binding.lookup team) slot sequence).on m
    let run' := (runSequence team (binding.pruned.lookup team) slot sequence.pruned).on pruned
    run.2.cancelled = false →
      Matching Failure.Recounted Eq run.1 run'.1 ∧ run.2.Akin run'.2 ∧
        (cameOut team (binding.pruned.lookup team) slot sequence.pruned pruned).2.store
          = (cameOut team (binding.lookup team) slot sequence m).2.store := by
  intro pruned run run' hawake
  have htakes : ∀ inner ∈ binding.lookup team, inner.Takes (Rules.offered ω) binding.FailsWith :=
    takes_binding (fun _ _ _ => trivial) opens_offered binding
  have hlookups := mirrored_binding hfiles binding
  have hactions : Mirrored sequence.actions Failure.Recounted Eq
      (runActions team (binding.lookup team) [] 0 sequence.actions)
      (runActions team (binding.lookup team) [] 0 sequence.pruned.actions) :=
    mirrored_runActions hfiles (fun inner hinner => hlookups inner hinner sequence.actions)
      sequence.actions (.all _)
  have hannounced : (announced sequence m).library = m.library := Machine.library_tell _ _
  have hframe := meets_inFrame (akin_announced sequence m)
    (fun number hnumber => hannounced ▸ hslot number hnumber)
    (takes_runActions (fun _ _ _ => trivial) htakes [] 0 sequence.actions)
    (takes_runActions (fun _ _ _ => trivial) htakes [] 0 sequence.pruned.actions) hactions
  dsimp only at hframe
  rw [on_inFrame, on_inFrame] at hframe
  have hrun : run = _ := on_runSequence (binding.lookup team) slot sequence m
  have hrun' : run' = _ := on_runSequence (binding.pruned.lookup team) slot sequence.pruned pruned
  rw [binding.lookup_pruned] at hrun' ⊢
  rcases hout : cameOut team (binding.lookup team) slot sequence m with ⟨r, after⟩
  rcases hout' : cameOut team (binding.lookup team) slot sequence.pruned pruned with ⟨r', after'⟩
  rw [hout] at hrun
  rw [hout'] at hrun'
  unfold cameOut at hout hout'
  rw [hout, hout'] at hframe
  cases r with
  | error f =>
    rw [hrun] at hawake ⊢
    obtain ⟨hresult, hakin, -, -, hstore⟩ := hframe hawake
    cases hresult with
    | error h =>
      rw [hrun']
      exact ⟨.error h, hakin, hstore⟩
  | ok done =>
    rw [hrun] at hawake ⊢
    have hthrough : (popFrame after).cancelled = false := by
      rw [on_log, cancelled_tell] at hawake
      exact hawake
    obtain ⟨hresult, hakin, -, -, hstore⟩ := hframe hthrough
    cases hresult with
    | ok h =>
      rw [hrun']
      exact ⟨.ok rfl,
        (hakin.see (.cons (.logged .info (.same _)) .nil)).tell (.same _), hstore⟩

end Run

/-! ### Runs that leave the log alone -/

namespace Collaborators

/-- **The log goes to no other files** than these. -/
def LogsTo (team : Collaborators ω) (isLog : String → Bool) : Prop :=
  ∀ path, isLog path = false → ∀ events world, team.readFile path events world
    = team.readFile path (events.filter fun event => !event.isLogged) world

/-- The collaborators of a run that does not find certain files. -/
def without (team : Collaborators ω) (hidden : String → Bool) : Collaborators ω :=
  { team with
    readFile := fun path events world =>
      if hidden path then .error (.file .missing path none) else team.readFile path events world }

/-- Without the files that the log goes to, no file goes by what was logged. -/
theorem LogsTo.readsNoLog {isLog : String → Bool} (h : team.LogsTo isLog) :
    (team.without isLog).ReadsNoLog := fun path events world => by
  show (if isLog path = true then _ else _) = (if isLog path = true then _ else _)
  by_cases hlog : isLog path = true
  · rw [if_pos hlog, if_pos hlog]
  · rw [if_neg hlog, if_neg hlog]
    exact h path (by simpa using hlog) events world

end Collaborators

namespace Run

/-- **The actions of a sequence leave files alone** if they come out the same without these files:
reading one that is there would be logged in another way than not finding it. -/
def LeavesAlone (team : Collaborators ω) (hidden : String → Bool) (binding : Binding ω)
    (slot : Option Nat) (sequence : Sequence) (m : Machine ω) : Prop :=
  cameOut team (binding.lookup team) slot sequence m
    = cameOut (team.without hidden) (binding.lookup (team.without hidden)) slot sequence m

theorem LeavesAlone.runSequence {hidden : String → Bool} {binding : Binding ω}
    {slot : Option Nat} {sequence : Sequence}
    (h : LeavesAlone team hidden binding slot sequence m) :
    (runSequence team (binding.lookup team) slot sequence).on m
      = (runSequence (team.without hidden) (binding.lookup (team.without hidden)) slot sequence).on
        m := by
  rw [on_runSequence, on_runSequence, h]

end Run

namespace Action

mutual

/-- Does a file action stand in the tree of an action? -/
def readsFile : Action → Bool
  | .task _ work => work.kind == .file
  | .loop _ _ actions => anyReadsFile actions
  | .choice _ _ thenActions elseActions => anyReadsFile thenActions || anyReadsFile elseActions

/-- Does a file action stand in the trees of actions? -/
def anyReadsFile : List Action → Bool
  | [] => false
  | action :: actions => readsFile action || anyReadsFile actions

end

end Action

namespace Run

/-! ### Scripts without file actions -/

theorem pressKeys_without (hidden : String → Bool) (keys : List String) :
    pressKeys (team.without hidden) keys = pressKeys team keys := by
  have hgaps : ∀ keys, pressAfterGap (team.without hidden) keys = pressAfterGap team keys := by
    intro keys
    induction keys with
    | nil => rfl
    | cons key keys ih =>
      unfold pressAfterGap
      rw [ih]
      rfl
  cases keys with
  | nil => rfl
  | cons key keys =>
    simp only [pressKeys, hgaps]
    rfl

theorem runTask_without (hidden : String → Bool) {lookup : Option (Lookup ω)} (place : Place)
    (header : Action.Header) {task : Action.Task} (h : task.kind ≠ .file) :
    runTask (team.without hidden) lookup place header task
      = runTask team lookup place header task := by
  match task with
  | .keyboard task =>
    show runKeyboard (team.without hidden) task = runKeyboard team task
    unfold runKeyboard
    rw [pressKeys_without]
    rfl
  | .file task => exact absurd rfl h
  | .mouse _ | .wait _ | .variable _ | .clipboard _ | .payload _ | .browser _ => rfl

theorem runLoop_without (hidden : String → Bool) (spec : LoopSpec) (body : Run ω Unit) :
    runLoop (team.without hidden) spec body = runLoop team spec body := by
  have hrounds : ∀ left round items, runRounds (team.without hidden) spec body left round items
      = runRounds team spec body left round items := by
    intro left
    induction left with
    | zero => exact fun _ _ => rfl
    | succ left ih =>
      intro round items
      unfold runRounds
      rw [ih]
      rfl
  unfold runLoop
  simp only [hrounds]

/-- No change makes a file action of another one. -/
theorem kind_current (frame : Frame) (place : Place) (header : Action.Header)
    (task : Action.Task) : (frame.current place header task).2.kind = task.kind := by
  obtain hsame | ⟨edit, hedited⟩ := frame.current_cases place header task
  · rw [hsame]
  · rw [hedited]
    cases edit.change <;> cases task <;> rfl

section

variable {lookup : Option (Lookup ω)}

mutual

theorem runAction_without (hidden : String → Bool) (place : Place) (action : Action)
    (h : action.readsFile = false) :
    runAction (team.without hidden) lookup place action = runAction team lookup place action := by
  match action with
  | .task header task =>
    refine ext fun m => ?_
    obtain ⟨frame, hcurrent⟩ := exists_on_current place header task m
    have hnone : (frame.current place header task).2.kind ≠ .file := by
      rw [kind_current]
      exact ne_of_beq_false h
    refine (on_bind_ok hcurrent).trans (Eq.trans ?_ (on_bind_ok hcurrent).symm)
    dsimp only
    rw [runTask_without hidden place _ hnone]
    rfl
  | .loop header spec actions =>
    unfold runAction
    rw [runActions_without hidden _ _ actions h, runLoop_without]
    rfl
  | .choice header spec thenActions elseActions =>
    obtain ⟨hthen, helse⟩ := Bool.or_eq_false_iff.1 h
    unfold runAction
    rw [runActions_without hidden _ _ thenActions hthen,
      runActions_without hidden _ _ elseActions helse]
    rfl

/-- Actions among which no file action stands run the same without files. -/
theorem runActions_without (hidden : String → Bool) (place : Place) (index : Nat)
    (actions : List Action) (h : Action.anyReadsFile actions = false) :
    runActions (team.without hidden) lookup place index actions
      = runActions team lookup place index actions := by
  match actions with
  | [] => rfl
  | action :: actions =>
    obtain ⟨hhead, htail⟩ := Bool.or_eq_false_iff.1 h
    unfold runActions
    rw [runAction_without hidden _ action hhead, runActions_without hidden _ _ actions htail]

end

end

/-- **A script without file actions leaves all files alone**, if it can ask for no sequence of a
library. -/
theorem leavesAlone_of_readsFile {hidden : String → Bool} {binding : Binding ω}
    {slot : Option Nat} {sequence : Sequence} (h : Action.anyReadsFile sequence.actions = false)
    (hbinding : binding.lookup (team.without hidden) = binding.lookup team) :
    LeavesAlone team hidden binding slot sequence m := by
  unfold LeavesAlone cameOut
  rw [hbinding, runActions_without hidden _ _ sequence.actions h]

/-- **Disabled actions are invisible** to a run that is never cancelled and leaves the log alone.
The same run of the pruned script, on a library whose disabled actions have all been taken out, ends
in the same way: well, or with the same failure, which blames what pruning has left of the same
action. It has asked its collaborators for the same and has seen the same come of it, it leaves the
same world and the same variables, both in its frame and in the library, and it leaves the library
that pruning makes of the one that was left before. What it has logged and told is the same but for
how many actions there are. -/
theorem disabled_invisible {isLog : String → Bool} (hlog : team.LogsTo isLog)
    (binding : Binding ω) (slot : Option Nat) (sequence : Sequence) (m : Machine ω)
    (hslot : ∀ number, slot = some number → m.library.sequences[number]? = some sequence) :
    let pruned : Machine ω := { m with library := m.library.pruned }
    let run := (runSequence team (binding.lookup team) slot sequence).on m
    let run' := (runSequence team (binding.pruned.lookup team) slot sequence.pruned).on pruned
    LeavesAlone team isLog binding slot sequence m →
      LeavesAlone team isLog binding.pruned slot sequence.pruned pruned →
      run.2.cancelled = false →
        Matching Failure.Recounted Eq run.1 run'.1 ∧ run.2.Akin run'.2 ∧
          (cameOut team (binding.pruned.lookup team) slot sequence.pruned pruned).2.store
            = (cameOut team (binding.lookup team) slot sequence m).2.store := by
  intro pruned run run' hleaves hleaves' hawake
  have hrun : run = _ := hleaves.runSequence
  have hrun' : run' = _ := hleaves'.runSequence
  rw [hrun] at hawake ⊢
  rw [hrun', hleaves, hleaves']
  exact akin_runSequence hlog.readsNoLog binding slot sequence m hslot hawake

/-- Collaborators among whose files there is the log. -/
def withLog : Collaborators Unit :=
  { withoutDevices with
    readFile := fun path events _ =>
      if path = "log" then
        .ok (events.flatMap fun
          | .logged note => note.text.toList.map (·.toNat.toUInt8)
          | _ => [])
      else .error (.file .missing path none) }

/-- A sequence that counts up twice, between actions that are disabled. -/
def countingTwice : Sequence :=
  ⟨"s", "", [.task { Action.Header.initial "w" with enabled := false, delayBefore := 500 }
      (.wait .initial),
    .loop (.initial "l") { LoopSpec.initial with maxIterations := 2 }
      [.task { Action.Header.initial "m" with enabled := false } (.mouse .initial),
        .task (.initial "c")
          (.variable { VariableTask.initial with name := "n", operation := .increment })]],
    .empty, ""⟩

/-- With the disabled actions and without them, the run counts to two. -/
theorem disabled_invisible_counting :
    let m : Machine Unit := .initial () ⟨[countingTwice]⟩
    let pruned : Machine Unit := { m with library := m.library.pruned }
    let run := (runSequence withLog none (some 0) countingTwice).on m
    let run' := (runSequence withLog none (some 0) countingTwice.pruned).on pruned
    withLog.LogsTo (· == "log") ∧
      (∀ number, some 0 = some number → m.library.sequences[number]? = some countingTwice) ∧
      LeavesAlone withLog (· == "log") .none (some 0) countingTwice m ∧
      LeavesAlone withLog (· == "log") .none (some 0) countingTwice.pruned pruned ∧
      run.2.cancelled = false ∧ run'.1 = .ok () ∧ run.2.Akin run'.2 ∧
      (cameOut withLog none (some 0) countingTwice.pruned pruned).2.store.text "n" ""
        = .ok "2" := by
  intro m pruned run run'
  have hlog : withLog.LogsTo (· == "log") := fun path hpath events world => by
    have hne : path ≠ "log" := by simpa using hpath
    show (if path = "log" then _ else _) = (if path = "log" then _ else _)
    rw [if_neg hne, if_neg hne]
  have hslot : ∀ number, some 0 = some number →
      m.library.sequences[number]? = some countingTwice := by
    rintro _ ⟨⟩
    rfl
  have hleaves : LeavesAlone withLog (· == "log") .none (some 0) countingTwice m :=
    leavesAlone_of_readsFile (by decide) rfl
  have hleaves' : LeavesAlone withLog (· == "log") .none (some 0) countingTwice.pruned pruned :=
    leavesAlone_of_readsFile (by decide) rfl
  have hawake : run.2.cancelled = false := rfl
  obtain ⟨hresult, hakin, hstore⟩ :=
    disabled_invisible hlog .none (some 0) countingTwice m hslot hleaves hleaves' hawake
  have hok : run'.1 = .ok () := by
    obtain ⟨_, hok, -⟩ := hresult.exists_ok rfl
    exact hok
  exact ⟨hlog, hslot, hleaves, hleaves', hawake, hok, hakin,
    (congrArg (fun store => store.text "n" "") hstore).trans rfl⟩

/-- A sequence that copies the log, behind an action that is disabled. -/
def copyingLog : Sequence :=
  ⟨"s", "", [.task { Action.Header.initial "w" with enabled := false } (.wait .initial),
    .task (.initial "f")
      (.file { FileTask.initial with path := "log", destination := .clipboard })],
    .empty, ""⟩

end Run

/-- What has been put into the clipboard. -/
def Machine.copied (m : Machine ω) : List String :=
  m.requests.filterMap fun
    | .writeClipboard text => some text
    | _ => none

namespace Run

/-- **In the log a disabled action can be seen**: it tells how many actions there are. -/
theorem disabled_visible_in_log :
    let run := (runSequence withLog none none copyingLog).on (.initial () .empty)
    let run' := (runSequence withLog none none copyingLog.pruned).on (.initial () .empty)
    run.2.cancelled = false ∧
      run.2.copied = ["Starting sequence 's' (2 actions)"] ∧
      run'.2.copied = ["Starting sequence 's' (1 actions)"] :=
  ⟨by decide +kernel, by decide +kernel, by decide +kernel⟩

end Run
end DesktopMacro
