/-
Failures are contained, and the right action is blamed.

A collaborator's failure never leaves the action that it happens in: it becomes a fault of the
action. And a fault of an action passes on only through actions that do not tolerate errors, with
the first one of them to blame. So what comes out of a sequence is a cancellation or has an action
of the sequence's own tree to blame, with no tolerant action around it. What fails in a sequence
that is looked up in a library stays there.

Two things are needed for that. Pauses return, and the numbers of the actions and of what scripts
report are not too long: an action that cannot be described fails with no action to blame.
-/
import DesktopMacro.Proofs.Number.Writable
import DesktopMacro.Proofs.Run.Journal

set_option autoImplicit false

namespace DesktopMacro

variable {ω : Type}

/-! ## What is assumed -/

/-- A failure that has not to do with actions: no cancellation, and nobody is to blame. -/
structure Failure.IsForeign (f : Failure) : Prop where
  uncancelled : f.isCancelled = false
  unblamed : f.blamed? = none

/-- **Collaborators that behave**: they fail with foreign failures only, pauses return, and the
results of scripts have no number that is too long. -/
structure Collaborators.Behave (team : Collaborators ω) : Prop where
  calls : ∀ f, team.FailsWith f → f.IsForeign
  pauses : ∀ slice world f, (team.pause slice world).result ≠ .error f
  results : ∀ evaluate script world result, team.evaluate = some evaluate →
    (evaluate script world).result = .ok result → result.isWritable = true

/-- What is bound behaves, too: a library does anyway. -/
def Binding.Behaves : Binding ω → Prop
  | .foreign answer => ∀ name values world f,
      (answer name values world).result = .error f → f.IsForeign
  | _ => True

theorem Binding.Behaves.failsWith {binding : Binding ω} (h : binding.Behaves) {f : Failure}
    (hf : binding.FailsWith f) : f.isAction = false ∨ f.blamed? = .none := by
  cases binding with
  | none => exact hf.elim
  | library sequences => exact .inl hf
  | foreign answer =>
    obtain ⟨name, values, world, hanswer⟩ := hf
    exact .inr (h name values world f hanswer).unblamed

/-- **An action with modest numbers**: it can be described, and its delay is a double. -/
structure Action.IsModest (action : Action) : Prop where
  describable : action.IsDescribable
  delay : ∃ seconds, Pause.seconds action.header.delayBefore = .ok seconds

/-! ## Points -/

/-- Points of which both numbers can be written. -/
def Rules.written (ω : Type) : Rules ω where
  entry _ _ _ := True
  point x y := Integer.IsWritable x ∧ Integer.IsWritable y

namespace Run

theorem whole_of_coordinate? {raw : Json} {n : Int} (h : coordinate? raw = .ok (some n)) :
    raw.whole = .ok n := by
  unfold coordinate? at h
  split at h
  · next hwhole =>
    cases h
    exact hwhole
  · cases h
  · cases h

theorem isWritable_of_point? {x y : Json} (hx : x.isWritable = true) (hy : y.isWritable = true)
    {point : Int × Int} (h : point? x y = .ok (some point)) :
    Integer.IsWritable point.1 ∧ Integer.IsWritable point.2 := by
  cases hcx : coordinate? x with
  | error cause =>
    rw [point?, hcx] at h
    cases h
  | ok x? =>
    cases x? with
    | none =>
      rw [point?, hcx] at h
      cases h
    | some a =>
      cases hcy : coordinate? y with
      | error cause =>
        rw [point?, hcx, hcy] at h
        cases h
      | ok y? =>
        cases y? with
        | none =>
          rw [point?, hcx, hcy] at h
          cases h
        | some b =>
          rw [point?, hcx, hcy] at h
          cases h
          exact ⟨Json.isWritable_of_whole hx (whole_of_coordinate? hcx),
            Json.isWritable_of_whole hy (whole_of_coordinate? hcy)⟩

/-- A point in a result that can be written can be written. -/
theorem isWritable_of_pointOf? {result : Json} (hresult : result.isWritable = true)
    {point : Int × Int} (h : pointOf? result = .ok (some point)) :
    Integer.IsWritable point.1 ∧ Integer.IsWritable point.2 := by
  unfold pointOf? at h
  split at h
  -- A point is an object with two members, or a list of two values.
  · split at h
    · next hx hy =>
      have hx' := Json.isWritable_get? hresult hx
      have hy' := Json.isWritable_get? hresult hy
      exact isWritable_of_point? hx' hy' h
    · cases h
  · next x y =>
    have hboth : x.isWritable = true ∧ y.isWritable = true := by
      simpa [Json.isWritable, Json.areWritable] using hresult
    exact isWritable_of_point? hboth.1 hboth.2 h
  · cases h

end Run

theorem Collaborators.Behave.allow {team : Collaborators ω} (h : team.Behave) :
    (Rules.written ω).Allow team := by
  rintro x y ⟨evaluate, script, world, result, there, hresult, hpoint⟩
  exact Run.isWritable_of_pointOf? (h.results evaluate script world result there hresult) hpoint

/-! ## The action to blame -/

/-- **An action inside of another one**, with those around it, outermost first. -/
inductive Action.Holds : Action → List Action → Action → Prop where
  | self (action : Action) : Holds action [] action
  | inside {action child node : Action} {around : List Action} (h : child ∈ action.children)
    (below : Holds child around node) : Holds action (action :: around) node

/-- **An action answers for a failure**: it holds an enabled action that does not tolerate errors,
below actions that do not either, and the failure is blamed on what became of that action. -/
def Action.Answers (root : Action) (f : Failure) : Prop :=
  f.isAction = true ∧ ∃ around node culprit, root.Holds around node
    ∧ node.Becomes Edit.IsWritable culprit ∧ f.blamed? = some culprit
    ∧ node.header.enabled = true ∧ node.header.continueOnError = false
    ∧ ∀ action ∈ around, action.header.enabled = true ∧ action.header.continueOnError = false

namespace Failure

/-- Who is to blame already stays so. -/
theorem blame_of_some {f : Failure} {culprit : Action} (h : f.blamed? = some culprit)
    (action : Action) : f.blame action = f := by
  cases f with
  | cancelled message => rfl
  | failed cause blamed =>
    cases h
    rfl
  | exhausted label attempts last blamed =>
    cases h
    rfl

theorem blamed?_blame_of_none {f : Failure} (atFault : f.isAction = true)
    (h : f.blamed? = none) (action : Action) : (f.blame action).blamed? = some action := by
  cases f with
  | cancelled message => cases atFault
  | failed cause blamed =>
    cases h
    rfl
  | exhausted label attempts last blamed =>
    cases h
    rfl

end Failure

namespace Action

/-- An action answers for what an action inside answers for, unless it is disabled or tolerates
errors. -/
theorem Answers.inside {action child : Action} {f : Failure} (h : child.Answers f)
    (hchild : child ∈ action.children) (enabled : action.header.enabled = true)
    (intolerant : action.header.continueOnError = false) : action.Answers f := by
  obtain ⟨atFault, around, node, culprit, hholds, hbecomes, hblamed, hon, hstrict, haround⟩ := h
  refine ⟨atFault, action :: around, node, culprit, .inside hchild hholds, hbecomes, hblamed, hon,
    hstrict, fun other hother => ?_⟩
  rcases List.mem_cons.1 hother with rfl | hbelow
  · exact ⟨enabled, intolerant⟩
  · exact haround other hbelow

/-- An action answers for a failure that is blamed on what became of it. -/
theorem Answers.own {action culprit : Action} {f : Failure} (atFault : f.isAction = true)
    (hbecomes : action.Becomes Edit.IsWritable culprit) (hblamed : f.blamed? = some culprit)
    (enabled : action.header.enabled = true)
    (intolerant : action.header.continueOnError = false) : action.Answers f :=
  ⟨atFault, [], action, culprit, .self action, hbecomes, hblamed, enabled, intolerant, nofun⟩

/-- Where a failure that the work of an action raises can have come from. -/
inductive Traced (action : Action) (f : Failure) : Prop where
  | cancelled (h : f.isCancelled = true)
  | foreign (h : f.isAction = false)
  | unblamed (h : f.blamed? = none)
  | own {culprit : Action} (h : action.Becomes Edit.IsWritable culprit)
    (blamed : f.blamed? = some culprit)
  | inside {child : Action} (h : child ∈ action.children) (answers : child.Answers f)

/-- What an intolerant action is blamed for, it answers for: somebody inside is to blame, or it is
itself. -/
theorem Traced.blame {action current : Action} {f : Failure} (h : action.Traced f)
    (hcurrent : action.Becomes Edit.IsWritable current) (atFault : f.isAction = true)
    (enabled : action.header.enabled = true)
    (intolerant : action.header.continueOnError = false) : action.Answers (f.blame current) := by
  have hfault : (f.blame current).isAction = true := by
    cases f <;> exact atFault
  cases h with
  | cancelled hcancelled =>
    rw [Failure.isCancelled_of_isAction atFault] at hcancelled
    cases hcancelled
  | foreign hforeign =>
    rw [hforeign] at atFault
    cases atFault
  | unblamed hunblamed =>
    exact .own hfault hcurrent (Failure.blamed?_blame_of_none atFault hunblamed current) enabled
      intolerant
  | own hculprit hblamed =>
    rw [Failure.blame_of_some hblamed]
    exact .own atFault hculprit hblamed enabled intolerant
  -- Somebody inside is to blame already, and blaming this action changes nothing.
  | inside hchild hanswers =>
    have ⟨_, _, _, culprit, _, _, hblamed, _⟩ := hanswers
    rw [Failure.blame_of_some hblamed]
    exact hanswers.inside hchild enabled intolerant

end Action

/-! ## What escapes -/

section

variable {team : Collaborators ω} {lookedUp : Failure → Prop}

mutual

/-- What the work of an action raises is cancelled, foreign, unblamed, or blamed on the action or on
somebody inside. -/
theorem Action.Raises.traced (hteam : team.Behave)
    (hlookedUp : ∀ f, lookedUp f → f.isAction = false ∨ f.blamed? = none) {action : Action}
    (hmodest : ∀ around node, action.Holds around node → node.IsModest) {f : Failure}
    (h : action.Raises team (Rules.written ω) lookedUp f) : action.Traced f := by
  match h with
  | .stopped _ => exact .cancelled rfl
  | .cause _ _ => exact .unblamed rfl
  | .call _ hcall => exact .unblamed (hteam.calls f hcall).unblamed
  | .pause _ slice world hpause => exact absurd hpause (hteam.pauses slice world f)
  | .lookup _ hlookup =>
    rcases hlookedUp f hlookup with hforeign | hunblamed
    · exact .foreign hforeign
    · exact .unblamed hunblamed
  | .fault hbecomes _ => exact .own hbecomes rfl
  | .exhausted hbecomes _ _ _ _ => exact .own hbecomes rfl
  | .inside hchild escapes =>
    -- Whatever an action inside holds, this one holds, so it is modest as well.
    rcases escapes.answered hteam hlookedUp
      fun around node hholds => hmodest _ node (.inside hchild hholds) with hcancelled | hanswers
    · exact .cancelled hcancelled
    · exact .inside hchild hanswers

/-- **What escapes from an action** is a cancellation, or the action answers for it. -/
theorem Action.Escapes.answered (hteam : team.Behave)
    (hlookedUp : ∀ f, lookedUp f → f.isAction = false ∨ f.blamed? = none) {action : Action}
    (hmodest : ∀ around node, action.Holds around node → node.IsModest) {f : Failure}
    (h : action.Escapes team (Rules.written ω) lookedUp f) :
    f.isCancelled = true ∨ action.Answers f := by
  have hself : action.IsModest := hmodest [] action (.self action)
  match h with
  | .stopped _ => exact .inl rfl
  | .pause _ slice world hpause => exact absurd hpause (hteam.pauses slice world f)
  | .delay hdelay =>
    obtain ⟨seconds, hseconds⟩ := hself.delay
    rw [hseconds] at hdelay
    cases hdelay
  | .undescribed hbecomes undescribable =>
    exact absurd (hbecomes.isDescribable hself.describable fun _ => id) undescribable
  | .cancelled _ hcancelled => exact .inl hcancelled
  | .blamed hbecomes enabled intolerant raised atFault =>
    exact .inr ((raised.traced hteam hlookedUp hmodest).blame hbecomes atFault enabled intolerant)

end

end

/-! ## What comes out of a sequence -/

/-- Around an action that answers for a failure nobody tolerates errors, itself included. -/
theorem Action.Answers.intolerant {action : Action} {f : Failure} (h : action.Answers f) :
    action.header.continueOnError = false := by
  obtain ⟨-, around, node, culprit, hholds, -, -, -, hstrict, haround⟩ := h
  cases hholds with
  | self => exact hstrict
  | inside => exact (haround action List.mem_cons_self).2

namespace Run

variable (team : Collaborators ω) (binding : Binding ω) (slot : Option Nat) (sequence : Sequence)

/-- **Failures are contained, and the right action is blamed.** With collaborators that behave and
modest numbers, a sequence ends well, or with the cancellation, or with a failure that one of its
actions answers for. After such a failure has come up, nothing happens but that sequences are left.
If all actions of the sequence tolerate errors, only the cancellation is left. -/
theorem failure_contained (hteam : team.Behave) (hbinding : binding.Behaves)
    (hmodest : ∀ root ∈ sequence.actions, ∀ around node, root.Holds around node → node.IsModest)
    (m : Machine ω) {f : Failure}
    (h : ((runSequence team (binding.lookup team) slot sequence).on m).1 = .error f) :
    (f.isCancelled = true ∨
      (∃ root ∈ sequence.actions, root.Answers f) ∧
      ∃ later mark earlier first,
        ((runSequence team (binding.lookup team) slot sequence).on m).2.journal
            = later ++ mark :: (earlier ++ m.journal)
          ∧ mark.step = .failed first ∧ f.IsFrom first ∧ ∀ after ∈ later, after.step = .left)
    ∧ ((∀ root ∈ sequence.actions, root.header.continueOnError = true) →
      f.isCancelled = true) := by
  have hopens : (Rules.written ω).Opens := fun _ _ _ _ => trivial
  obtain ⟨root, hroot, hescapes⟩ :=
    fails_runSequence hteam.allow (takes_binding hteam.allow hopens binding) h
  have hanswered := hescapes.answered hteam (fun _ => hbinding.failsWith) (hmodest root hroot)
  refine ⟨hanswered.imp_right fun hanswers => ⟨⟨root, hroot, hanswers⟩, ?_⟩, fun htolerant => ?_⟩
  · obtain ⟨marks, hmarks, hconcludes⟩ :=
      (course_runSequence team binding slot sequence m).concludes
    rw [h] at hconcludes
    obtain ⟨later, mark, earlier, rfl, hlater, -, hmark⟩ := hconcludes
    rcases hmark with ⟨-, rfl⟩ | ⟨first, hfailed, hfirst⟩
    -- What an action answers for is no cancellation, so nothing was noticed.
    · cases hanswers.1
    · refine ⟨later, mark, earlier, first, ?_, hfailed, hfirst, hlater⟩
      rw [hmarks, List.append_assoc]
      rfl
  -- Whoever answers for a failure does not tolerate errors, but here everybody does.
  · rcases hanswered with hcancelled | hanswers
    · exact hcancelled
    · have hintolerant := hanswers.intolerant
      rw [htolerant root hroot] at hintolerant
      cases hintolerant

/-- A desktop without devices: no input can be made. -/
def withoutDevices : Collaborators Unit where
  input _ := .fail (.failed (.unavailable "no device") none)
  readClipboard := .done none
  writeClipboard _ := .done ()
  evaluate := none
  readFile path _ _ := .error (.file .missing path none)
  pause _ := .done ()
  freshDigits := ""

/-- A loop that clicks, where the click does not work. -/
def clickingLoop : Action :=
  .loop (.initial "a") { LoopSpec.initial with maxIterations := 2 }
    [.task (.initial "b") (.mouse .initial)]

theorem behave_withoutDevices : withoutDevices.Behave where
  calls f hf := by
    cases hf with
    | input input world h =>
      cases h
      exact ⟨rfl, rfl⟩
    | reading world h => cases h
    | writing text world h => cases h
    | evaluating evaluate script world there => cases there
  pauses slice world f h := by cases h
  results evaluate script world result there := by cases there

theorem isModest_clickingLoop {around : List Action} {node : Action}
    (h : clickingLoop.Holds around node) : node.IsModest := by
  cases h with
  | self => exact ⟨by decide, _, rfl⟩
  | inside hchild hbelow =>
    cases List.mem_singleton.1 hchild
    cases hbelow with
    | self => exact ⟨by decide, _, rfl⟩
    | inside hnone => cases hnone

/-- The click that does not work is a failure that the loop answers for. -/
theorem clickingLoop_answers :
    ∃ f, ((runSequence withoutDevices (Binding.none.lookup withoutDevices) none
        ⟨"s", "", [clickingLoop], .empty, ""⟩).on (Machine.initial () .empty)).1 = .error f
      ∧ clickingLoop.Answers f := by
  -- The run itself tells that it fails, and that it was not cancelled.
  obtain ⟨f, hf, huncancelled⟩ : ∃ f, ((runSequence withoutDevices
      (Binding.none.lookup withoutDevices) none ⟨"s", "", [clickingLoop], .empty, ""⟩).on
      (Machine.initial () .empty)).1 = .error f ∧ f.isCancelled = false := ⟨_, rfl, rfl⟩
  have hmodest : ∀ root ∈ [clickingLoop], ∀ around node, root.Holds around node →
      node.IsModest := fun root hroot around node h => by
    cases List.mem_singleton.1 hroot
    exact isModest_clickingLoop h
  have hcontained := failure_contained withoutDevices .none none
    ⟨"s", "", [clickingLoop], .empty, ""⟩ behave_withoutDevices trivial hmodest _ hf
  rcases hcontained.1 with hcancelled | ⟨⟨root, hroot, hanswers⟩, -⟩
  · rw [huncancelled] at hcancelled
    cases hcancelled
  · cases List.mem_singleton.1 hroot
    exact ⟨f, hf, hanswers⟩

end Run
end DesktopMacro
