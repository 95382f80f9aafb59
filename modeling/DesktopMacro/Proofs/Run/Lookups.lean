/-
Sequences take courses, and so does looking them up.

A sequence runs in a frame of its own, and a sequence that is looked up is one of the library that
is not running. Looking up in a library never fails with what is an action's fault, whatever fails
inside. The depth of the lookups is what the induction is on.
-/
import DesktopMacro.Proofs.Run.Actions

set_option autoImplicit false

namespace DesktopMacro

variable {ω : Type} {team : Collaborators ω} {rules : Rules ω} {P Q : Failure → Prop}

/-- **What escapes from a sequence** is what escapes from one of its actions. -/
def Sequence.Escapes (team : Collaborators ω) (rules : Rules ω) (lookedUp : Failure → Prop)
    (sequence : Sequence) (f : Failure) : Prop :=
  ∃ action ∈ sequence.actions, action.Escapes team rules lookedUp f

/-- What looking a sequence up fails with. In a library a fault of an action is an answer and no
failure. -/
def Binding.FailsWith : Binding ω → Failure → Prop
  | .none, _ => False
  | .library _, f => f.isAction = false
  | .foreign answer, f => ∃ name values world, (answer name values world).result = .error f

/-- Changing a sequence of a library otherwise leaves all names as they are. -/
theorem Library.names_modify (library : Library) (index : Nat) {change : Sequence → Sequence}
    (h : ∀ sequence, (change sequence).name = sequence.name) :
    (library.modify index change).names = library.names := by
  refine List.ext_getElem? fun i => ?_
  simp only [names, modify, List.getElem?_map, List.getElem?_modify]
  cases library.sequences[i]? with
  | none => rfl
  | some sequence =>
    show some (if index = i then change sequence else sequence).name = some sequence.name
    split
    · exact congrArg some (h sequence)
    · rfl

namespace Run

/-! ## Frames -/

theorem takesFrom_inFrame {m : Machine ω} {sequence : Sequence} {slot : Option Nat}
    (hentry : rules.entry m slot sequence) {body : Run ω Unit} (hbody : body.Takes rules P) :
    (inFrame (.enter sequence slot) body).TakesFrom rules P m := by
  refine .of_within fun hm => ?_
  have hwithin : (pushFrame m (.enter sequence slot)).Within rules := m.within_pushFrame rfl
  have hcourse := (hbody _).course hwithin
  have hfails := (hbody _).fails hwithin
  have heq := on_inFrame (.enter sequence slot) body m
  rcases hr : body.on (pushFrame m (.enter sequence slot)) with ⟨r, m'⟩
  rw [hr] at hcourse hfails heq
  cases r with
  | ok a => exact .of_ok heq (.framed sequence slot hentry hcourse)
  | error f => exact .of_error heq (.framed sequence slot hentry hcourse) (hfails f rfl)

/-- What nothing else is running under, runs detached. -/
theorem on_detachedAtRest (body : Run ω Unit) (m : Machine ω) :
    (detachedAtRest body).on m =
      if m.frames = [] then
        ((body.on { m with detached := true }).1,
          { (body.on { m with detached := true }).2 with detached := m.detached })
      else body.on m := by
  unfold detachedAtRest
  rw [on_get_bind]
  by_cases hrest : m.frames = []
  · rw [if_pos (by rw [hrest]; rfl), if_pos hrest, on_modify_bind, on_outcome_bind, on_modify_bind]
    cases (body.on { m with detached := true }).1 <;> rfl
  · rw [if_neg (by simpa using hrest), if_neg hrest]

theorem takesFrom_detachedAtRest {m : Machine ω} {body : Run ω Unit}
    (hbody : ∀ detached, body.TakesFrom rules P { m with detached }) :
    (detachedAtRest body).TakesFrom rules P m := by
  refine .of_within fun hm => ?_
  have heq := on_detachedAtRest body m
  by_cases hrest : m.frames = []
  · rw [if_pos hrest] at heq
    have hcourse := (hbody true).course hm
    have hfails := (hbody true).fails hm
    rcases hr : body.on { m with detached := true } with ⟨r, m'⟩
    rw [hr] at hcourse hfails heq
    cases r with
    | ok a => exact .of_ok heq (.detached hrest hcourse)
    | error f => exact .of_error heq (.detached hrest hcourse) (hfails f rfl)
  · rw [if_neg hrest] at heq
    exact .after heq (.rest m) (hbody m.detached)

/-! ## Sequences -/

section

variable {lookedUp : Failure → Prop} {lookup : Option (Lookup ω)}

/-- **A sequence takes a course**, where it may come on top. -/
theorem takesFrom_runSequence (hallow : rules.Allow team)
    (hlookup : ∀ inner ∈ lookup, inner.Takes rules lookedUp)
    {m : Machine ω} {slot : Option Nat} {sequence : Sequence}
    (hentry : ∀ m' : Machine ω, m'.frames = m.frames → m'.library = m.library →
      rules.entry m' slot sequence) :
    (runSequence team lookup slot sequence).TakesFrom rules
      (sequence.Escapes team rules lookedUp) m := by
  unfold runSequence
  refine (takes_log _ _ m).bind fun _ m₁ hlog => ?_
  rw [on_log] at hlog
  cases hlog
  -- What is logged before leaves frames and library alone, so the sequence still may start.
  refine (takesFrom_inFrame (hentry _ ?_ ?_)
    (takes_runActions hallow hlookup [] 0 sequence.actions)).bind fun _ m₂ _ => takes_log _ _ m₂
  · unfold Machine.tell
    split <;> rfl
  · unfold Machine.tell
    split <;> rfl

/-- What comes out of a sequence comes out of its actions, whatever was running below. -/
theorem of_runSequence_error {m : Machine ω} {sequence : Sequence} {slot : Option Nat}
    (hactions : (runActions team lookup [] 0 sequence.actions).Takes rules P) {f : Failure}
    (h : ((runSequence team lookup slot sequence).on m).1 = .error f) : P f := by
  rcases hr : (runSequence team lookup slot sequence).on m with ⟨r, m'⟩
  rw [hr] at h
  cases h
  unfold runSequence at hr
  rcases of_bind_error hr with hlog | ⟨_, m₁, -, hr⟩
  · rw [on_log] at hlog
    cases hlog
  · rcases of_bind_error hr with hframe | ⟨_, m₂, -, hlog⟩
    · rw [on_inFrame] at hframe
      -- Below, the rules may be broken; the frame of the sequence is new and has no edits yet.
      exact (hactions _).fails (m₁.within_pushFrame rfl) f (congrArg Prod.fst hframe)
    · rw [on_log] at hlog
      cases hlog

/-- **What comes out of a sequence has escaped from it.** -/
theorem fails_runSequence (hallow : rules.Allow team)
    (hlookup : ∀ inner ∈ lookup, inner.Takes rules lookedUp)
    {m : Machine ω} {sequence : Sequence} {slot : Option Nat} {f : Failure}
    (h : ((runSequence team lookup slot sequence).on m).1 = .error f) :
    sequence.Escapes team rules lookedUp f :=
  of_runSequence_error (takes_runActions hallow hlookup [] 0 sequence.actions) h

theorem takesFrom_runNested (hallow : rules.Allow team)
    (hlookup : ∀ inner ∈ lookup, inner.Takes rules lookedUp)
    {m : Machine ω} {slot : Nat} {sequence : Sequence}
    (hentry : ∀ detached, rules.entry { m with detached } (some slot) sequence) :
    (runNested team lookup slot sequence).TakesFrom rules
      (sequence.Escapes team rules lookedUp) m := by
  refine takesFrom_detachedAtRest fun detached => takesFrom_inFrame (hentry detached) ?_
  exact (takes_log _ _).bind fun _ => takes_runActions hallow hlookup [] 0 sequence.actions

end

/-! ## Looking sequences up -/

/-- Finding a sequence that may start changes nothing; not finding one is only noted. -/
theorem on_findIdle (name : String) (m : Machine ω) :
    (∃ notes : List Note, (findIdle name).on m = (.ok none, m.see (notes.map .logged))) ∨
    ∃ slot sequence, m.library.sequences[slot]? = some sequence ∧
      isRunning m sequence.name = false ∧
      (findIdle name).on m = (.ok (some (slot, sequence)), m) := by
  unfold findIdle
  rw [on_get_bind]
  cases hindex : m.library.indexOf? name with
  | none => exact .inl ⟨_, rfl⟩
  | some slot =>
    cases hsequence : m.library.sequences[slot]? with
    | none => exact .inl ⟨[], by simp only [hsequence]; rfl⟩
    | some sequence =>
      by_cases hrunning : isRunning m sequence.name = true
      · exact .inl ⟨_, by simp only [hsequence, hrunning]; rfl⟩
      · refine .inr ⟨slot, sequence, hsequence, by simpa using hrunning, ?_⟩
        simp only [hsequence, hrunning]
        rfl

theorem name_mem {library : Library} {slot : Nat} {sequence : Sequence}
    (h : library.sequences[slot]? = some sequence) : sequence.name ∈ library.names :=
  List.mem_map_of_mem (List.mem_of_getElem? h)

/-- The machine on which a sequence that was looked up starts. -/
def given (m : Machine ω) (slot : Nat) (values : List (String × String)) : Machine ω :=
  if values.isEmpty then m else withVariables (m.mark .stored) slot values

theorem on_giveVariables (slot : Nat) (values : List (String × String)) (m : Machine ω) :
    (giveVariables slot values).on m = (.ok (), given m slot values) := by
  unfold giveVariables given
  cases values <;> rfl

/-- A sequence that the machine offers may be given variables. -/
theorem takesFrom_giveVariables {m : Machine ω} {slot : Nat} {name : String}
    (offered : m.Offers slot name) (values : List (String × String)) :
    (giveVariables slot values : Run ω Unit).TakesFrom rules P m := by
  refine .of_ok (on_giveVariables slot values m) ?_
  unfold given
  split
  · exact .rest m
  · exact .given m slot values name offered

theorem names_given (m : Machine ω) (slot : Nat) (values : List (String × String)) :
    (given m slot values).library.names = m.library.names := by
  unfold given
  split
  · rfl
  · exact m.library.names_modify slot fun _ => rfl

theorem frames_given (m : Machine ω) (slot : Nat) (values : List (String × String)) :
    (given m slot values).frames = m.frames := by
  unfold given
  split <;> rfl

theorem isRunning_congr {m m' : Machine ω} (h : m'.frames = m.frames) (name : String) :
    isRunning m' name = isRunning m name := by
  unfold isRunning Machine.callStack
  rw [h]

/-- What a machine offers depends on the names in its library and on its frames. -/
theorem offers_congr {m m' : Machine ω} {slot : Nat} {name : String} (h : m.Offers slot name)
    (hnames : m'.library.names = m.library.names) (hframes : m'.frames = m.frames) :
    m'.Offers slot name := by
  refine ⟨?_, (isRunning_congr hframes name).trans h.2⟩
  have hname := congrArg (·[slot]?) hnames
  simp only [Library.names, List.getElem?_map] at hname
  exact hname.trans h.1

theorem mem_names_of_offers {m : Machine ω} {slot : Nat} {name : String}
    (h : m.Offers slot name) : name ∈ m.library.names := by
  obtain ⟨sequence, hsequence, rfl⟩ := Option.map_eq_some_iff.1 h.1
  exact name_mem hsequence

/-- A fault of an action inside is an answer; every other failure passes on. -/
theorem takesFrom_succeeded {name : String} {body : Run ω Unit} {m : Machine ω}
    (hbody : body.TakesFrom rules Q m) :
    (succeeded name body).TakesFrom rules (fun f => f.isAction = false) m := by
  refine hbody.outcome_bind (fun _ => .pure true) fun f _ => ?_
  -- The answer is that the sequence did not run, and a cancellation is no such answer.
  by_cases hfault : f.isAction = true
  · refine .inr ⟨Failure.isCancelled_of_isAction hfault, ?_⟩
    dsimp only
    rw [if_pos hfault]
    exact (takes_note _).bind fun _ => .pure false
  · exact .inl ⟨if_neg hfault, by simpa using hfault⟩

variable {lookedUp : Failure → Prop}

/-- Looking a sequence up takes a course if what it asks for in turn does. -/
theorem takes_lookupOver (hallow : rules.Allow team) (hopens : rules.Opens)
    {inner : Option (Lookup ω)}
    (hinner : ∀ deeper ∈ inner, deeper.Takes rules lookedUp) :
    (lookupOver team inner).Takes rules (fun f => f.isAction = false) := by
  intro name values m
  unfold lookupOver
  rcases on_findIdle name m with ⟨notes, hnone⟩ | ⟨slot, sequence, hsequence, hidle, hsome⟩
  · exact .after (on_bind_ok hnone) (.noted notes (.rest m)) (Takes.pure false _)
  · refine .after (on_bind_ok hsome) (.rest m) ?_
    have offered : m.Offers slot sequence.name := ⟨by rw [hsequence]; rfl, hidle⟩
    refine (takesFrom_giveVariables offered values).bind fun _ m' hgiven => ?_
    rw [on_giveVariables] at hgiven
    cases hgiven
    cases inner with
    | none => exact Takes.pure false _
    | some deeper =>
      -- Giving variables starts nothing and renames nothing, so the sequence still may start.
      refine takesFrom_succeeded (takesFrom_runNested hallow hinner fun detached => ?_)
      exact hopens _ slot _
        (offers_congr offered (names_given m slot values) (frames_given m slot values))

theorem takes_libraryLookup (hallow : rules.Allow team) (hopens : rules.Opens) (depth : Nat) :
    (libraryLookup team depth).Takes rules (fun f => f.isAction = false) := by
  induction depth with
  | zero =>
    have hnone : ∀ deeper ∈ (none : Option (Lookup ω)), deeper.Takes rules (fun _ => True) := nofun
    exact takes_lookupOver hallow hopens hnone
  | succ depth ih => exact takes_lookupOver hallow hopens ih.of_some

/-- **Whatever a run is bound to**, looking a sequence up takes a course. -/
theorem takes_binding (hallow : rules.Allow team) (hopens : rules.Opens) (binding : Binding ω) :
    ∀ inner ∈ binding.lookup team, inner.Takes rules binding.FailsWith := by
  match binding with
  | .none => nofun
  | .library sequences => exact (takes_libraryLookup hallow hopens _).of_some
  | .foreign answer =>
    have hforeign : (foreignLookup answer).Takes rules (Binding.foreign answer).FailsWith :=
      fun name values => takes_ask rfl fun world f hf => ⟨name, values, world, hf⟩
    exact hforeign.of_some

end Run

/-! ## Without any rules -/

theorem Rules.allow_free (team : Collaborators ω) : (Rules.free ω).Allow team :=
  fun _ _ _ => trivial

theorem Rules.opens_free : (Rules.free ω).Opens := fun _ _ _ _ => trivial

theorem Machine.within_free (m : Machine ω) : m.Within (Rules.free ω) :=
  fun _ _ _ _ _ _ _ _ => trivial

/-- Every run of a sequence takes a course. -/
theorem Run.course_runSequence (team : Collaborators ω) (binding : Binding ω) (slot : Option Nat)
    (sequence : Sequence) (m : Machine ω) :
    Course (Rules.free ω) m
      (ending ((runSequence team (binding.lookup team) slot sequence).on m).1)
      ((runSequence team (binding.lookup team) slot sequence).on m).2 :=
  have hlookup := takes_binding (Rules.allow_free team) Rules.opens_free binding
  (takesFrom_runSequence (Rules.allow_free team) hlookup fun _ _ _ => trivial).course
    m.within_free

/-! ## Calls -/

/-- The calls that run sequences. -/
inductive Call where
  | outer (slot : Option Nat) (sequence : Sequence)
  | nested (slot : Nat) (sequence : Sequence)
  | lookup (name : String) (values : List (String × String))

/-- A call under a lookup. A lookup also says whether the sequence was found and ran; here only the
machine matters, and the failure. -/
def Call.run (team : Collaborators ω) (lookup : Lookup ω) : Call → Run ω Unit
  | .outer slot sequence => Run.runSequence team (some lookup) slot sequence
  | .nested slot sequence => Run.runNested team (some lookup) slot sequence
  | .lookup name values => do let _ ← lookup name values

/-- A call takes a course where nothing stands against its sequence. -/
theorem Run.course_call (team : Collaborators ω) (depth : Nat) (call : Call) {m : Machine ω}
    (hallow : rules.Allow team) (hopens : rules.Opens)
    (hentry : ∀ m' : Machine ω, ∀ slot sequence, m'.frames = m.frames →
      m'.library = m.library → rules.entry m' slot sequence) (hm : m.Within rules) :
    Course rules m (ending ((call.run team (libraryLookup team depth)).on m).1)
      ((call.run team (libraryLookup team depth)).on m).2 := by
  have hlookup : (libraryLookup team depth).Takes rules (fun f => f.isAction = false) :=
    takes_libraryLookup hallow hopens depth
  match call with
  | .outer slot sequence =>
    exact (takesFrom_runSequence hallow hlookup.of_some (hentry · slot sequence)).course hm
  | .nested slot sequence =>
    have hnested : ∀ detached, rules.entry { m with detached } (some slot) sequence :=
      fun _ => hentry _ _ sequence rfl rfl
    exact (takesFrom_runNested hallow hlookup.of_some hnested).course hm
  | .lookup name values =>
    have hcall := (hlookup name values).bind fun _ => .pure ()
    exact (hcall m).course hm

end DesktopMacro
