/-
Loops that walk over a list.

Such a loop takes the items of its list when it starts and never looks at the list again. Its rounds
go through these items in their order, one item to a round, whatever becomes of the list meanwhile,
until there is no item or no iteration left, or the condition is met, or something fails. A round
sets the item variable before it does anything else.

How a loop goes through items is said apart from how it runs, as a relation with one constructor for
each way in which a loop can go on or end. That the loops of the library go that way is one theorem,
and what is true of the rounds is proved on the relation.
-/
import DesktopMacro.Proofs.Run.FrameRules
import DesktopMacro.Proofs.Run.Unrolling
import DesktopMacro.Proofs.Variable.Setting

set_option autoImplicit false

namespace DesktopMacro

variable {ω : Type}

/-- A round of a loop that walks over a list: its number, its item, the machine where it starts, and
the one where its body begins, if it does. -/
structure Round (ω : Type) where
  number : Nat
  item : String
  start : Machine ω
  inside : Option (Machine ω)

/-- How a walk over a list ends. -/
inductive WalkEnd where
  /-- No item is left, or no iteration. -/
  | through
  /-- The condition of the loop is met. -/
  | met
  /-- A check, the condition or the body fails. -/
  | broken (f : Failure)

/-- A loop ends well unless something fails. -/
def WalkEnd.result : WalkEnd → Except Failure Unit
  | through | met => .ok ()
  | broken f => .error f

namespace Run

/-! ## Walks -/

/-- The machine when a round has set its item variable, and done nothing else. -/
def itemSet (spec : LoopSpec) (number : Nat) (item : String) (m : Machine ω) : Machine ω :=
  ((setVariable (itemName spec) item none).on (m.mark (.rounded number))).2

/-- The machine when the body of a round begins: the iteration has been logged. -/
def bodyBegins (spec : LoopSpec) (number : Nat) (m : Machine ω) : Machine ω :=
  ((log s!"Loop iteration {number + 1}/{Integer.toText spec.maxIterations}").on m).2

/-- The machine when the condition was met: that has been logged. -/
def conditionMet (m : Machine ω) : Machine ω :=
  ((log "Loop condition met, ending loop").on m).2

/-- **A walk over items**, from a round on, with so many iterations left: the rounds that it makes,
how it ends, and the machine at its end. -/
inductive Walks (team : Collaborators ω) (spec : LoopSpec) (body : Run ω Unit) :
    Nat → Nat → List String → Machine ω → List (Round ω) → WalkEnd → Machine ω → Prop where
  /-- No iteration is left. -/
  | spent {number : Nat} {items : List String} {m : Machine ω} :
    Walks team spec body 0 number items m [] .through m
  /-- The run was cancelled before the round. -/
  | stopped {left number : Nat} {items : List String} {m : Machine ω}
    (stopped : m.isStopped = true) :
    Walks team spec body (left + 1) number items m [] (.broken .stopped) (m.mark .noticed)
  /-- No item is left. -/
  | drained {left number : Nat} {m : Machine ω} (awake : m.isStopped = false) :
    Walks team spec body (left + 1) number [] m [] .through m
  /-- The round sets its item, and the condition cannot be evaluated. -/
  | undecided {left number : Nat} {item : String} {items : List String} {m m' : Machine ω}
    {f : Failure} (awake : m.isStopped = false)
    (hover : (isOver team spec).on (itemSet spec number item m) = (.error f, m')) :
    Walks team spec body (left + 1) number (item :: items) m [⟨number, item, m, none⟩]
      (.broken f) m'
  /-- The round sets its item, and the condition is met. -/
  | met {left number : Nat} {item : String} {items : List String} {m m₁ : Machine ω}
    (awake : m.isStopped = false)
    (hover : (isOver team spec).on (itemSet spec number item m) = (.ok true, m₁)) :
    Walks team spec body (left + 1) number (item :: items) m [⟨number, item, m, none⟩]
      .met (conditionMet m₁)
  /-- The round sets its item, and its body fails. -/
  | broke {left number : Nat} {item : String} {items : List String} {m m₁ m' : Machine ω}
    {f : Failure} (awake : m.isStopped = false)
    (hover : (isOver team spec).on (itemSet spec number item m) = (.ok false, m₁))
    (hbody : body.on (bodyBegins spec number m₁) = (.error f, m')) :
    Walks team spec body (left + 1) number (item :: items) m
      [⟨number, item, m, some (bodyBegins spec number m₁)⟩] (.broken f) m'
  /-- The round sets its item and runs its body, and the walk goes on. -/
  | walked {left number : Nat} {item : String} {items : List String} {m m₁ m₂ m' : Machine ω}
    {rounds : List (Round ω)} {ending : WalkEnd} (awake : m.isStopped = false)
    (hover : (isOver team spec).on (itemSet spec number item m) = (.ok false, m₁))
    (hbody : body.on (bodyBegins spec number m₁) = (.ok (), m₂))
    (hrest : Walks team spec body left (number + 1) items m₂ rounds ending m') :
    Walks team spec body (left + 1) number (item :: items) m
      (⟨number, item, m, some (bodyBegins spec number m₁)⟩ :: rounds) ending m'

variable {team : Collaborators ω} {spec : LoopSpec} {body : Run ω Unit} {left number : Nat}
  {items : List String} {m m' : Machine ω} {rounds : List (Round ω)} {ending : WalkEnd}

/-! ## Loops walk -/

/-- A round over an item, put as its parts: the item is set, the condition is looked at, and then
either that is the end or the body runs. -/
theorem on_round (item : String) (awake : m.isStopped = false) :
    (runRounds team spec body (left + 1) number (some (item :: items))).on m
      = (isOver team spec >>= fun met =>
          if met then log "Loop condition met, ending loop"
          else do
            log s!"Loop iteration {number + 1}/{Integer.toText spec.maxIterations}"
            body
            runRounds team spec body left (number + 1) (some items)).on
        (itemSet spec number item m) := by
  have hset : (setVariable (itemName spec) item none).on (m.mark (.rounded number))
      = (.ok (), itemSet spec number item m) := rfl
  rw [runRounds, on_bind_ok (on_check_awake awake)]
  dsimp only
  rw [on_bind_ok (on_mark _ m), on_bind_ok hset]
  unfold isOver
  by_cases hcondition : spec.useCondition = true
  · rw [if_pos hcondition, if_pos hcondition]
    rfl
  · rw [if_neg hcondition, if_neg hcondition, pure_bind]
    rfl

/-- **A loop over items walks over them.** The induction is on the iterations that are left. -/
theorem walks_runRounds (team : Collaborators ω) (spec : LoopSpec) (body : Run ω Unit)
    (left number : Nat) (items : List String) (m : Machine ω) :
    ∃ rounds ending m', Walks team spec body left number items m rounds ending m'
      ∧ (runRounds team spec body left number (some items)).on m = (ending.result, m') := by
  induction left generalizing number items m with
  | zero => exact ⟨[], .through, m, .spent, rfl⟩
  | succ left ih =>
    cases hstopped : m.isStopped with
    | true => exact ⟨[], _, _, .stopped hstopped, on_bind_error (on_check_stopped hstopped)⟩
    | false =>
      cases items with
      | nil => exact ⟨[], _, m, .drained hstopped, on_bind_ok (on_check_awake hstopped)⟩
      | cons item items =>
        rw [on_round item hstopped]
        rcases hover : (isOver team spec).on (itemSet spec number item m) with ⟨isMet, m₁⟩
        match isMet with
        | .error f => exact ⟨_, _, m₁, .undecided hstopped hover, on_bind_error hover⟩
        | .ok true =>
          refine ⟨_, _, _, .met hstopped hover, ?_⟩
          rw [on_bind_ok hover]
          rfl
        | .ok false =>
          have hlog :
              (log s!"Loop iteration {number + 1}/{Integer.toText spec.maxIterations}").on m₁
              = (.ok (), bodyBegins spec number m₁) := rfl
          rw [on_bind_ok hover, if_neg (by decide), on_bind_ok hlog]
          rcases hbody : body.on (bodyBegins spec number m₁) with ⟨done, m₂⟩
          match done with
          | .error f => exact ⟨_, _, m₂, .broke hstopped hover hbody, on_bind_error hbody⟩
          | .ok () =>
            obtain ⟨rounds, ending, m', hrest, hresult⟩ := ih (number + 1) items m₂
            refine ⟨_, _, m', .walked hstopped hover hbody hrest, ?_⟩
            rw [on_bind_ok hbody, hresult]

/-! ## The rounds of a walk -/

namespace Walks

/-- The rounds go through the items from the first one on. -/
theorem items_eq (h : Walks team spec body left number items m rounds ending m') :
    rounds.map Round.item = items.take rounds.length := by
  induction h with
  | walked _ _ _ _ ih => simp [ih]
  | _ => simp

/-- The rounds are numbered without a gap. -/
theorem numbers_eq (h : Walks team spec body left number items m rounds ending m') :
    rounds.map Round.number = List.range' number rounds.length := by
  induction h with
  | walked _ _ _ _ ih => simp [ih, List.range'_succ]
  | _ => simp

/-- There are no more rounds than items, and no more than iterations. -/
theorem length_le (h : Walks team spec body left number items m rounds ending m') :
    rounds.length ≤ min left items.length := by
  induction h with
  | walked _ _ _ _ ih =>
    simp only [List.length_cons]
    omega
  | _ => simp

/-- A walk that nothing ends before its time makes all rounds, and every one of them runs the
body. -/
theorem all_of_through (h : Walks team spec body left number items m rounds ending m')
    (hthrough : ending = .through) :
    rounds.length = min left items.length ∧ ∀ round ∈ rounds, round.inside.isSome = true := by
  induction h with
  | spent | drained => simp
  | walked _ _ _ _ ih =>
    obtain ⟨hlength, hinside⟩ := ih hthrough
    refine ⟨?_, List.forall_mem_cons.2 ⟨rfl, hinside⟩⟩
    simp only [List.length_cons]
    omega
  | _ => cases hthrough

/-- Only a loop that looks at a condition can end because it is met. -/
theorem useCondition_of_met (h : Walks team spec body left number items m rounds ending m')
    (hmet : ending = .met) : spec.useCondition = true := by
  induction h with
  | walked _ _ _ _ ih => exact ih hmet
  | met awake hover =>
    by_contra hcondition
    rw [isOver, if_neg hcondition] at hover
    cases hover
  | _ => cases hmet

end Walks

/-- A running sequence has the item in its variable once the round has set it. -/
theorem store_itemSet (hframes : m.frames ≠ []) (item : String) :
    (itemSet spec number item m).store = (m.store.set (itemName spec) item none).1 :=
  Machine.store_putStore (m := (m.mark (.rounded number)).mark .stored) hframes _

/-- A loop over a list takes the items of its variable and walks over them. -/
theorem exists_walks_runLoop (team : Collaborators ω) (hlist : spec.listName ≠ "")
    (body : Run ω Unit) (m : Machine ω) :
    ∃ rounds ending m', (runLoop team spec body).on m = (ending.result, m')
      ∧ Walks team spec body spec.maxIterations.toNat 0
          (((m.store.find? spec.listName).map Variable.items).getD []) m rounds ending m' := by
  have hitems : (loopItems spec).on m
      = (.ok (some (((m.store.find? spec.listName).map Variable.items).getD [])), m) := by
    unfold loopItems
    rw [if_neg (by simpa using hlist)]
    rfl
  obtain ⟨rounds, ending, m', hwalks, hresult⟩ :=
    walks_runRounds team spec body spec.maxIterations.toNat 0 _ m
  exact ⟨rounds, ending, m', (on_bind_ok hitems).trans hresult, hwalks⟩

/-- **A loop over a list walks over the items that the list has when the loop starts**, in their
order, whatever the body does. Rounds are numbered from zero; there are at most as many as items and
as many as iterations, and just so many if no failure and no condition ends the loop before, and
each of them sets its item before anything else. A variable that is missing or no list gives no
round. -/
theorem listLoop_walks_snapshot (team : Collaborators ω) {spec : LoopSpec}
    (hlist : spec.listName ≠ "") (body : Run ω Unit) (m : Machine ω) :
    let items := ((m.store.find? spec.listName).map Variable.items).getD []
    let bound := min spec.maxIterations.toNat items.length
    ∃ rounds ending m', (runLoop team spec body).on m = (ending.result, m')
      ∧ Walks team spec body spec.maxIterations.toNat 0 items m rounds ending m'
      ∧ rounds.map Round.item = items.take rounds.length
      ∧ rounds.map Round.number = List.range rounds.length
      ∧ rounds.length ≤ bound
      ∧ (ending = .through →
          rounds.length = bound ∧ ∀ round ∈ rounds, round.inside.isSome = true)
      ∧ (∀ round ∈ rounds, round.start.frames ≠ [] →
          (itemSet spec round.number round.item round.start).store
            = (round.start.store.set (itemName spec) round.item none).1)
      ∧ ((∀ v, m.store.find? spec.listName = some v → v.kind ≠ .list) → rounds = []) := by
  intro items bound
  obtain ⟨rounds, ending, m', hrun, hwalks⟩ := exists_walks_runLoop team hlist body m
  refine ⟨rounds, ending, m', hrun, hwalks, hwalks.items_eq, ?_,
    hwalks.length_le, hwalks.all_of_through, fun round _ hframes => store_itemSet hframes _,
    fun hnone => ?_⟩
  · rw [List.range_eq_range']
    exact hwalks.numbers_eq
  · have hempty : items = [] := by
      show ((m.store.find? spec.listName).map Variable.items).getD [] = []
      cases hfind : m.store.find? spec.listName with
      | none => rfl
      | some v =>
        have hkind := hnone v hfind
        unfold Variable.kind at hkind
        show v.items = []
        unfold Variable.items
        split
        · next hvalue =>
          rw [hvalue] at hkind
          exact absurd rfl hkind
        · rfl
    have hlength : rounds.length ≤ bound := hwalks.length_le
    simp only [bound, hempty] at hlength
    exact List.length_eq_zero_iff.1 (by simpa using hlength)

/-! ### A list that goes away -/

/-- A sequence with a list of three. -/
def listing : Machine Unit :=
  pushFrame (Machine.initial () .empty)
    (.enter ⟨"s", "", [], ⟨[⟨"l", .list "a;b;c", ""⟩]⟩, ""⟩ none)

/-- A loop over the list, twice at most. -/
def listSpec : LoopSpec := { LoopSpec.initial with maxIterations := 2, listName := "l" }

/-- A body that takes all variables out, the list with them, leaves two rounds with the items as
they were. -/
theorem listLoop_walks_snapshot_emptied : listSpec.listName ≠ "" ∧
    ∃ rounds m', (runLoop withoutDevices listSpec (setStore .empty)).on listing = (.ok (), m')
      ∧ rounds.map Round.item = ["a", "b"]
      ∧ Walks withoutDevices listSpec (setStore .empty) 2 0 ["a", "b", "c"] listing rounds
          .through m' := by
  obtain ⟨rounds, ending, m', hrun, hwalks, hitems, -, -, hall, -, -⟩ :=
    listLoop_walks_snapshot withoutDevices (show listSpec.listName ≠ "" by decide)
      (setStore .empty) listing
  have hok : ending.result = .ok () := by
    have hresult : ((runLoop withoutDevices listSpec (setStore .empty)).on listing).1 = .ok () :=
      rfl
    rw [hrun] at hresult
    exact hresult
  match ending with
  | .through =>
    rw [(hall rfl).1] at hitems
    exact ⟨by decide, rounds, m', hrun, hitems, hwalks⟩
  | .met => exact absurd (hwalks.useCondition_of_met rfl) (by decide)
  | .broken f => cases hok

end Run
end DesktopMacro
