/-
Texts that are handed on in variables.

There are two ways in which a text gets into a variable without anybody saying of which type it is:
a loop gives it to its item variable, and a payload gives it to a sequence that it asks for. What is
found in the variable, where the body of the round or the first action of the sequence begins, is
the text as variables hand it on: a truth word and a number in their usual spelling, and any other
text to the letter.

A directive that asks for a sequence logs that it does, looks the sequence up, and goes on with the
answer. Looking it up runs its actions, from the first one on, in a frame that has been filled with
the texts.
-/
import DesktopMacro.Proofs.Run.Following
import DesktopMacro.Proofs.Run.ListLoops

set_option autoImplicit false

namespace DesktopMacro

variable {ω : Type} {team : Collaborators ω} {m : Machine ω}

namespace Run

/-! ## Items of lists -/

/-- No condition changes what is running or its variables. -/
theorem frames_isOver (team : Collaborators ω) (spec : LoopSpec) (m : Machine ω) :
    ((isOver team spec).on m).2.frames = m.frames := by
  have hrule : FrameRule (fun m m' : Machine ω => m'.frames = m.frames) :=
    ⟨fun hframes _ => hframes, fun h h' => h'.trans h⟩
  unfold isOver
  split
  · exact hrule.habit.evaluate spec.condition m
  · rfl

/-- A round leaves a sequence running until its body begins. -/
theorem frames_itemSet {spec : LoopSpec} {number : Nat} {item : String} (hframes : m.frames ≠ []) :
    (itemSet spec number item m).frames ≠ [] :=
  ((Machine.Kept.mark m (.rounded number)).trans
    ((Machine.Kept.mark _ .stored).trans (.putStore _ _))).frames_ne_nil hframes

/-- Where the body of a round begins, a sequence is running and has the item in its variable. -/
theorem bodyBegins_of_isOver {spec : LoopSpec} {number : Nat} {item : String} {m₁ : Machine ω}
    (hframes : m.frames ≠ [])
    (hover : (isOver team spec).on (itemSet spec number item m) = (.ok false, m₁)) :
    (bodyBegins spec number m₁).frames ≠ []
      ∧ (bodyBegins spec number m₁).store.text (itemName spec) ""
        = .ok (Variable.handedOn item) := by
  have hsame : (bodyBegins spec number m₁).frames = (itemSet spec number item m).frames := by
    have hcondition := frames_isOver team spec (itemSet spec number item m)
    rw [hover] at hcondition
    exact (Machine.frames_tell _ _).trans hcondition
  refine ⟨hsame ▸ frames_itemSet hframes, ?_⟩
  rw [Machine.store_congr hsame, store_itemSet hframes]
  exact m.store.text_set (itemName spec) item ""

/-- **The item of a round, where its body begins**, is in the variable as variables hand it on. The
induction goes along the walk; what carries it is that the body leaves a sequence running. -/
theorem Walks.text_inside {spec : LoopSpec} {body : Run ω Unit} {left number : Nat}
    {items : List String} {m' : Machine ω} {rounds : List (Round ω)} {ending : WalkEnd}
    (h : Walks team spec body left number items m rounds ending m')
    (hbody : ∀ m : Machine ω, m.frames ≠ [] → (body.on m).2.frames ≠ [])
    (hframes : m.frames ≠ []) : ∀ round ∈ rounds, ∀ inside ∈ round.inside,
      inside.store.text (itemName spec) "" = .ok (Variable.handedOn round.item) := by
  induction h with
  | broke awake hover _ =>
    refine List.forall_mem_cons.2 ⟨?_, nofun⟩
    rintro _ ⟨⟩
    exact (bodyBegins_of_isOver hframes hover).2
  | walked awake hover hdone hrest ih =>
    obtain ⟨hrunning, htext⟩ := bodyBegins_of_isOver hframes hover
    have hafter := hbody _ hrunning
    rw [hdone] at hafter
    refine List.forall_mem_cons.2 ⟨?_, ih hafter⟩
    rintro _ ⟨⟩
    exact htext
  | undecided | met => exact List.forall_mem_cons.2 ⟨nofun, nofun⟩
  | _ => nofun

/-! ## Variables of a sequence that is asked for -/

/-- A variable that is given no text is as it was. -/
theorem find?_setAll_of_notMem {name : String} (store : Store) (values : List (String × String))
    (hname : name ∉ values.map Prod.fst) : (setAll store values).find? name = store.find? name := by
  induction values generalizing store with
  | nil => rfl
  | cons entry values ih =>
    rw [List.map_cons, List.mem_cons, not_or] at hname
    exact (ih _ hname.2).trans (store.find?_set_of_ne hname.1 _ _)

/-- Of all texts that are given to a variable, the last one is in it. -/
theorem text_setAll (store : Store) (front back : List (String × String)) {name text : String}
    (hlast : name ∉ back.map Prod.fst) :
    (setAll store (front ++ (name, text) :: back)).text name ""
      = .ok (Variable.handedOn text) := by
  have hsplit : setAll store (front ++ (name, text) :: back)
      = setAll ((setAll store front).set name text none).1 back := by
    unfold setAll
    rw [List.foldl_append, List.foldl_cons]
  have htext := (setAll store front).text_set name text ""
  unfold Store.text at htext ⊢
  rw [hsplit, find?_setAll_of_notMem _ back hlast]
  exact htext

/-- **A machine has a sequence at rest under a name**: its library has it there, at this number, and
it is not running. -/
structure HasIdle (m : Machine ω) (name : String) (slot : Nat) (sequence : Sequence) : Prop where
  indexed : m.library.indexOf? name = some slot
  there : m.library.sequences[slot]? = some sequence
  idle : isRunning m sequence.name = false

theorem HasIdle.on_findIdle {name : String} {slot : Nat} {sequence : Sequence}
    (h : HasIdle m name slot sequence) :
    (findIdle name).on m = (.ok (some (slot, sequence)), m) := by
  unfold findIdle
  rw [on_get_bind]
  simp only [h.indexed, h.there, h.idle]
  rfl

/-- **The machine on which the first action begins** of a sequence that is run on a machine. At rest
it runs detached. -/
def begun (m : Machine ω) (slot : Nat) (sequence : Sequence) : Machine ω :=
  ((log s!"Running nested sequence '{sequence.name}'").on
    (pushFrame { m with detached := m.frames.isEmpty || m.detached }
      (.enter sequence (some slot)))).2

/-- The machine that is left of another one when a sequence has run on it. -/
def ended (m : Machine ω) (after : Machine ω) : Machine ω :=
  if m.frames = [] then { popFrame after with detached := m.detached } else popFrame after

/-- What is answered when the actions of a sequence have come out in some way. -/
def answered (m : Machine ω) (name : String) (out : Except Failure Unit × Machine ω) :
    Except Failure Bool × Machine ω :=
  match out.1 with
  | .ok () => (.ok true, ended m out.2)
  | .error failure =>
    if failure.isAction then
      (.ok false,
        (ended m out.2).see [.logged ⟨.error, s!"Sequence '{name}' failed: {failure.text}"⟩])
    else (.error failure, ended m out.2)

/-- The first action of a sequence begins with the variables of the sequence. -/
theorem store_begun (m : Machine ω) (slot : Nat) (sequence : Sequence) :
    (begun m slot sequence).store = sequence.store := by
  unfold begun Machine.store
  rw [on_log, Machine.frames_tell]
  rfl

theorem on_runNested (team : Collaborators ω) (lookup : Option (Lookup ω)) (slot : Nat)
    (sequence : Sequence) (m : Machine ω) :
    (runNested team lookup slot sequence).on m =
      let out := (runActions team lookup [] 0 sequence.actions).on (begun m slot sequence)
      (out.1, ended m out.2) := by
  have hbody (m₁ : Machine ω) : (inFrame (.enter sequence (some slot)) (do
        log s!"Running nested sequence '{sequence.name}'"
        runActions team lookup [] 0 sequence.actions)).on m₁
      = let out := (runActions team lookup [] 0 sequence.actions).on
          ((log s!"Running nested sequence '{sequence.name}'").on
            (pushFrame m₁ (.enter sequence (some slot)))).2
        (out.1, popFrame out.2) := by
    rw [on_inFrame, on_bind_ok (on_log _ _ _)]
    rfl
  unfold runNested begun ended
  rw [on_detachedAtRest]
  by_cases hrest : m.frames = []
  · rw [if_pos hrest, hbody]
    simp only [hrest, List.isEmpty_nil, Bool.true_or, if_true]
  · rw [if_neg hrest, hbody]
    simp only [hrest, if_false, List.isEmpty_eq_false_iff.2 hrest, Bool.false_or]

/-- **Looking up a sequence at rest** gives it its variables, runs its actions from the first one
on, and answers how they came out. -/
theorem HasIdle.on_libraryLookup {name : String} {slot : Nat} {sequence : Sequence}
    (hidle : HasIdle m name slot sequence) (team : Collaborators ω) (depth : Nat)
    (values : List (String × String)) :
    (libraryLookup team (depth + 1) name values).on m
      = answered (given m slot values) sequence.name
        ((runActions team (some (libraryLookup team depth)) [] 0 sequence.actions).on
          (begun (given m slot values) slot
            { sequence with store := setAll sequence.store values })) := by
  show (lookupOver team (some (libraryLookup team depth)) name values).on m = _
  unfold lookupOver
  rw [on_bind_ok hidle.on_findIdle]
  dsimp only
  rw [on_bind_ok (on_giveVariables slot values m)]
  unfold succeeded answered
  rw [on_outcome_bind, on_runNested]
  generalize (runActions team (some (libraryLookup team depth)) [] 0 sequence.actions).on _ = out
  obtain ⟨result, after⟩ := out
  cases result with
  | ok => rfl
  | error failure =>
    dsimp only
    split <;> rfl

end Run

namespace Directive.Follower

open Run

/-- What is logged when a sequence is asked for. -/
def asking (name : String) (values : List (String × String)) : String :=
  if values.isEmpty then s!"Running sequence '{name}'"
  else s!"Running sequence '{name}' with {values.length} variables"

/-- The answer about a sequence that was asked for, or a failure in the name of the action. -/
def heard (follower : Follower) (name : String) : Except Failure Bool → Run ω Bool
  | .ok found => pure found
  | .error failure =>
    if failure.isAction || failure.isCancelled then throw failure
    else
      Run.fail (.atAction (.stated .injection s!"Sequence '{name}' failed: {failure.text}")
        follower.action)

/-- What the answer comes to. -/
def judge (follower : Follower) (name : String) (found : Bool) : Run ω Unit :=
  if !found then
    if follower.isTolerant then
      Run.log s!"Sequence '{name}' could not be found or executed" .warning
    else Run.fail (.atAction (.unknownSequence name) follower.action)
  else pure ()

/-- A sequence is asked for once, after that has been logged. -/
theorem ask_eq (follower : Follower) (lookup : Lookup ω) (name : String)
    (values : List (String × String)) :
    follower.ask lookup name values
      = log (asking name values) >>= fun _ =>
        (lookup name values).outcome >>= follower.heard name := by
  unfold Follower.ask asking
  by_cases hempty : values.isEmpty = true
  · rw [if_pos hempty, if_pos hempty]
    rfl
  · rw [if_neg hempty, if_neg hempty]
    rfl

/-- **A directive that asks for a sequence** does so first of all, and once. -/
theorem exists_follow_eq (follower : Follower) (team : Collaborators ω) {document : Json}
    {name : String} {values : List (String × String)} (hcalls : CallsFor document name values) :
    ∃ next : Except Failure Bool → Run ω Unit, ∀ lookup : Lookup ω,
      follower.follow team (some lookup) document
        = log (asking name values) >>= fun _ => (lookup name values).outcome >>= next := by
  obtain ⟨hname, hblank, hgives⟩ := hcalls
  obtain ⟨members, rfl⟩ : ∃ members, document = .object members := by
    cases document with
    | object members => exact ⟨members, rfl⟩
    | _ => cases hname
  obtain ⟨call, hread, rfl, htexts⟩ := readCall_eq_ok.2 ⟨rfl, hblank, hgives⟩
  obtain ⟨last, -, hfollow⟩ := follow_object follower team members
  have hgiven : (ofExcept (textsOf call.values) : Run ω _) = pure values := by
    rw [htexts]
    rfl
  refine ⟨fun answer => (follower.heard call.name answer >>= follower.judge call.name) >>= fun _ =>
    unlessEnded ((Json.object members).member? "clickAction") (follower.click team)
      (unlessEnded ((Json.object members).member? "waitTime") (follower.wait team) last),
    fun lookup => ?_⟩
  have hcall : follower.call (some lookup) (.text call.name)
        (((Json.object members).member? "variables").getD .null)
      = follower.ask lookup call.name values >>= follower.judge call.name := by
    unfold Follower.call
    rw [hread]
    dsimp only
    rw [hgiven, pure_bind]
    rfl
  rw [hfollow, hname]
  dsimp only
  rw [hcall, ask_eq]
  simp only [bind_assoc]

end Directive.Follower

/-! ## Both -/

/-- The texts for variables stand in the order of the members that they come from. -/
theorem Directive.Gives.split {front back : Members} {name text : String}
    {values : List (String × String)}
    (h : Gives (.object (front ++ (name, .text text) :: back)) values) :
    ∃ front' back', values = front' ++ (name, text) :: back'
      ∧ back'.map Prod.fst = back.map Prod.fst := by
  have hnames {members : Members} {values : List (String × String)}
      (h : Gives (.object members) values) : values.map Prod.fst = members.map Prod.fst := by
    generalize hraw : Json.object members = raw at h
    induction h generalizing members with
    | nothing => cases hraw
    | none =>
      cases hraw
      rfl
    | member _ _ ih =>
      cases hraw
      simp [ih rfl]
  induction front generalizing values with
  | nil =>
    cases h with
    | member hshows hback =>
      obtain htext | ⟨hother, -⟩ := hshows
      · cases htext
        exact ⟨[], _, rfl, hnames hback⟩
      · exact absurd rfl (hother text)
  | cons member front ih =>
    cases h with
    | member _ hrest =>
      obtain ⟨front', back', rfl, hback⟩ := ih hrest
      exact ⟨_ :: front', back', rfl, hback⟩

/-- **Texts are handed on in variables.** For every list loop, the item variable holds the item of
the round, where its body begins. Every directive that asks for a sequence with variables looks it
up with them, once and before anything else but a line of the log; and wherever the library has that
sequence at rest, it is run from its first action on, where its variables hold the texts that they
were given last. Each text is there as variables hand it on, which is to the letter unless it is a
truth word or a number. -/
theorem Run.texts_handed_on (team : Collaborators ω) (binding : Binding ω) :
    (∀ (spec : LoopSpec) (place : Place) (actions : List Action) (m : Machine ω),
      spec.listName ≠ "" → m.frames ≠ [] →
      let items := ((m.store.find? spec.listName).map Variable.items).getD []
      let body := runActions team (binding.lookup team) place 0 actions
      ∃ rounds ending m', (runLoop team spec body).on m = (ending.result, m')
        ∧ Walks team spec body spec.maxIterations.toNat 0 items m rounds ending m'
        ∧ ∀ round ∈ rounds, ∀ inside ∈ round.inside,
            inside.store.text (itemName spec) "" = .ok (Variable.handedOn round.item))
    ∧ (∀ (follower : Directive.Follower) (document : Json) (name : String)
        (values : List (String × String)), Directive.CallsFor document name values →
      (∃ next : Except Failure Bool → Run ω Unit, ∀ lookup : Lookup ω,
        follower.follow team (some lookup) document
          = log (Directive.Follower.asking name values) >>= fun _ =>
            (lookup name values).outcome >>= next)
      ∧ ∀ (slot : Nat) (sequence : Sequence) (depth : Nat) (m : Machine ω),
        HasIdle m name slot sequence →
        let ready := given m slot values
        let first := begun ready slot { sequence with store := setAll sequence.store values }
        (libraryLookup team (depth + 1) name values).on m
            = answered ready sequence.name
              ((runActions team (some (libraryLookup team depth)) [] 0 sequence.actions).on first)
          ∧ first.store = setAll sequence.store values
          ∧ ∀ (front back : Members) (key text : String),
              document.member? "variables" = some (.object (front ++ (key, .text text) :: back)) →
              key ∉ back.map Prod.fst →
              first.store.text key "" = .ok (Variable.handedOn text))
    ∧ ∀ text, Variable.isTruthWord (Text.lower (Text.trim text)) = false →
        Variable.numberOf? text = none → Variable.handedOn text = text := by
  refine ⟨fun spec place actions m hlist hframes => ?items,
    fun follower document name values hcalls =>
      ⟨follower.exists_follow_eq team hcalls, fun slot sequence depth m hidle => ?values⟩,
    fun text hword hnumber => Variable.handedOn_of_plain hword hnumber⟩
  case items =>
    intro items body
    have hlookup := takes_binding (Rules.allow_free team) Rules.opens_free binding
    have hbody (m : Machine ω) (hm : m.frames ≠ []) : (body.on m).2.frames ≠ [] :=
      (((takes_runActions (Rules.allow_free team) hlookup place 0 actions) m).course
        m.within_free).kept.frames_ne_nil hm
    obtain ⟨rounds, ending, m', hrun, hwalks⟩ := exists_walks_runLoop team hlist body m
    exact ⟨rounds, ending, m', hrun, hwalks, hwalks.text_inside hbody hframes⟩
  case values =>
    refine ⟨hidle.on_libraryLookup team depth values, store_begun _ _ _,
      fun front back key text hvariables hlast => ?_⟩
    have hgives := hcalls.2.2
    rw [hvariables] at hgives
    obtain ⟨front', back', rfl, hback⟩ := Directive.Gives.split hgives
    rw [store_begun]
    exact text_setAll sequence.store front' back' (hback ▸ hlast)

namespace Run

/-! ### A code and a name -/

/-- A payload that asks for a sequence with one variable. -/
def askingWith (text : String) : Json :=
  .object [("sequenceName", .text "t"), ("variables", .object [("v", .text text)])]

/-- A sequence that does nothing. -/
def idleSequence : Sequence := ⟨"t", "", [], .empty, ""⟩

/-- A machine with that sequence in its library. -/
def besideIdle : Machine Unit := Machine.initial () ⟨[idleSequence]⟩

/-- A name is handed on to the letter, to the sequence and to the rounds of a loop. -/
theorem texts_handed_on_name :
    (listSpec.listName ≠ "" ∧ listing.frames ≠ [] ∧
      ∃ rounds ending m', Walks withoutDevices listSpec
          (runActions withoutDevices none [0] 0 []) 2 0 ["a", "b", "c"] listing rounds ending m'
        ∧ ∀ round ∈ rounds, ∀ inside ∈ round.inside,
            inside.store.text "item" "" = .ok (Variable.handedOn round.item))
    ∧ Directive.CallsFor (askingWith " Ann B.") "t" [("v", " Ann B.")]
    ∧ HasIdle besideIdle "t" 0 idleSequence
    ∧ (let ready := given besideIdle 0 [("v", " Ann B.")]
      let first := begun ready 0 { idleSequence with
        store := setAll idleSequence.store [("v", " Ann B.")] }
      (libraryLookup withoutDevices 1 "t" [("v", " Ann B.")]).on besideIdle
          = answered ready "t" ((runActions withoutDevices
            (some (libraryLookup withoutDevices 0)) [] 0 []).on first)
        ∧ first.store.text "v" "" = .ok " Ann B.") := by
  obtain ⟨hitems, hvalues, hplain⟩ := texts_handed_on withoutDevices .none
  have hcalls : Directive.CallsFor (askingWith " Ann B.") "t" [("v", " Ann B.")] :=
    ⟨rfl, by decide, .member (.inl rfl) .none⟩
  have hidle : HasIdle besideIdle "t" 0 idleSequence := ⟨by decide, rfl, rfl⟩
  obtain ⟨rounds, ending, m', -, hwalks, htexts⟩ :=
    hitems listSpec [0] [] listing (by decide) (by decide)
  obtain ⟨-, hcalled⟩ := hvalues ⟨default, 0, 0⟩ (askingWith " Ann B.") "t" _ hcalls
  obtain ⟨hlookup, -, htext⟩ := hcalled 0 idleSequence 0 besideIdle hidle
  have hv := htext [] [] "v" " Ann B." rfl (by decide)
  rw [hplain " Ann B." (by decide) (by decide)] at hv
  exact ⟨⟨by decide, by decide, rounds, ending, m', hwalks, htexts⟩, hcalls, hidle, hlookup, hv⟩

/-- A sequence with a list of one code. -/
def codeListing : Machine Unit :=
  pushFrame (Machine.initial () .empty)
    (.enter ⟨"s", "", [], ⟨[⟨"l", .list "007", ""⟩]⟩, ""⟩ none)

/-- **A code is not handed on to the letter**: the zeros before a number go. -/
theorem code_respelled :
    ∃ rounds m', (runLoop withoutDevices listSpec (runActions withoutDevices none [0] 0 [])).on
        codeListing = (.ok (), m')
      ∧ Walks withoutDevices listSpec (runActions withoutDevices none [0] 0 []) 2 0 ["007"]
          codeListing rounds .through m'
      ∧ ∃ round ∈ rounds, round.item = "007"
        ∧ ∃ inside ∈ round.inside, inside.store.text "item" "" = .ok "7" :=
  ⟨_, _, rfl, .walked rfl rfl rfl (.drained rfl), _, List.mem_singleton_self _, rfl, _, rfl, rfl⟩

end Run
end DesktopMacro
