/-
Runs with one lookup or another.

Two lookups may answer differently somewhere, and still a run cannot tell them apart: it asks for
sequences only while the same sequences are running as when it began, over the same library names.
So what two runs have to agree on is only where they are the same. The lemmas follow the functions
that hand a lookup on, from the payload that uses it to the sequence that it is used in.
-/
import DesktopMacro.Proofs.Run.Journal

set_option autoImplicit false

namespace DesktopMacro.Run

variable {ω α β : Type} {base : Machine ω} {P : Failure → Prop}

/-! ## Agreement -/

/-- **Runs that agree** wherever the same sequences are running as on a machine, over the same
library names. -/
def Agree (base : Machine ω) (x y : Run ω α) : Prop := ∀ m, base.Kept m → x.on m = y.on m

/-- A run that changes neither which sequences are running nor the names of the library. -/
def Keeps (x : Run ω α) : Prop := ∀ m : Machine ω, m.Kept (x.on m).2

theorem Takes.keeps {x : Run ω α} (h : x.Takes (Rules.free ω) P) : x.Keeps :=
  fun m => ((h m).course m.within_free).kept

namespace Agree

variable {x y : Run ω α}

theorem refl (x : Run ω α) : Agree base x x := fun _ _ => rfl

/-- What follows need only agree on the machines that the first parts lead to. -/
theorem bind {f g : α → Run ω β} (h : Agree base x y) (hy : y.Keeps)
    (hfg : ∀ a, Agree base (f a) (g a)) : Agree base (x >>= f) (y >>= g) := by
  intro m hm
  -- Where the first parts lead to, the same sequences are running as before.
  have hkept := hm.trans (hy m)
  rcases hr : y.on m with ⟨r, m'⟩
  have hx : x.on m = (r, m') := (h m hm).trans hr
  rw [hr] at hkept
  cases r with
  | ok a =>
    rw [on_bind_ok hx, on_bind_ok hr]
    exact hfg a m' hkept
  | error e => rw [on_bind_error hx, on_bind_error hr]

theorem then_same (h : Agree base x y) (f : α → Run ω β) : Agree base (x >>= f) (y >>= f) :=
  fun m hm => by rw [on_bind, on_bind, h m hm]

theorem after_same (hx : x.Keeps) {f g : α → Run ω β} (hfg : ∀ a, Agree base (f a) (g a)) :
    Agree base (x >>= f) (x >>= g) :=
  bind (.refl x) hx hfg

theorem outcome_bind {f g : Except Failure α → Run ω β} (h : Agree base x y) (hy : y.Keeps)
    (hfg : ∀ r, Agree base (f r) (g r)) : Agree base (x.outcome >>= f) (y.outcome >>= g) := by
  intro m hm
  rw [on_outcome_bind, on_outcome_bind, h m hm]
  exact hfg _ _ (hm.trans (hy m))

theorem outcome_then_same (h : Agree base x y) (f : Except Failure α → Run ω β) :
    Agree base (x.outcome >>= f) (y.outcome >>= f) :=
  fun m hm => by rw [on_outcome_bind, on_outcome_bind, h m hm]

theorem ite {c : Prop} [Decidable c] {x' y' : Run ω α} (hx : c → Agree base x x')
    (hy : ¬ c → Agree base y y') :
    Agree base (if c then x else y) (if c then x' else y') := by
  split
  · next h => exact hx h
  · next h => exact hy h

/-- Lookups that agree, whatever they are asked for. -/
def Lookups (base : Machine ω) (lookup lookup' : Lookup ω) : Prop :=
  ∀ name values, Agree base (lookup name values) (lookup' name values)

end Agree

/-! ## Without any rules, everything keeps -/

theorem admits_any (team : Collaborators ω) : team.Admits (fun _ => True) where
  stopped := trivial
  cause _ := trivial
  call _ _ := trivial
  pause _ _ _ _ := trivial

theorem action_admits_any (action : Action) : action.Admits (fun _ => True) where
  fault _ := trivial
  exhausted _ _ _ _ := trivial

theorem keeps_check : (check : Run ω Unit).Keeps := (takes_check (P := fun _ => True) trivial).keeps

theorem keeps_log (text : String) (level : Level) : (log text level : Run ω Unit).Keeps :=
  (takes_log (P := fun _ => True) text level).keeps

theorem keeps_mark (step : Step) : (mark step : Run ω Unit).Keeps := fun m => .mark m step

theorem keeps_ofExcept (r : Except Cause α) : (ofExcept r : Run ω α).Keeps :=
  (takes_ofExcept (P := fun _ => True) fun _ => trivial).keeps

/-! ## Payloads -/

variable {team : Collaborators ω} {lookup lookup' : Lookup ω}

theorem agree_ask (hagree : Agree.Lookups base lookup lookup') (follower : Directive.Follower)
    (name : String) (values : List (String × String)) :
    Agree base (follower.ask lookup name values) (follower.ask lookup' name values) := by
  unfold Directive.Follower.ask
  have hcall := hagree name values
  exact .ite (fun _ => .after_same (keeps_log _ _) fun _ => hcall.outcome_then_same _)
    fun _ => .after_same (keeps_log _ _) fun _ => hcall.outcome_then_same _

theorem agree_follow (hagree : Agree.Lookups base lookup lookup') (follower : Directive.Follower)
    (document : Json) :
    Agree base (follower.follow team (some lookup) document)
      (follower.follow team (some lookup') document) := by
  have hcall : ∀ name values : Json, Agree base (follower.call (some lookup) name values)
      (follower.call (some lookup') name values) := fun name values => by
    unfold Directive.Follower.call
    split
    · exact .refl _
    · exact .after_same (keeps_ofExcept _) fun texts =>
        (agree_ask hagree follower _ _).then_same _
  unfold Directive.Follower.follow
  split
  · dsimp only
    split
    · exact (hcall _ _).then_same _
    · exact .refl _
  · exact .refl _

/-! ## Attempts -/

theorem agree_attemptOnce {plan : Retry.Plan ω} {attempt attempt' : Run ω Unit}
    (h : Agree base attempt attempt') (number : Nat) :
    Agree base (Retry.attemptOnce plan attempt number) (Retry.attemptOnce plan attempt' number) :=
  .after_same keeps_check fun _ => .after_same (keeps_mark _) fun _ => h.outcome_then_same _

/-- Attempts that agree, agree however often they are made. The induction is on the attempts that
are left. -/
theorem agree_attemptFrom {plan : Retry.Plan ω} (hback : plan.backOff.Keeps)
    {attempt attempt' : Run ω Unit} (h : Agree base attempt attempt')
    (hkeeps : ∀ number, (Retry.attemptOnce plan attempt' number).Keeps) (left number : Nat) :
    Agree base (Retry.attemptFrom plan attempt left number)
      (Retry.attemptFrom plan attempt' left number) := by
  induction left generalizing number with
  | zero => exact agree_attemptOnce h number
  | succ left ih =>
    refine (agree_attemptOnce h number).bind (hkeeps number) fun failure => ?_
    match failure with
    | none => exact .refl _
    | some _ => exact .after_same hback fun _ => ih (number + 1)

theorem agree_runPayload
    (hagree : Agree.Lookups base lookup lookup')
    (hlookup : lookup'.Takes (Rules.free ω) fun _ => True)
    (action : Action) (task : PayloadTask) :
    Agree base (runPayload team (some lookup) action task)
      (runPayload team (some lookup') action task) := by
  have hattempt : Agree base (attemptPayload team (some lookup) action task)
      (attemptPayload team (some lookup') action task) := by
    -- What is done with the text of a payload does not depend on where the text is from.
    have hsource : ∀ source : String, Agree base
        (do
          if source.isEmpty then fail (.atAction (.emptySource task.fromClipboard) action)
          let document ← extractPayload source
          Directive.Follower.follow ⟨action, task.offsetX, task.offsetY⟩ team (some lookup)
            document)
        (do
          if source.isEmpty then fail (.atAction (.emptySource task.fromClipboard) action)
          let document ← extractPayload source
          Directive.Follower.follow ⟨action, task.offsetX, task.offsetY⟩ team (some lookup')
            document) := fun source => by
      have hextract : (extractPayload source : Run ω Json).Keeps :=
        (takes_extractPayload (admits_any team) source).keeps
      refine .ite (fun _ => ?_) fun _ => .after_same hextract fun _ => agree_follow hagree _ _
      refine .after_same ?_ fun _ => .after_same hextract fun _ => agree_follow hagree _ _
      exact (takes_fail (P := fun _ => True) trivial).keeps
    unfold attemptPayload
    refine .ite (fun _ => ?_) fun _ => .after_same (Takes.pure (P := fun _ => True) _).keeps hsource
    exact .after_same (takes_clipboardContent (admits_any team)).keeps hsource
  have htakes : (attemptPayload team (some lookup') action task).Takes (Rules.free ω)
      (fun _ => True) :=
    takes_attemptPayload (admits_any team) (action_admits_any action) hlookup.of_some task
  have hkeeps : ∀ plan number,
      (Retry.attemptOnce plan (attemptPayload team (some lookup') action task) number).Keeps :=
    fun plan number => (takes_attemptOnce (admits_any team) plan htakes number).keeps
  have hback : (team.sleep task.retryPause).Keeps := (takes_sleep_any (admits_any team) _).keeps
  exact ((agree_attemptFrom hback hattempt (hkeeps _) _ _).then_same _).then_same _

/-! ## Actions -/

theorem agree_runTask
    (hagree : Agree.Lookups base lookup lookup')
    (hlookup : lookup'.Takes (Rules.free ω) fun _ => True)
    (place : Place) (header : Action.Header) (task : Action.Task) :
    Agree base (runTask team (some lookup) place header task)
      (runTask team (some lookup') place header task) := by
  match task with
  | .payload task => exact agree_runPayload hagree hlookup _ task
  | .mouse _ | .keyboard _ | .wait _ | .variable _ | .clipboard _ | .browser _ | .file _ =>
    exact .refl _

theorem keeps_runAction
    (hlookup : lookup.Takes (Rules.free ω) fun _ => True)
    (place : Place) (action : Action) : (runAction team (some lookup) place action).Keeps :=
  (takes_runAction (Rules.allow_free team) hlookup.of_some place action).keeps

theorem keeps_runActions
    (hlookup : lookup.Takes (Rules.free ω) fun _ => True)
    (place : Place) (index : Nat) (actions : List Action) :
    (runActions team (some lookup) place index actions).Keeps :=
  (takes_runActions (Rules.allow_free team) hlookup.of_some place index actions).keeps

/-- Actions that agree in their work agree. -/
theorem agree_dispatch {work work' : Run ω Unit} (h : Agree base work work') (place : Place)
    (action : Action) :
    Agree base (dispatch team place action work) (dispatch team place action work') := by
  have hexecute : Agree base (execute place action work) (execute place action work') :=
    .after_same (keeps_ofExcept _) fun _ => h.outcome_then_same _
  -- The way to the start uses no lookup, so it is the same on both sides.
  have hstart : Agree base
      (mark (.dispatched place) >>= fun _ =>
        (execute place action work).outcome >>= settleAction place action)
      (mark (.dispatched place) >>= fun _ =>
        (execute place action work').outcome >>= settleAction place action) :=
    .after_same (keeps_mark _) fun _ => hexecute.outcome_then_same _
  refine .after_same keeps_check fun _ => .ite (fun _ => ?_) fun _ => .refl _
  refine .ite (fun _ => .after_same ?_ fun _ => hstart) fun _ => hstart
  exact (takes_sleep_any (admits_any team) _).keeps

/-- Loops agree if their bodies do. The induction is on the rounds that are left. -/
theorem agree_runRounds {spec : LoopSpec} {body body' : Run ω Unit} (h : Agree base body body')
    (hkeeps : body'.Keeps) (left round : Nat) (items : Option (List String)) :
    Agree base (runRounds team spec body left round items)
      (runRounds team spec body' left round items) := by
  induction left generalizing round items with
  | zero => exact .refl _
  | succ left ih =>
    -- Behind the condition: the body, which agrees, and the rounds that are left.
    have hrest : Agree base
        (do
          log s!"Loop iteration {round + 1}/{Integer.toText spec.maxIterations}"
          body
          runRounds team spec body left (round + 1) (items.map List.tail))
        (do
          log s!"Loop iteration {round + 1}/{Integer.toText spec.maxIterations}"
          body'
          runRounds team spec body' left (round + 1) (items.map List.tail)) :=
      .after_same (keeps_log _ _) fun _ => h.bind hkeeps fun _ => ih _ _
    have hround : Agree base
        (do
          if spec.useCondition then
            if ← evaluate team spec.condition then
              log "Loop condition met, ending loop"
              return
          log s!"Loop iteration {round + 1}/{Integer.toText spec.maxIterations}"
          body
          runRounds team spec body left (round + 1) (items.map List.tail))
        (do
          if spec.useCondition then
            if ← evaluate team spec.condition then
              log "Loop condition met, ending loop"
              return
          log s!"Loop iteration {round + 1}/{Integer.toText spec.maxIterations}"
          body'
          runRounds team spec body' left (round + 1) (items.map List.tail)) := by
      refine .ite (fun _ => .after_same ?_ fun _ => .ite (fun _ => .refl _) fun _ => hrest)
        fun _ => hrest
      exact (takes_evaluate (admits_any team) _).keeps
    match items with
    | none =>
      exact .after_same keeps_check fun _ => .after_same (keeps_mark _) fun _ => hround
    | some [] => exact .refl _
    | some (item :: rest) =>
      have hset : (setVariable (itemName spec) item none : Run ω Unit).Keeps :=
        (takes_setVariable (P := fun _ => True) _ _ _).keeps
      exact .after_same keeps_check fun _ => .after_same (keeps_mark _) fun _ =>
        .after_same hset fun _ => hround

theorem agree_runLoop {spec : LoopSpec} {body body' : Run ω Unit} (h : Agree base body body')
    (hkeeps : body'.Keeps) : Agree base (runLoop team spec body) (runLoop team spec body') := by
  have hitems : (loopItems spec : Run ω (Option (List String))).Keeps :=
    (takes_loopItems (P := fun _ => True) spec).keeps
  exact .after_same hitems fun items => agree_runRounds h hkeeps _ 0 items

theorem agree_runChoice {spec : ChoiceSpec} {thenBody elseBody thenBody' elseBody' : Run ω Unit}
    (hthen : Agree base thenBody thenBody') (helse : Agree base elseBody elseBody')
    (thenCount elseCount : Nat) :
    Agree base (runChoice team spec thenCount elseCount thenBody elseBody)
      (runChoice team spec thenCount elseCount thenBody' elseBody') := by
  unfold runChoice
  refine .after_same (takes_evaluate (admits_any team) _).keeps fun _ => ?_
  refine .ite (fun _ => .after_same (keeps_log _ _) fun _ => hthen) fun _ => ?_
  exact .ite (fun _ => .after_same (keeps_log _ _) fun _ => helse) fun _ => .refl _

/-! ## The tree -/

mutual

/-- **An action agrees with itself under another lookup** that agrees. -/
theorem agree_runAction
    (hagree : Agree.Lookups base lookup lookup')
    (hlookup : lookup'.Takes (Rules.free ω) fun _ => True)
    (place : Place) (action : Action) :
    Agree base (runAction team (some lookup) place action)
      (runAction team (some lookup') place action) := by
  match action with
  | .task header task =>
    have hcurrent : (current place header task : Run ω _).Keeps := fun m => by
      obtain ⟨header', task', -, heq⟩ := on_current m.within_free place header task
      rw [heq]
      exact .refl m
    exact .after_same hcurrent fun now =>
      agree_dispatch (agree_runTask hagree hlookup place now.1 now.2) place _
  | .loop header spec actions =>
    have hbody := agree_runActions hagree hlookup (0 :: place) 0 actions
    exact agree_dispatch (agree_runLoop hbody (keeps_runActions hlookup _ _ actions)) place _
  | .choice header spec thenActions elseActions =>
    have hthen := agree_runActions hagree hlookup (0 :: place) 0 thenActions
    have helse := agree_runActions hagree hlookup (1 :: place) 0 elseActions
    exact agree_dispatch (agree_runChoice hthen helse _ _) place _

theorem agree_runActions
    (hagree : Agree.Lookups base lookup lookup')
    (hlookup : lookup'.Takes (Rules.free ω) fun _ => True)
    (place : Place) (index : Nat) (actions : List Action) :
    Agree base (runActions team (some lookup) place index actions)
      (runActions team (some lookup') place index actions) := by
  match actions with
  | [] => exact .refl _
  | action :: actions =>
    have hfirst := agree_runAction hagree hlookup (index :: place) action
    exact hfirst.bind (keeps_runAction hlookup _ action) fun _ =>
      agree_runActions hagree hlookup place (index + 1) actions

end

/-! ## Sequences -/

end DesktopMacro.Run
