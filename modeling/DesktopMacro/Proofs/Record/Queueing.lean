/-
Every report that is let in reaches the recording, in order and once.

What holds of any schedule is a balance: the items that the worker has dealt with, the one it has in
hand and those in the queue are, in this order, the items that were put in. A recording that has
started goes on until the worker meets the mark, or until a look at the clock fails; it hears
nothing afterwards. So once a call of `stop` has returned, it has heard every report that came
before the mark, and only then it was ended, unless a look at the clock failed: the worker does not
survive that, and the reports that come later stay in the queue.

A report that cannot be used is passed over, and the worker goes on; so it could after a look that
fails. A look fails only where the gap between two moments is too large for a delay.
-/
import DesktopMacro.Proofs.Record.Schedule

set_option autoImplicit false

namespace DesktopMacro

namespace CaptureCall

variable {τ : Type}

/-- A call with which a recording goes on. -/
def GoesOn : CaptureCall τ → Prop
  | handle _ => True
  | poll _ => True
  | _ => False

/-- **A recording is ended last**: it is given reports and looks at the clock, and only then it is
ended, maybe more than once. -/
def EndsLast (calls : List (CaptureCall τ)) : Prop :=
  ∃ (going : List (CaptureCall τ)) (endings : List τ),
    calls = going ++ endings.map stop ∧ ∀ call ∈ going, call.GoesOn

theorem endsLast_of_goesOn {calls : List (CaptureCall τ)} (h : ∀ call ∈ calls, call.GoesOn) :
    EndsLast calls :=
  ⟨calls, [], (List.append_nil calls).symm, h⟩

theorem EndsLast.stop {calls : List (CaptureCall τ)} (h : EndsLast calls) (now : τ) :
    EndsLast (calls ++ [.stop now]) := by
  obtain ⟨going, endings, rfl, hgoing⟩ := h
  refine ⟨going, endings ++ [now], ?_, hgoing⟩
  rw [List.map_append, List.append_assoc]
  rfl

/-- To end a recording adds nothing to what it has heard. -/
theorem heard_append_stop (calls : List (CaptureCall τ)) (now : τ) :
    heard (calls ++ [.stop now]) = heard calls := by
  induction calls with
  | nil => rfl
  | cons call calls ih =>
    cases call with
    | handle event => exact congrArg (event :: ·) ih
    | poll now => exact ih
    | flush now => exact ih
    | stop now => rfl

/-- A recording that goes on hears what it is given. -/
theorem heard_append {calls : List (CaptureCall τ)} (h : ∀ call ∈ calls, call.GoesOn)
    (more : List (CaptureCall τ)) : heard (calls ++ more) = heard calls ++ heard more := by
  induction calls with
  | nil => rfl
  | cons call calls ih =>
    have hrest := ih fun other hother => h other (List.mem_cons_of_mem call hother)
    cases call with
    | handle event => exact congrArg (event :: ·) hrest
    | poll now => exact hrest
    | flush now => exact (h _ List.mem_cons_self).elim
    | stop now => exact (h _ List.mem_cons_self).elim

end CaptureCall

namespace Recorder

open CaptureCall Deed

variable {τ : Type}

/-! ## Items up to the mark -/

theorem reportsBeforeMark_append {items : List (QueueItem τ)} (h : QueueItem.stop ∉ items)
    (more : List (QueueItem τ)) :
    reportsBeforeMark (items ++ more) = reportsBeforeMark items ++ reportsBeforeMark more := by
  induction items with
  | nil => rfl
  | cons item items ih =>
    have hrest := ih fun hmem => h (List.mem_cons_of_mem item hmem)
    cases item with
    | event event => exact congrArg (event :: ·) hrest
    | stop => exact absurd List.mem_cons_self h

theorem reportsBeforeMark_append_of_mem {items : List (QueueItem τ)} (h : QueueItem.stop ∈ items)
    (more : List (QueueItem τ)) :
    reportsBeforeMark (items ++ more) = reportsBeforeMark items := by
  induction items with
  | nil => exact absurd h List.not_mem_nil
  | cons item items ih =>
    cases item with
    | event event =>
      have hrest : QueueItem.stop ∈ items := (List.mem_cons.1 h).resolve_left nofun
      exact congrArg (event :: ·) (ih hrest)
    | stop => rfl

/-- The reports before the mark come first. -/
theorem reportsBeforeMark_prefix (items more : List (QueueItem τ)) :
    reportsBeforeMark items <+: reportsBeforeMark (items ++ more) := by
  by_cases h : QueueItem.stop ∈ items
  · rw [reportsBeforeMark_append_of_mem h]
  · rw [reportsBeforeMark_append h]
    exact List.prefix_append _ _

namespace Shared

variable {shared next : Shared τ} {past come : List (Deed τ)}

/-! ## The course of one recording -/

/-- **How far a recording has come** that started before what came of it. -/
inductive Course (past : List (Deed τ)) (shared : Shared τ) : Prop
  /-- The worker runs: it has met no mark, and no look at the clock has failed. -/
  | going (hrunning : shared.recorder.isRunning = true)
      (hcalls : ∀ call ∈ past.flatMap calls, call.GoesOn)
      (hserved : QueueItem.stop ∉ past.flatMap served)
      (hlooked : ∀ now, Deed.looked now false ∉ past)
      (hheard : heard (past.flatMap calls) = reportsBeforeMark (past.flatMap served))
  /-- The worker has gone, after one of these. -/
  | gone (hrunning : shared.recorder.isRunning = false)
      (hends : EndsLast (past.flatMap calls))
      (hwhy : QueueItem.stop ∈ past.flatMap served ∨ ∃ now, Deed.looked now false ∈ past)
      (hheard : heard (past.flatMap calls) = reportsBeforeMark (past.flatMap served))

namespace Course

theorem endsLast (h : Course past shared) : EndsLast (past.flatMap calls) := by
  cases h with
  | going _ hcalls => exact endsLast_of_goesOn hcalls
  | gone _ hends => exact hends

theorem heard_eq (h : Course past shared) :
    heard (past.flatMap calls) = reportsBeforeMark (past.flatMap served) := by
  cases h with
  | going _ _ _ _ hheard => exact hheard
  | gone _ _ _ hheard => exact hheard

/-- A call of `stop` that has returned found the worker gone. -/
theorem of_returned (h : Course past shared) {now : τ} {actions : List Action}
    (hreturned : Deed.returned now actions ∈ past) :
    QueueItem.stop ∈ past.flatMap served ∨ ∃ now, Deed.looked now false ∈ past := by
  cases h with
  | going _ hcalls =>
    have hstop : CaptureCall.stop now ∈ past.flatMap calls :=
      List.mem_flatMap.2 ⟨_, hreturned, List.mem_cons_self⟩
    exact (hcalls _ hstop).elim
  | gone _ _ hwhy => exact hwhy

/-- A turn that does nothing to the recording, and leaves the worker as it is. -/
theorem silent (h : Course past shared) (hcalls : come.flatMap calls = [])
    (hserved : come.flatMap served = [])
    (hrunning : next.recorder.isRunning = shared.recorder.isRunning) :
    Course (past ++ come) next := by
  have hnocalls : ∀ deed ∈ come, deed.calls = [] := List.flatMap_eq_nil_iff.1 hcalls
  have hlooked : ∀ now, Deed.looked now false ∈ past ++ come ↔ Deed.looked now false ∈ past := by
    intro now
    rw [List.mem_append, or_iff_left]
    exact fun hmem => List.cons_ne_nil _ _ (hnocalls _ hmem)
  have hallCalls : (past ++ come).flatMap calls = past.flatMap calls := by
    rw [List.flatMap_append, hcalls, List.append_nil]
  have hallServed : (past ++ come).flatMap served = past.flatMap served := by
    rw [List.flatMap_append, hserved, List.append_nil]
  cases h with
  | going h hgoing hunmarked hfine hheard =>
    apply Course.going (hrunning.trans h) <;> simp only [hallCalls, hallServed, hlooked]
    · exact hgoing
    · exact hunmarked
    · exact hfine
    · exact hheard
  | gone h hends hwhy hheard =>
    apply Course.gone (hrunning.trans h) <;> simp only [hallCalls, hallServed, hlooked]
    · exact hends
    · exact hwhy
    · exact hheard

/-- What a running worker has done, with one more of its deeds. -/
theorem goes (h : Course past shared) (hrunning : shared.recorder.isRunning = true) :
    (∀ call ∈ past.flatMap calls, call.GoesOn) ∧ QueueItem.stop ∉ past.flatMap served
      ∧ (∀ now, Deed.looked now false ∉ past)
      ∧ heard (past.flatMap calls) = reportsBeforeMark (past.flatMap served) := by
  cases h with
  | going _ hcalls hserved hlooked hheard => exact ⟨hcalls, hserved, hlooked, hheard⟩
  | gone hstopped => exact absurd (hrunning.symm.trans hstopped) nofun

/-- The worker looks at the clock, and goes on unless that fails. -/
theorem looks (h : Course past shared) (hrunning : shared.recorder.isRunning = true) (now : τ)
    {fine : Bool} (hnext : next.recorder.isRunning = fine) :
    Course (past ++ [.looked now fine]) next := by
  obtain ⟨hcalls, hserved, hlooked, hheard⟩ := h.goes hrunning
  have hmore : ∀ call ∈ (past ++ [Deed.looked now fine]).flatMap calls, call.GoesOn := by
    rw [List.flatMap_append]
    exact List.forall_mem_append.2 ⟨hcalls, List.forall_mem_singleton.2 trivial⟩
  have hsame : (past ++ [Deed.looked now fine]).flatMap served = past.flatMap served := by
    rw [List.flatMap_append]
    exact List.append_nil _
  have hhears : heard ((past ++ [Deed.looked now fine]).flatMap calls)
      = reportsBeforeMark ((past ++ [Deed.looked now fine]).flatMap served) := by
    rw [hsame, ← hheard, List.flatMap_append, heard_append hcalls]
    exact List.append_nil _
  cases fine with
  | true =>
    refine .going hnext hmore (hsame ▸ hserved) (fun moment hmem => ?_) hhears
    rcases List.mem_append.1 hmem with hpast | hnew
    · exact hlooked moment hpast
    · cases List.mem_singleton.1 hnew
  | false =>
    exact .gone hnext (endsLast_of_goesOn hmore)
      (.inr ⟨now, List.mem_append_right _ List.mem_cons_self⟩) hhears

/-- The worker gives a report to the recording, and goes on. -/
theorem hands (h : Course past shared) (hrunning : shared.recorder.isRunning = true)
    (event : InputEvent τ) (hnext : next.recorder.isRunning = true) :
    Course (past ++ [.handed event]) next := by
  obtain ⟨hcalls, hserved, hlooked, hheard⟩ := h.goes hrunning
  refine .going hnext ?_ ?_ (fun moment hmem => ?_) ?_
  · rw [List.flatMap_append]
    exact List.forall_mem_append.2 ⟨hcalls, List.forall_mem_singleton.2 trivial⟩
  · rw [List.flatMap_append, List.mem_append]
    exact not_or.2 ⟨hserved, by simp [served]⟩
  · rcases List.mem_append.1 hmem with hpast | hnew
    · exact hlooked moment hpast
    · cases List.mem_singleton.1 hnew
  · rw [List.flatMap_append, List.flatMap_append, heard_append hcalls,
      reportsBeforeMark_append hserved, hheard]
    rfl

/-- The worker meets the mark. -/
theorem ends (h : Course past shared) (hrunning : shared.recorder.isRunning = true) (now : τ)
    (hnext : next.recorder.isRunning = false) : Course (past ++ [.ended now]) next := by
  obtain ⟨hcalls, hserved, -, hheard⟩ := h.goes hrunning
  have hmark : QueueItem.stop ∈ (past ++ [Deed.ended now]).flatMap served := by
    rw [List.flatMap_append]
    exact List.mem_append_right _ List.mem_cons_self
  refine .gone hnext ?_ (.inl hmark) ?_
  · rw [List.flatMap_append]
    exact (endsLast_of_goesOn hcalls).stop now
  · rw [List.flatMap_append, List.flatMap_append, reportsBeforeMark_append hserved, ← hheard]
    exact (heard_append_stop _ now).trans (List.append_nil _).symm

/-- A call of `stop` returns. -/
theorem returns (h : Course past shared) (hstopped : shared.recorder.isRunning = false) (now : τ)
    (actions : List Action) (hnext : next.recorder.isRunning = false) :
    Course (past ++ [.returned now actions]) next := by
  cases h with
  | going hrunning => exact absurd (hrunning.symm.trans hstopped) nofun
  | gone _ hends hwhy hheard =>
    have hsame : (past ++ [Deed.returned now actions]).flatMap served = past.flatMap served := by
      rw [List.flatMap_append]
      exact List.append_nil _
    refine .gone hnext ?_ (hwhy.imp (hsame ▸ ·) fun ⟨look, hlook⟩ =>
      ⟨look, List.mem_append_left _ hlook⟩) ?_
    · rw [List.flatMap_append]
      exact hends.stop now
    · rw [hsame, ← hheard, List.flatMap_append]
      exact heard_append_stop _ now

end Course

/-! ## Nothing gets lost in the queue -/

/-- The items that were put in and that the worker has not dealt with, the first one first. -/
def items (shared : Shared τ) : List (QueueItem τ) := shared.hand.items ++ shared.recorder.queue

variable [Timeline τ]

theorem items_moves (h : Moves shared come next) :
    shared.items ++ come.flatMap entered = come.flatMap served ++ next.items := by
  cases h <;> simp [items, Hand.items, entered, served]

/-- **What is put in is dealt with, in order, or it is still there.** -/
theorem items_deeds (shared : Shared τ) (turns : List (Turn τ)) :
    shared.items ++ (shared.deeds turns).flatMap entered
      = (shared.deeds turns).flatMap served ++ (shared.after turns).items := by
  induction turns generalizing shared with
  | nil => exact List.append_nil _
  | cons turn turns ih =>
    rw [deeds_cons, List.flatMap_append, List.flatMap_append, ← List.append_assoc,
      items_moves (moves_turn shared turn), List.append_assoc, ih, ← List.append_assoc]
    rfl

/-! ## The recording is given what the deeds tell -/

theorem feed_append (capture : Capture τ) (calls more : List (CaptureCall τ)) :
    capture.feed (calls ++ more) = (capture.feed calls).feed more := List.foldl_append

theorem ended_eq_feed (capture : Capture τ) (now : τ) :
    Recorder.ended capture now = capture.feed [.stop now] :=
  (Capture.step_bind_pure (Capture.stop now) Prod.fst capture).symm

theorem capture_moves (h : Moves shared come next) (hstart : ∀ now, Deed.started now ∉ come) :
    next.recorder.capture = shared.recorder.capture.feed (come.flatMap calls) := by
  cases h with
  | starts now => exact absurd List.mem_cons_self (hstart now)
  | returns now => exact ended_eq_feed _ now
  | ends now => exact ended_eq_feed _ now
  | _ => rfl

/-- **Nothing but the deeds changes the recording**, as long as none is started. -/
theorem capture_deeds (shared : Shared τ) (turns : List (Turn τ))
    (hstart : ∀ now, Deed.started now ∉ shared.deeds turns) :
    (shared.after turns).recorder.capture
      = shared.recorder.capture.feed ((shared.deeds turns).flatMap calls) := by
  induction turns generalizing shared with
  | nil => rfl
  | cons turn turns ih =>
    rw [deeds_cons, List.flatMap_append, feed_append]
    rw [deeds_cons] at hstart
    rw [← capture_moves (moves_turn shared turn) fun now h => hstart now (List.mem_append_left _ h)]
    exact ih _ fun now h => hstart now (List.mem_append_right _ h)

/-- **What is dealt with was put in before**, and in this order. -/
theorem served_prefix (h : shared.items = []) (turns : List (Turn τ)) :
    (shared.deeds turns).flatMap served <+: (shared.deeds turns).flatMap entered := by
  have hbalance := items_deeds shared turns
  rw [h, List.nil_append] at hbalance
  exact ⟨_, hbalance.symm⟩

/-! ## A recording and its queue -/

theorem course_moves (h : Moves shared come next) (hstart : ∀ now, Deed.started now ∉ come)
    (hcourse : Course past shared) : Course (past ++ come) next := by
  cases h with
  | starts now => exact absurd List.mem_cons_self (hstart now)
  | looks now => exact hcourse.looks rfl now rfl
  | hands event => exact hcourse.hands rfl event rfl
  | ends now => exact hcourse.ends rfl now rfl
  | returns now => exact hcourse.returns rfl now _ rfl
  | _ => exact hcourse.silent rfl rfl rfl

theorem course_deeds (hrunning : shared.recorder.isRunning = true) (turns : List (Turn τ))
    (hstart : ∀ now, Deed.started now ∉ shared.deeds turns) :
    Course (shared.deeds turns) (shared.after turns) := by
  have hbegin : Course [] shared :=
    .going hrunning (List.forall_mem_nil _) List.not_mem_nil (fun _ => List.not_mem_nil) rfl
  have hcourse := invariant (P := fun past shared =>
    (∀ now, Deed.started now ∉ past) → Course past shared) ?_ (fun _ => hbegin) turns
  · exact hcourse hstart
  · intro past shared come next hmoves hpast hnone
    exact course_moves hmoves (fun now h => hnone now (List.mem_append_right _ h))
      (hpast fun now h => hnone now (List.mem_append_left _ h))

/-! ## Looks at the clock that do not fail -/

/-- The moments that a deed brings to a recording. -/
def moments : Deed τ → List τ
  | .pushed event _ => [event.time]
  | .looked now _ => [now]
  | _ => []

/-- **A recording at safe moments**: it is sound as long as the worker runs, what is still to come
is safe as well, and no look at the clock has failed. -/
structure Timely (Safe : τ → Prop) (past : List (Deed τ)) (shared : Shared τ) : Prop where
  sound : shared.recorder.isRunning = true → shared.recorder.capture.Sound Safe
  safe : ∀ event, QueueItem.event event ∈ shared.items → Safe event.time
  fine : ∀ look, Deed.looked look false ∉ past

variable {Safe : τ → Prop}

omit [Timeline τ] in
/-- A report comes into the queue when it is let in. -/
theorem eq_pushed_of_mem_entered {deed : Deed τ} {event : InputEvent τ}
    (h : QueueItem.event event ∈ deed.entered) : deed = .pushed event true := by
  cases deed with
  | pushed other taken =>
    cases taken with
    | true =>
      cases List.mem_singleton.1 h
      rfl
    | false => exact absurd h List.not_mem_nil
  | marked => cases List.mem_singleton.1 h
  | _ => exact absurd h List.not_mem_nil

/-- A report that is there after a turn was there before, or the turn put it in. -/
theorem safe_moves (h : Moves shared come next) (hsafe : ∀ m ∈ come.flatMap moments, Safe m)
    (hitems : ∀ event, QueueItem.event event ∈ shared.items → Safe event.time) :
    ∀ event, QueueItem.event event ∈ next.items → Safe event.time := by
  intro event hevent
  have hmem : QueueItem.event event ∈ shared.items ++ come.flatMap entered := by
    rw [items_moves h]
    exact List.mem_append_right _ hevent
  rcases List.mem_append.1 hmem with hold | hnew
  · exact hitems event hold
  · obtain ⟨deed, hdeed, hentered⟩ := List.mem_flatMap.1 hnew
    obtain rfl := eq_pushed_of_mem_entered hentered
    exact hsafe event.time (List.mem_flatMap.2 ⟨_, hdeed, List.mem_cons_self⟩)

theorem timely_moves (h : Moves shared come next) (hstart : ∀ now, Deed.started now ∉ come)
    (hsafe : ∀ m ∈ come.flatMap moments, Safe m) (htimely : Timely Safe past shared) :
    Timely Safe (past ++ come) next := by
  have hitems := safe_moves h hsafe htimely.safe
  have hfine : (∀ look, Deed.looked look false ∉ come) →
      ∀ look, Deed.looked look false ∉ past ++ come := by
    intro hcome look hmem
    rcases List.mem_append.1 hmem with hpast | hnew
    · exact htimely.fine look hpast
    · exact hcome look hnew
  cases h with
  | starts now => exact absurd List.mem_cons_self (hstart now)
  | looks now =>
    have hnow : Safe now := hsafe now List.mem_cons_self
    obtain ⟨actions, after, hstep, hextends⟩ := Capture.delivers_poll (htimely.sound rfl) hnow
    rw [hstep] at hitems hfine ⊢
    refine ⟨fun _ => hextends.sound, hitems, hfine fun look hmem => ?_⟩
    cases List.mem_singleton.1 hmem
  | hands event =>
    have htime : Safe event.time := htimely.safe event List.mem_cons_self
    refine ⟨fun _ => (htimely.sound rfl).afterCall_handle htime, hitems, hfine fun look hmem => ?_⟩
    cases List.mem_singleton.1 hmem
  | ends now => exact ⟨nofun, hitems, hfine (by simp)⟩
  | returns now => exact ⟨nofun, hitems, hfine (by simp)⟩
  | _ => exact ⟨htimely.sound, hitems, hfine (by simp)⟩

/-- A recorder on which the first recording has just started. -/
def begun (capture : Capture τ) (capacity : Option Nat) (begin : τ) : Shared τ :=
  ((atRest (Recorder.initial capture capacity)).turn (.start begin)).2

/-- A report that is refused changes nothing. -/
theorem turn_push_refused {shared : Shared τ} {event other : InputEvent τ}
    (h : Deed.pushed other false ∈ (shared.turn (.push event)).1) :
    (shared.turn (.push event)).2 = shared := by
  by_cases hfull : shared.recorder.isFull = true
  · have hpush : shared.recorder.push event = (false, shared.recorder) := if_pos hfull
    rw [turn, hpush]
  · have hpush : shared.recorder.push event = (true, _) := if_neg hfull
    rw [turn, hpush] at h
    cases List.mem_singleton.1 h

/-- **At safe moments no look at the clock fails.** -/
theorem looks_fine {capture : Capture τ} {capacity : Option Nat} {begin : τ}
    (steady : Timeline.Steady capture.settings.quiet Safe) (hbegin : Safe begin)
    {turns : List (Turn τ)}
    (hstart : ∀ now, Deed.started now ∉ (begun capture capacity begin).deeds turns)
    (hsafe : ∀ m ∈ ((begun capture capacity begin).deeds turns).flatMap moments, Safe m) :
    ∀ look, Deed.looked look false ∉ (begun capture capacity begin).deeds turns := by
  have hfirst : Timely Safe [] (begun capture capacity begin) :=
    ⟨fun _ => Capture.sound_start steady hbegin, fun _ => nofun, fun _ => List.not_mem_nil⟩
  have htimely := invariant (P := fun past shared =>
    (∀ now, Deed.started now ∉ past) → (∀ m ∈ past.flatMap moments, Safe m) →
      Timely Safe past shared) ?_ (fun _ _ => hfirst) turns
  · exact (htimely hstart hsafe).fine
  · intro past shared come next hmoves hpast hnone hall
    rw [List.flatMap_append, List.forall_mem_append] at hall
    exact timely_moves hmoves (fun now h => hnone now (List.mem_append_right _ h)) hall.2
      (hpast (fun now h => hnone now (List.mem_append_left _ h)) hall.1)

/-- **Every report that is let in before the mark is given to the recording**, once and in order,
and then the recording is ended. -/
theorem delivers_accepted (capture : Capture τ) (capacity : Option Nat) (begin : τ)
    (turns : List (Turn τ))
    (hstart : ∀ now, Deed.started now ∉ (begun capture capacity begin).deeds turns) :
    let shared := begun capture capacity begin
    let deeds := shared.deeds turns
    let calls := deeds.flatMap Deed.calls
    (shared.after turns).recorder.capture = (capture.start begin).feed calls
    ∧ EndsLast calls
    ∧ heard calls <+: acceptedBeforeMark deeds
    ∧ (∀ now actions, Deed.returned now actions ∈ deeds → (∀ look, Deed.looked look false ∉ deeds) →
      heard calls = acceptedBeforeMark deeds)
    ∧ ∀ event, Deed.pushed event false ∈ ((shared.after turns).turn (.push event)).1 →
      ((shared.after turns).turn (.push event)).2 = shared.after turns := by
  intro shared deeds calls
  have hcourse : Course deeds (shared.after turns) := course_deeds rfl turns hstart
  obtain ⟨rest, hrest⟩ : deeds.flatMap served <+: deeds.flatMap entered := served_prefix rfl turns
  have hheard : heard calls = reportsBeforeMark (deeds.flatMap served) := hcourse.heard_eq
  refine ⟨capture_deeds shared turns hstart, hcourse.endsLast, ?_, ?_,
    fun event => turn_push_refused⟩
  · rw [hheard, acceptedBeforeMark, ← hrest]
    exact reportsBeforeMark_prefix _ rest
  · intro now actions hreturned hlooks
    -- Without a look that fails the worker has gone because it met the mark.
    have hmark := (hcourse.of_returned hreturned).resolve_right
      fun ⟨look, hlook⟩ => hlooks look hlook
    rw [hheard, acceptedBeforeMark, ← hrest, reportsBeforeMark_append_of_mem hmark]

/-- No look at the clock fails where the gaps between all the moments are finite. -/
theorem looks_fine_of_gaps {capture : Capture Quantity} {capacity : Option Nat} {begin : Quantity}
    {interval : Int} {quiet : Binary64} (hinterval : Pause.seconds interval = .ok quiet)
    (hquiet : capture.settings.quiet = .real quiet) {turns : List (Turn Quantity)}
    (hstart : ∀ now, Deed.started now ∉ (begun capture capacity begin).deeds turns)
    (hgaps : ∀ a ∈ begin :: ((begun capture capacity begin).deeds turns).flatMap moments,
      ∀ b ∈ begin :: ((begun capture capacity begin).deeds turns).flatMap moments,
        Quantity.HasFiniteGap a b) :
    ∀ look, Deed.looked look false ∉ (begun capture capacity begin).deeds turns := by
  obtain ⟨hfinite, hsign⟩ := Quantity.seconds_finite hinterval
  have hsteady := Quantity.steady_between hgaps hfinite hsign
  rw [← hquiet] at hsteady
  apply looks_fine hsteady (Quantity.between_of_mem hgaps List.mem_cons_self) hstart
  intro m hm
  exact Quantity.between_of_mem hgaps (List.mem_cons_of_mem _ hm)

/-! ## A schedule in which a report is refused, and one in which the worker is lost -/

/-- A key goes down. -/
def press (key : String) (now : Quantity) : InputEvent Quantity := .key ⟨key, true, now⟩

/-- The worker has one report in hand and there is one in the queue, which is full, when the
recording is to stop; another one comes after the mark. -/
def crowdedTurns : List (Turn Quantity) :=
  [.work (.whole 1), .work (.whole 1), .push (press "A" (.whole 1)), .push (press "B" (.whole 1)),
    .work (.whole 1), .push (press "C" (.whole 1)), .stop, .wait (.whole 2), .work (.whole 2),
    .work (.whole 2), .wait (.whole 2), .work (.whole 2), .work (.whole 2),
    .push (press "D" (.whole 2)), .work (.whole 2), .wait (.whole 3)]

/-- What comes of the crowded schedule. -/
def crowded : List (Deed Quantity) :=
  (begun Capture.usual (some 1) (.whole 0)).deeds crowdedTurns

theorem crowded_eq : ∃ actions, crowded =
    [.looked (.whole 1) true, .pushed (press "A" (.whole 1)) true,
      .pushed (press "B" (.whole 1)) false, .pushed (press "C" (.whole 1)) true,
      .handed (press "A" (.whole 1)), .marked, .handed (press "C" (.whole 1)),
      .pushed (press "D" (.whole 2)) true, .ended (.whole 2), .returned (.whole 3) actions] :=
  ⟨_, rfl⟩

theorem delivers_accepted_crowded :
    (∀ now, Deed.started now ∉ crowded) ∧ (∃ now actions, Deed.returned now actions ∈ crowded)
    ∧ (∀ look, Deed.looked look false ∉ crowded)
    ∧ acceptedBeforeMark crowded = [press "A" (.whole 1), press "C" (.whole 1)]
    ∧ heard (crowded.flatMap calls) = acceptedBeforeMark crowded := by
  obtain ⟨actions, hdeeds⟩ := crowded_eq
  have hstart : ∀ now, Deed.started now ∉ crowded := by simp [hdeeds]
  have hreturned : Deed.returned (.whole 3) actions ∈ crowded := by simp [hdeeds]
  have hlooks : ∀ look, Deed.looked look false ∉ crowded := by simp [hdeeds]
  obtain ⟨-, -, -, hlaw, -⟩ :=
    delivers_accepted Capture.usual (some 1) (.whole 0) crowdedTurns hstart
  refine ⟨hstart, ⟨_, _, hreturned⟩, hlooks, ?_, hlaw _ _ hreturned hlooks⟩
  rw [hdeeds]
  rfl

/-- A deed with which a call of `stop` returns. -/
def isReturned : Deed τ → Bool
  | .returned _ _ => true
  | _ => false

omit [Timeline τ] in
theorem exists_returned {deeds : List (Deed τ)} (h : deeds.any isReturned = true) :
    ∃ now actions, Deed.returned now actions ∈ deeds := by
  obtain ⟨deed, hmem, hreturned⟩ := List.any_eq_true.1 h
  cases deed with
  | returned now actions => exact ⟨now, actions, hmem⟩
  | _ => cases hreturned

/-- A moment so long ago that there is no delay since then. -/
def longAgo : Quantity := .real (.ofInt (-(10 ^ 306)))

/-- A key that went down long ago waits when the worker looks at the clock; another one goes down
later, before the recording is to stop. -/
def blindTurns : List (Turn Quantity) :=
  [.push (press "A" longAgo), .work (.whole 0), .work (.whole 0), .work (.whole 0),
    .work (.whole 0), .push (press "Tab" (.whole 1)), .stop, .wait (.whole 2)]

/-- What comes of that schedule. -/
def blind : List (Deed Quantity) := (begun Capture.usual none (.whole 0)).deeds blindTurns

/-- **A report that is let in gets lost after a look at the clock that fails**: the second key is in
the queue, and the call of `stop` returns without it. -/
theorem accepted_report_lost :
    (∀ now, Turn.start now ∉ blindTurns) ∧ (∃ now actions, Deed.returned now actions ∈ blind)
    ∧ (acceptedBeforeMark blind).length = 2 ∧ (heard (blind.flatMap calls)).length = 1 := by
  refine ⟨by simp [blindTurns], exists_returned ?_, ?_, ?_⟩
  · decide +kernel
  · decide +kernel
  · decide +kernel

end Shared
end Recorder
end DesktopMacro
