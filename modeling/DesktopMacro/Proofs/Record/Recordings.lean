/-
What a recording is made of.

A recording starts afresh: nothing of an earlier one is in it but the count of the actions, which
gives them their identities. All it hears from then on comes out of the queue, in order. The queue
is not emptied when a recording starts, though, and reports are let in at any time: one that was let
in before the first start, or after the mark of the last recording, is given to the next one.

So a recording consists of its own reports if the schedule is tidy: reports are let in only while a
recording is open, from its start to its mark, and no look at the clock fails, after which the
worker leaves reports behind.
-/
import DesktopMacro.Proofs.Record.Holdings
import DesktopMacro.Proofs.Record.Queueing

set_option autoImplicit false

namespace DesktopMacro

/-- A recording that has just started. -/
def Capture.fresh {τ : Type} (settings : CaptureSettings τ) (serial : Nat) (begin : τ) : Capture τ :=
  { Capture.initial settings begin with isRecording := true, serial }

/-- **To start forgets everything** but the way to record and the count of the actions. -/
theorem Capture.start_eq {τ : Type} (capture : Capture τ) (begin : τ) :
    capture.start begin = .fresh capture.settings capture.serial begin := rfl

namespace Recorder

open Deed

variable {τ : Type}

/-! ## Tidy schedules -/

/-- Whether a recording is open after a deed: from its start to its mark. -/
def Deed.opens (isOpen : Bool) : Deed τ → Bool
  | started _ => true
  | marked => false
  | _ => isOpen

/-- A deed that leaves nothing behind: no report is let in without an open recording, and no look at
the clock fails. -/
def Deed.IsTidy (isOpen : Bool) : Deed τ → Prop
  | pushed _ true => isOpen = true
  | looked _ fine => fine = true
  | _ => True

/-- **Deeds that leave nothing behind.** -/
def Tidy (isOpen : Bool) : List (Deed τ) → Prop
  | [] => True
  | deed :: deeds => deed.IsTidy isOpen ∧ Tidy (deed.opens isOpen) deeds

/-- Whether a recording is open after deeds. -/
def openAfter (isOpen : Bool) (deeds : List (Deed τ)) : Bool := deeds.foldl Deed.opens isOpen

theorem tidy_append (isOpen : Bool) (deeds more : List (Deed τ)) :
    Tidy isOpen (deeds ++ more) ↔ Tidy isOpen deeds ∧ Tidy (openAfter isOpen deeds) more := by
  induction deeds generalizing isOpen with
  | nil => exact ⟨fun h => ⟨trivial, h⟩, fun h => h.2⟩
  | cons deed deeds ih =>
    rw [List.cons_append, Tidy, ih, Tidy, and_assoc]
    rfl

namespace Shared

/-- **How a tidy schedule stands.** -/
inductive Stands (shared : Shared τ) : (isOpen : Bool) → Prop
  /-- The recording is open, and there is no mark. -/
  | opened (hrunning : shared.recorder.isRunning = true) (hitems : QueueItem.stop ∉ shared.items) :
      Stands shared true
  /-- The worker still has to deal with what comes before the mark, which is the last item. -/
  | closing (hrunning : shared.recorder.isRunning = true) (hstopping : shared.stopping = .waiting)
      (items : List (QueueItem τ)) (hitems : shared.items = items ++ [.stop])
      (hmark : QueueItem.stop ∉ items) : Stands shared false
  /-- The worker has gone, and nothing is left. -/
  | closed (hrunning : shared.recorder.isRunning = false) (hitems : shared.items = [])
      (hstopping : shared.stopping ≠ .asking) : Stands shared false

variable [Timeline τ] {shared next : Shared τ} {past come : List (Deed τ)}

omit [Timeline τ] in
/-- How a schedule stands depends on the items, and on whether the worker runs and somebody waits.
-/
theorem Stands.of_same {isOpen : Bool} (h : Stands shared isOpen)
    (hrunning : next.recorder.isRunning = shared.recorder.isRunning)
    (hstopping : next.stopping = shared.stopping) (hitems : next.items = shared.items) :
    Stands next isOpen := by
  cases h with
  | opened h h' => exact .opened (hrunning.trans h) (hitems ▸ h')
  | closing h h' items h'' hmark =>
    exact .closing (hrunning.trans h) (hstopping.trans h') items (hitems.trans h'') hmark
  | closed h h' h'' => exact .closed (hrunning.trans h) (hitems.trans h') (hstopping ▸ h'')

omit [Timeline τ] in
/-- The worker has dealt with a report. -/
theorem Stands.of_report {isOpen : Bool} {event : InputEvent τ} (h : Stands shared isOpen)
    (hrunning : next.recorder.isRunning = shared.recorder.isRunning)
    (hstopping : next.stopping = shared.stopping)
    (hitems : shared.items = .event event :: next.items) : Stands next isOpen := by
  cases h with
  | opened h h' =>
    rw [hitems] at h'
    exact .opened (hrunning.trans h) fun hmem => h' (List.mem_cons_of_mem _ hmem)
  | closing h h' items h'' hmark =>
    -- The report is not the mark, so there is something before the mark.
    rw [hitems] at h''
    cases items with
    | nil => cases h''
    | cons item items =>
      obtain ⟨-, hrest⟩ := List.cons.inj h''
      exact .closing (hrunning.trans h) (hstopping.trans h') items hrest
        fun hmem => hmark (List.mem_cons_of_mem _ hmem)
  | closed _ h' => exact absurd (hitems.symm.trans h') (List.cons_ne_nil _ _)

omit [Timeline τ] in
/-- The worker has dealt with the mark, and there is nothing behind it. -/
theorem Stands.of_mark {isOpen : Bool} (h : Stands shared isOpen)
    (hrunning : next.recorder.isRunning = false) (hstopping : next.stopping = shared.stopping)
    (hitems : shared.items = .stop :: next.items) : Stands next isOpen := by
  cases h with
  | opened _ h' => exact absurd (hitems ▸ List.mem_cons_self) h'
  | closing _ h' items h'' hmark =>
    rw [hitems] at h''
    cases items with
    | nil =>
      obtain ⟨-, hrest⟩ := List.cons.inj h''
      exact .closed hrunning hrest (by rw [hstopping, h']; nofun)
    | cons item items =>
      obtain ⟨rfl, -⟩ := List.cons.inj h''
      exact absurd List.mem_cons_self hmark
  | closed _ h' => exact absurd (hitems.symm.trans h') (List.cons_ne_nil _ _)

theorem stands_moves {isOpen : Bool} (h : Moves shared come next) (htidy : Tidy isOpen come)
    (hstands : Stands shared isOpen) : Stands next (openAfter isOpen come) := by
  cases h with
  | rests => exact hstands
  | refuses => exact hstands
  | pushes event hroom =>
    obtain rfl : isOpen = true := htidy.1
    cases hstands with
    | opened hrunning hitems =>
      refine .opened hrunning fun hmem => ?_
      rw [items, ← List.append_assoc] at hmem
      rcases List.mem_append.1 hmem with hold | hnew
      · exact hitems hold
      · cases List.mem_singleton.1 hnew
  | starts now =>
    cases hstands with
    | opened hrunning => cases hrunning
    | closing hrunning => cases hrunning
    | closed _ hitems => exact .opened rfl (hitems ▸ List.not_mem_nil)
  | asks =>
    cases hstands with
    | opened hrunning hitems => exact .opened hrunning hitems
    | closing _ hstopping => cases hstopping
    | closed hrunning => cases hrunning
  | asksNobody =>
    cases hstands with
    | opened hrunning => cases hrunning
    | closing hrunning => cases hrunning
    | closed hrunning hitems => exact .closed hrunning hitems fun h => by cases h
  | marks hroom =>
    cases hstands with
    | opened hrunning hitems =>
      exact .closing hrunning rfl _ (List.append_assoc _ _ _).symm hitems
    | closing _ hstopping => cases hstopping
    | closed _ _ hstopping => exact absurd rfl hstopping
  | returns now =>
    cases hstands with
    | opened hrunning => cases hrunning
    | closing hrunning => cases hrunning
    | closed hrunning hitems => exact .closed hrunning hitems fun h => by cases h
  | waitsInVain => exact hstands.of_same rfl rfl rfl
  | takes event => exact hstands.of_same rfl rfl rfl
  | takesMark => exact hstands.of_same rfl rfl rfl
  | looks now => exact hstands.of_same htidy.1 rfl rfl
  | hands event => exact hstands.of_report rfl rfl rfl
  | ends now => exact hstands.of_mark rfl rfl rfl

/-! ## What a call of stop returns -/

omit [Timeline τ] in
theorem reports_append (items more : List (QueueItem τ)) :
    reports (items ++ more) = reports items ++ reports more := by
  induction items with
  | nil => rfl
  | cons item items ih =>
    cases item with
    | event event => exact congrArg (event :: ·) ih
    | stop => exact ih

omit [Timeline τ] in
/-- Once the worker has gone, a tidy schedule has left nothing. -/
theorem Stands.items_eq_nil {isOpen : Bool} (h : Stands shared isOpen)
    (hrunning : shared.recorder.isRunning = false) : shared.items = [] := by
  cases h with
  | opened h => exact absurd (h.symm.trans hrunning) nofun
  | closing h => exact absurd (h.symm.trans hrunning) nofun
  | closed _ hitems => exact hitems

/-- **A recording of its own reports**: actions that were made, from a recording that started
afresh, of what the worker gave to it since then. That is the first of the reports that were left in
the queue and of those that were let in since then; nothing was left after a tidy past. -/
structure OwnRecording (settings : CaptureSettings τ) (past : List (Deed τ)) (begin : τ)
    (during : List (Deed τ)) (now : τ) (actions : List Action) : Prop where
  made : ∃ serial, actions = ((Capture.fresh settings serial begin).feed
    (during.flatMap calls ++ [.stop now])).recorded
  heard : ∃ leftovers, accepted past = delivered past ++ leftovers
    ∧ delivered during <+: leftovers ++ accepted during ∧ (Tidy false past → leftovers = [])

/-- **Where the recording that there is comes from.** -/
inductive Origin (settings : CaptureSettings τ) (past : List (Deed τ)) (shared : Shared τ) : Prop
  /-- No recording has started yet. -/
  | unstarted (hstart : ∀ begin, Deed.started begin ∉ past)
      (hrunning : shared.recorder.isRunning = false)
      (hcapture : ∃ made, shared.recorder.capture = .initial settings made)
  | started (before : List (Deed τ)) (begin : τ) (during : List (Deed τ)) (serial : Nat)
      (hpast : past = before ++ .started begin :: during)
      (hstart : ∀ other, Deed.started other ∉ during)
      (hcapture : shared.recorder.capture
        = (Capture.fresh settings serial begin).feed (during.flatMap calls))
      (left : List (QueueItem τ)) (hleft : before.flatMap entered = before.flatMap served ++ left)
      (htidy : Tidy false before → left = [])

/-- **The history of a recorder**: the balance of its queue, how it stands, and where its recording
comes from. -/
structure History (settings : CaptureSettings τ) (past : List (Deed τ)) (shared : Shared τ) :
    Prop where
  balance : past.flatMap entered = past.flatMap served ++ shared.items
  stands : Tidy false past → Stands shared (openAfter false past)
  origin : Origin settings past shared

/-- A recording that has not started stays as it is. -/
theorem feed_initial (settings : CaptureSettings τ) (made : τ) (calls : List (CaptureCall τ)) :
    (Capture.initial settings made).feed calls = .initial settings made := by
  induction calls with
  | nil => rfl
  | cons call calls ih =>
    have hcall : (Capture.initial settings made).afterCall call = .initial settings made := by
      rw [Capture.afterCall, Capture.step_ended rfl rfl]
    rw [Capture.feed_cons, hcall, ih]

/-- A worker that has gone comes back with the next start. -/
theorem stopped_moves (h : Moves shared come next) (hstart : ∀ now, Deed.started now ∉ come)
    (hrunning : shared.recorder.isRunning = false) : next.recorder.isRunning = false := by
  cases h with
  | starts now => exact absurd List.mem_cons_self (hstart now)
  | looks now => cases hrunning
  | _ => first | exact hrunning | rfl

theorem Origin.settings_eq {settings : CaptureSettings τ} (h : Origin settings past shared) :
    shared.recorder.capture.settings = settings := by
  cases h with
  | unstarted _ _ hcapture =>
    obtain ⟨made, hcapture⟩ := hcapture
    rw [hcapture]
    rfl
  | started _ _ _ _ _ _ hcapture =>
    rw [hcapture, Capture.settings_feed]
    rfl

/-- No turn but a start changes where the recording comes from. -/
theorem Origin.moves {settings : CaptureSettings τ} (h : Origin settings past shared)
    (hmoves : Moves shared come next) (hstart : ∀ now, Deed.started now ∉ come) :
    Origin settings (past ++ come) next := by
  have hfeed := capture_moves hmoves hstart
  cases h with
  | unstarted hnone hrunning hcapture =>
    obtain ⟨made, hcapture⟩ := hcapture
    refine .unstarted (fun begin hmem => ?_) (stopped_moves hmoves hstart hrunning) ⟨made, ?_⟩
    · exact (List.mem_append.1 hmem).elim (hnone begin) (hstart begin)
    · rw [hfeed, hcapture, feed_initial]
  | started before begin during serial hpast hnone hcapture left hleft htidy =>
    refine .started before begin (during ++ come) serial ?_ (fun other hmem => ?_) ?_ left hleft
      htidy
    · rw [hpast, List.append_assoc, List.cons_append]
    · exact (List.mem_append.1 hmem).elim (hnone other) (hstart other)
    · rw [hfeed, hcapture, List.flatMap_append, feed_append]

/-- A start is all that comes of its turn. -/
theorem eq_of_started (h : Moves shared come next) {now : τ} (hmem : Deed.started now ∈ come) :
    come = [.started now] := by
  cases h with
  | starts other => rw [List.mem_singleton.1 hmem]
  | _ => simp at hmem

/-- A recording starts: what is in the queue is left from before. -/
theorem History.started {settings : CaptureSettings τ} {now : τ} (h : History settings past shared)
    (hmoves : Moves shared [.started now] next) :
    Origin settings (past ++ [.started now]) next := by
  have hsettings := h.origin.settings_eq
  have hbalance := h.balance
  have hstands := h.stands
  cases hmoves with
  | @starts capture queue capacity hand now =>
    refine .started past now [] capture.serial rfl (fun _ => List.not_mem_nil) ?_ _ hbalance
      fun htidy => ?_
    · change capture.start now = .fresh settings capture.serial now
      rw [Capture.start_eq, ← hsettings]
    · exact (hstands htidy).items_eq_nil rfl

/-- **Every turn carries the history on.** -/
theorem History.moves {settings : CaptureSettings τ} (h : History settings past shared)
    (hmoves : Moves shared come next) : History settings (past ++ come) next := by
  refine ⟨?_, fun htidy => ?_, ?_⟩
  · rw [List.flatMap_append, List.flatMap_append, h.balance, List.append_assoc, items_moves hmoves,
      List.append_assoc]
  · rw [tidy_append] at htidy
    have hstands := stands_moves hmoves htidy.2 (h.stands htidy.1)
    rw [openAfter, List.foldl_append]
    exact hstands
  · by_cases hstart : ∃ now, Deed.started now ∈ come
    · obtain ⟨now, hnow⟩ := hstart
      obtain rfl := eq_of_started hmoves hnow
      exact h.started hmoves
    · exact h.origin.moves hmoves fun now hnow => hstart ⟨now, hnow⟩

/-- At most one thing comes of a turn. -/
theorem eq_nil_or_singleton (h : Moves shared come next) : come = [] ∨ ∃ deed, come = [deed] := by
  cases h <;> simp

/-- A deed comes of one of the turns. -/
theorem exists_turn {deed : Deed τ} {early late : List (Deed τ)} {turns : List (Turn τ)}
    (h : shared.deeds turns = early ++ deed :: late) :
    ∃ first, shared.deeds first = early ∧ ∃ next, Moves (shared.after first) [deed] next := by
  induction turns generalizing shared early with
  | nil => exact absurd h (List.append_ne_nil_of_right_ne_nil _ (List.cons_ne_nil _ _)).symm
  | cons turn turns ih =>
    have hmoves := moves_turn shared turn
    rw [deeds_cons] at h
    rcases eq_nil_or_singleton hmoves with hcome | ⟨other, hcome⟩
    · rw [hcome] at h
      obtain ⟨first, hfirst, hnext⟩ := ih h
      refine ⟨turn :: first, ?_, hnext⟩
      rw [deeds_cons, hcome, hfirst]
      rfl
    · rw [hcome] at h hmoves
      cases early with
      | nil =>
        obtain ⟨rfl, -⟩ := List.cons.inj h
        exact ⟨[], rfl, _, hmoves⟩
      | cons head early =>
        obtain ⟨rfl, hrest⟩ := List.cons.inj h
        obtain ⟨first, hfirst, hnext⟩ := ih hrest
        refine ⟨turn :: first, ?_, hnext⟩
        rw [deeds_cons, hcome, hfirst]
        rfl

omit [Timeline τ] in
/-- What the worker has given to a recording, from what was put in. -/
theorem delivered_prefix {before during : List (Deed τ)} {left : List (QueueItem τ)} {begin : τ}
    (hleft : before.flatMap entered = before.flatMap served ++ left)
    (hbalance : (before ++ .started begin :: during).flatMap entered
      = (before ++ .started begin :: during).flatMap served ++ shared.items) :
    delivered during <+: reports left ++ accepted during := by
  rw [List.flatMap_append, List.flatMap_append, hleft, List.append_assoc,
    List.append_assoc] at hbalance
  have hrest : left ++ during.flatMap entered = during.flatMap served ++ shared.items :=
    List.append_cancel_left hbalance
  rw [accepted, ← reports_append, hrest, reports_append]
  exact List.prefix_append _ _

/-- **A call of stop returns a recording of its own reports**, or nothing if none has started. -/
theorem returns_own (settings : CaptureSettings τ) (capacity : Option Nat) (made : τ)
    (turns : List (Turn τ)) {early late : List (Deed τ)} {now : τ} {actions : List Action}
    (h : (atRest (Recorder.initial (Capture.initial settings made) capacity)).deeds turns
      = early ++ .returned now actions :: late) :
    ((∀ begin, Deed.started begin ∉ early) ∧ actions = [])
    ∨ ∃ past begin during, early = past ++ .started begin :: during
      ∧ (∀ other, Deed.started other ∉ during)
      ∧ OwnRecording settings past begin during now actions := by
  obtain ⟨first, rfl, next, hmoves⟩ := exists_turn h
  have hbegin : History settings []
      (atRest (Recorder.initial (Capture.initial settings made) capacity)) :=
    ⟨rfl, fun _ => .closed rfl rfl nofun, .unstarted (fun _ => List.not_mem_nil) rfl ⟨made, rfl⟩⟩
  have hhistory := invariant (fun hmoves h => History.moves h hmoves) hbegin first
  rw [List.nil_append] at hhistory
  generalize (atRest (Recorder.initial (Capture.initial settings made) capacity)).deeds first = past
    at hhistory
  generalize (atRest (Recorder.initial (Capture.initial settings made) capacity)).after first = shared
    at hhistory hmoves
  obtain ⟨hbalance, -, horigin⟩ := hhistory
  have hactions : actions = (shared.recorder.capture.feed [.stop now]).recorded := by
    cases hmoves with
    | returns => rw [ended_eq_feed]
  cases horigin with
  | unstarted hstart _ hcapture =>
    obtain ⟨made, hcapture⟩ := hcapture
    left
    refine ⟨hstart, ?_⟩
    rw [hactions, hcapture, feed_initial]
    rfl
  | started before begin during serial hpast hstart hcapture left hleft htidy =>
    right
    refine ⟨before, begin, during, hpast, hstart, ⟨serial, ?_⟩, reports left, ?_, ?_, ?_⟩
    · rw [hactions, hcapture, feed_append]
    · rw [accepted, hleft, reports_append]
      rfl
    · rw [hpast] at hbalance
      exact delivered_prefix hleft hbalance
    · intro hbefore
      rw [htidy hbefore]
      rfl

/-! ## A tidy schedule, and one that is not -/

/-- A recorder that is new. -/
def unused : Shared Quantity := atRest (Recorder.initial Capture.usual none)

/-- One key for each of two recordings. -/
def twoRecordings : List (Turn Quantity) :=
  [.start (.whole 0), .push (press "A" (.whole 1)), .work (.whole 1), .work (.whole 1), .stop,
    .wait (.whole 2), .work (.whole 2), .work (.whole 2), .wait (.whole 2), .start (.whole 3),
    .push (press "Tab" (.whole 4)), .work (.whole 4), .work (.whole 4), .stop, .wait (.whole 5),
    .work (.whole 5), .work (.whole 5), .wait (.whole 5)]

theorem deeds_twoRecordings : ∃ first second, unused.deeds twoRecordings =
    [.started (.whole 0), .pushed (press "A" (.whole 1)) true, .handed (press "A" (.whole 1)),
      .marked, .ended (.whole 2), .returned (.whole 2) first, .started (.whole 3),
      .pushed (press "Tab" (.whole 4)) true, .handed (press "Tab" (.whole 4)), .marked,
      .ended (.whole 5)] ++ [.returned (.whole 5) second] :=
  ⟨_, _, rfl⟩

theorem returns_own_second : ∃ early actions,
    unused.deeds twoRecordings = early ++ [.returned (.whole 5) actions] ∧ Tidy false early
    ∧ ∃ past begin during, early = past ++ .started begin :: during
      ∧ (∀ other, Deed.started other ∉ during)
      ∧ OwnRecording Capture.usual.settings past begin during (.whole 5) actions := by
  obtain ⟨first, second, hdeeds⟩ := deeds_twoRecordings
  refine ⟨_, second, hdeeds, by simp [Tidy, Deed.IsTidy, Deed.opens], ?_⟩
  have hown := returns_own Capture.usual.settings none (.whole 0) twoRecordings hdeeds
  apply hown.resolve_left
  rintro ⟨hstart, -⟩
  exact hstart (.whole 0) List.mem_cons_self

/-- A key goes down before anything is recorded, and nothing happens from the start to the end. -/
def earlyTurns : List (Turn Quantity) :=
  [.push (press "A" (.whole 0)), .start (.whole 0), .work (.whole 0), .work (.whole 0), .stop,
    .wait (.whole 0), .work (.whole 0), .work (.whole 0), .wait (.whole 0)]

/-- **A report from before the start is recorded**: there is an action although no report was let in
since then. -/
theorem early_report_recorded : ∃ past begin during now actions,
    unused.deeds earlyTurns = past ++ .started begin :: during ++ [.returned now actions]
    ∧ accepted during = [] ∧ actions.length = 1 := by
  have hdeeds : ∃ actions, unused.deeds earlyTurns =
      [.pushed (press "A" (.whole 0)) true] ++ .started (.whole 0) ::
        [.handed (press "A" (.whole 0)), .marked, .ended (.whole 0)]
        ++ [.returned (.whole 0) actions] ∧ actions.length = 1 :=
    ⟨_, rfl, by decide +kernel⟩
  obtain ⟨actions, hdeeds, hlength⟩ := hdeeds
  exact ⟨_, _, _, _, actions, hdeeds, rfl, hlength⟩

end Shared
end Recorder
end DesktopMacro
