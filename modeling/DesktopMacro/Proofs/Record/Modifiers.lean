/-
Which modifiers a recording counts as held.

A key is down when it has gone down and has not gone up since. A recording does not keep the keys:
it has one flag for a family of two, and every report of a key of the family sets it. So the flag of
a family is set when the last report of the family was one of a key that went down. It is never set
without a key of the family that is down; but a key that goes up clears it, even while the other key
of the family is still down. The flags are right all along exactly when this does not happen, and
then a key that goes down is a combination exactly when Ctrl or Alt is down.
-/
import DesktopMacro.Proofs.Record.Idle
import DesktopMacro.Proofs.Record.Queueing

set_option autoImplicit false

namespace DesktopMacro

/-! ## Reports and families -/

/-- A family of modifiers. -/
inductive ModifierFamily where
  | ctrl
  | alt
  | shift
deriving DecidableEq, Repr

namespace ModifierFamily

/-- Is a key in the family? -/
def has : ModifierFamily → String → Bool
  | ctrl => Key.isCtrl
  | alt => Key.isAlt
  | shift => Key.isShift

/-- No key is in two families. -/
theorem disjoint : (∀ key ∈ Key.ctrls, Key.isAlt key = false ∧ Key.isShift key = false)
    ∧ ∀ key ∈ Key.alts, Key.isShift key = false := by decide

end ModifierFamily

namespace Held

/-- The flag of a family. -/
def flag (held : Held) : ModifierFamily → Bool
  | .ctrl => held.ctrl
  | .alt => held.alt
  | .shift => held.shift

/-- A key that goes down or up sets the flag of its family, and no other one. -/
theorem flag_turn (held : Held) (key : String) (down : Bool) (family : ModifierFamily) :
    (held.turn key down).flag family
      = if family.has key then down else held.flag family := by
  unfold turn
  by_cases hctrl : Key.isCtrl key = true
  · obtain ⟨halt, hshift⟩ := ModifierFamily.disjoint.1 key (List.contains_iff_mem.1 hctrl)
    cases family <;> simp [flag, ModifierFamily.has, hctrl, halt, hshift]
  · by_cases halt : Key.isAlt key = true
    · have hshift := ModifierFamily.disjoint.2 key (List.contains_iff_mem.1 halt)
      cases family <;> simp [flag, ModifierFamily.has, hctrl, halt, hshift]
    · by_cases hshift : Key.isShift key = true <;>
        cases family <;> simp [flag, ModifierFamily.has, hctrl, halt, hshift]

end Held

namespace InputEvent

variable {τ : Type}

/-- Is it a report of one of some keys? -/
def isOf (p : String → Bool) : InputEvent τ → Bool
  | .key event => p (Key.normalize event.key)
  | .mouse _ => false

/-- Is it a report of a key that went down? -/
def isDown : InputEvent τ → Bool
  | .key event => event.down
  | .mouse _ => false

end InputEvent

/-- **Keys that have gone down and not up since**: one of the keys went down, and none of them has
gone up in any later report. -/
def AreDown {τ : Type} (p : String → Bool) (reports : List (InputEvent τ)) : Prop :=
  ∃ before report after, reports = before ++ report :: after ∧ report.isOf p = true
    ∧ report.isDown = true ∧ ∀ later ∈ after, later.isOf p = true → later.isDown = true

/-- **A key is down**: it has gone down and not up since. -/
abbrev IsDown {τ : Type} (key : String) (reports : List (InputEvent τ)) : Prop :=
  AreDown (· == key) reports

section Reports

variable {τ : Type} {p : String → Bool} {reports : List (InputEvent τ)} {report : InputEvent τ}

theorem not_areDown_nil : ¬ AreDown p ([] : List (InputEvent τ)) := by
  rintro ⟨before, report, after, hsplit, -⟩
  simp at hsplit

/-- **One more report**: a report of the keys says whether they are down, and any other one leaves
that as it was. -/
theorem areDown_concat : AreDown p (reports ++ [report])
    ↔ (report.isOf p = true ∧ report.isDown = true)
      ∨ (report.isOf p = false ∧ AreDown p reports) := by
  constructor
  · rintro ⟨before, down, after, hsplit, hof, hdown, hlater⟩
    -- The last report is the one that went down, or it is one of those after it.
    rcases List.eq_nil_or_concat after with rfl | ⟨middle, last, rfl⟩
    · obtain ⟨-, hlast⟩ := List.append_inj' hsplit rfl
      cases hlast
      exact .inl ⟨hof, hdown⟩
    · rw [List.concat_eq_append, ← List.cons_append, ← List.append_assoc] at hsplit
      obtain ⟨hreports, hlast⟩ := List.append_inj' hsplit rfl
      cases hlast
      rw [List.concat_eq_append, List.forall_mem_append] at hlater
      by_cases hlast : report.isOf p = true
      · exact .inl ⟨hlast, hlater.2 report List.mem_cons_self hlast⟩
      · exact .inr ⟨by simpa using hlast, before, down, middle, hreports, hof, hdown, hlater.1⟩
  · rintro (⟨hof, hdown⟩ | ⟨hof, before, down, after, rfl, hdownOf, hdown, hlater⟩)
    · exact ⟨reports, report, [], rfl, hof, hdown, by simp⟩
    · refine ⟨before, down, after ++ [report], by simp, hdownOf, hdown, ?_⟩
      rw [List.forall_mem_append]
      refine ⟨hlater, ?_⟩
      simp [hof]

/-- If the keys of a family are down by the last report of them, then the key of that report is. -/
theorem exists_isDown {family : ModifierFamily} (h : AreDown family.has reports) :
    ∃ key, family.has key = true ∧ IsDown key reports := by
  obtain ⟨before, down, after, rfl, hof, hdown, hlater⟩ := h
  cases down with
  | mouse event => cases hof
  | key event =>
    refine ⟨Key.normalize event.key, hof, before, .key event, after, rfl, beq_self_eq_true _, hdown,
      ?_⟩
    intro later hmem hsame
    refine hlater later hmem ?_
    cases later with
    | mouse event => cases hsame
    | key other =>
      have hname : Key.normalize other.key = Key.normalize event.key := eq_of_beq hsame
      change family.has (Key.normalize other.key) = true
      rw [hname]
      exact hof

/-! ## The flags -/

/-- The modifiers that count as held after reports from the start. -/
def heldAfter (reports : List (InputEvent τ)) : Held := reports.foldl Held.after .none

theorem heldAfter_concat (reports : List (InputEvent τ)) (report : InputEvent τ) :
    heldAfter (reports ++ [report]) = (heldAfter reports).after report :=
  List.foldl_concat ..

theorem Held.flag_after (held : Held) (report : InputEvent τ) (family : ModifierFamily) :
    (held.after report).flag family
      = if report.isOf family.has then report.isDown else held.flag family := by
  cases report with
  | key event => exact held.flag_turn (Key.normalize event.key) event.down family
  | mouse event => rfl

/-- **A flag is set when the last report of its family was one of a key that went down.** -/
theorem flag_heldAfter (reports : List (InputEvent τ)) (family : ModifierFamily) :
    (heldAfter reports).flag family = true ↔ AreDown family.has reports := by
  induction reports using List.reverseRecOn with
  | nil =>
    refine iff_of_false ?_ not_areDown_nil
    cases family <;> exact Bool.false_ne_true
  | append_singleton reports report ih =>
    rw [heldAfter_concat, Held.flag_after, areDown_concat]
    by_cases hof : report.isOf family.has = true
    · simp [hof]
    · simp [hof, ih]

/-- **The flags are right**: the flag of a family is set exactly when a key of it is down. -/
def FlagsRight (held : Held) (reports : List (InputEvent τ)) : Prop :=
  ∀ family : ModifierFamily,
    held.flag family = true ↔ ∃ key, family.has key = true ∧ IsDown key reports

/-- **Modifiers go up alone**: when a key of a family goes up, no other key of it is down. -/
def GoUpAlone (reports : List (InputEvent τ)) : Prop :=
  ∀ before report after, reports = before ++ report :: after → report.isDown = false →
    ∀ family : ModifierFamily, report.isOf family.has = true →
      ∀ key, family.has key = true → IsDown key before → report.isOf (· == key) = true

theorem GoUpAlone.left {others : List (InputEvent τ)} (h : GoUpAlone (reports ++ others)) :
    GoUpAlone reports := by
  intro before report after hsplit
  refine h before report (after ++ others) ?_
  rw [hsplit, List.append_assoc, List.cons_append]

/-- A report of a key is one of its family. -/
theorem isOf_family {family : ModifierFamily} {key : String} (hkey : family.has key = true)
    (h : report.isOf (· == key) = true) : report.isOf family.has = true := by
  cases report with
  | mouse event => cases h
  | key event =>
    change family.has (Key.normalize event.key) = true
    rw [eq_of_beq h]
    exact hkey

/-- If modifiers go up alone, a family of which a key is down was last reported as going down. The
induction is on the reports from the start, with the last one apart. -/
theorem GoUpAlone.areDown (h : GoUpAlone reports) {family : ModifierFamily} {key : String}
    (hkey : family.has key = true) (hdown : IsDown key reports) : AreDown family.has reports := by
  induction reports using List.reverseRecOn with
  | nil => exact absurd hdown not_areDown_nil
  | append_singleton reports report ih =>
    rw [areDown_concat]
    rcases areDown_concat.1 hdown with ⟨hof, hwent⟩ | ⟨hother, hbefore⟩
    · exact .inl ⟨isOf_family hkey hof, hwent⟩
    · by_cases hfamily : report.isOf family.has = true
      · refine .inl ⟨hfamily, ?_⟩
        -- A key of the family that goes up would have to be the one that is down.
        by_contra hup
        have halone := h reports report [] rfl (by simpa using hup) family hfamily key hkey hbefore
        rw [halone] at hother
        cases hother
      · exact .inr ⟨by simpa using hfamily, ih h.left hbefore⟩

/-- **The flags are right all along exactly when modifiers go up alone.** -/
theorem flagsRight_iff_goUpAlone (reports : List (InputEvent τ)) :
    (∀ before after, reports = before ++ after → FlagsRight (heldAfter before) before)
      ↔ GoUpAlone reports := by
  constructor
  · intro h before report after hsplit hup family hfamily key hkey hdown
    by_contra hother
    have hright := h (before ++ [report]) after (by simp [hsplit]) family
    -- The other key stays down, but the report that clears the flag is the last of the family.
    have hstill : IsDown key (before ++ [report]) :=
      areDown_concat.2 (.inr ⟨by simpa using hother, hdown⟩)
    have hflag := (flag_heldAfter _ family).1 (hright.2 ⟨key, hkey, hstill⟩)
    rcases areDown_concat.1 hflag with ⟨-, hwent⟩ | ⟨hnone, -⟩
    · rw [hup] at hwent
      cases hwent
    · rw [hfamily] at hnone
      cases hnone
  · rintro h before after rfl family
    rw [flag_heldAfter]
    exact ⟨exists_isDown, fun ⟨key, hkey, hdown⟩ => h.left.areDown hkey hdown⟩

end Reports

/-! ## The recording -/

namespace CaptureCall

/-- A recording that goes on hears part of its reports in part of its calls. -/
theorem exists_of_heard {τ : Type} {calls : List (CaptureCall τ)} (h : ∀ call ∈ calls, call.GoesOn)
    {before after : List (InputEvent τ)} (hheard : heard calls = before ++ after) :
    ∃ first rest, calls = first ++ rest ∧ heard first = before := by
  -- By induction on the calls: a look at the clock goes with the reports that are still to come.
  induction calls generalizing before with
  | nil => exact ⟨[], [], rfl, (List.append_eq_nil_iff.1 hheard.symm).1.symm⟩
  | cons call calls ih =>
    have hrest : ∀ other ∈ calls, other.GoesOn :=
      fun other hother => h other (List.mem_cons_of_mem call hother)
    cases before with
    | nil => exact ⟨[], call :: calls, rfl, rfl⟩
    | cons report before =>
      cases call with
      | handle event =>
        obtain ⟨rfl, hothers⟩ := List.cons.inj hheard
        obtain ⟨first, rest, rfl, hfirst⟩ := ih hrest hothers
        exact ⟨.handle event :: first, rest, rfl, congrArg (event :: ·) hfirst⟩
      | poll now =>
        obtain ⟨first, rest, rfl, hfirst⟩ := ih hrest hheard
        exact ⟨.poll now :: first, rest, rfl, hfirst⟩
      | flush now => exact (h _ List.mem_cons_self).elim
      | stop now => exact (h _ List.mem_cons_self).elim

end CaptureCall

namespace Capture

open CaptureCall

variable {τ : Type} [Timeline τ] {Safe : τ → Prop}

/-- **A recording goes on**: it is sound, and counts modifiers as held. -/
structure Going (Safe : τ → Prop) (held : Held) (capture : Capture τ) : Prop where
  sound : capture.Sound Safe
  isRecording : capture.isRecording = true
  held : capture.held = held

/-- **One call**: a recording that goes on counts as held what a report says, and a look at the
clock leaves that as it was. -/
theorem Going.afterCall {capture : Capture τ} {held : Held} (h : capture.Going Safe held)
    {call : CaptureCall τ} (hgoing : call.GoesOn) (htime : Safe call.time)
    (hwritable : ∀ event ∈ heard [call], event.IsWritable) :
    (capture.afterCall call).Going Safe ((heard [call]).foldl Held.after held) := by
  have hheld := h.held
  subst hheld
  unfold Capture.afterCall
  cases call with
  | handle event =>
    obtain ⟨actions, after, hstep, hextends⟩ :=
      delivers_handle h.sound h.isRecording (hwritable event List.mem_cons_self) htime
    rw [run, hstep]
    exact ⟨hextends.sound, hextends.isRecording.trans h.isRecording, hextends.held⟩
  | poll now =>
    have hnow : Safe now := htime
    obtain ⟨actions, after, hstep, hextends⟩ := delivers_poll h.sound hnow
    rw [run, hstep]
    exact ⟨hextends.sound, hextends.isRecording.trans h.isRecording, hextends.held⟩
  | flush now => exact hgoing.elim
  | stop now => exact hgoing.elim

/-- **Any calls**, one after the other. -/
theorem Going.feed {capture : Capture τ} {held : Held} (h : capture.Going Safe held)
    {calls : List (CaptureCall τ)} (hgoing : ∀ call ∈ calls, call.GoesOn)
    (htimes : ∀ call ∈ calls, Safe call.time)
    (hwritable : ∀ event ∈ heard calls, event.IsWritable) :
    (capture.feed calls).Going Safe ((heard calls).foldl Held.after held) := by
  induction calls generalizing capture held with
  | nil => exact h
  | cons call calls ih =>
    obtain ⟨hcall, hcalls⟩ := List.forall_mem_cons.1 hgoing
    obtain ⟨htime, htimes⟩ := List.forall_mem_cons.1 htimes
    have hheard : heard (call :: calls) = heard [call] ++ heard calls :=
      heard_append (List.forall_mem_singleton.2 hcall) calls
    rw [hheard, List.forall_mem_append] at hwritable
    rw [feed_cons, hheard, List.foldl_append]
    exact ih (h.afterCall hcall htime hwritable.1) hcalls htimes hwritable.2

end Capture

/-! ## Combinations -/

/-- An action that presses several keys at once. -/
def Action.IsCombination (action : Action) : Prop :=
  ∃ header task, action = .task header (.keyboard task) ∧ task.mode = .combination

namespace Capture

open CaptureCall

variable {τ : Type} [Timeline τ] {Safe : τ → Prop}

/-- A recorded action is a combination if it holds one. -/
theorem isCombination_iff {charDelay : Int} {header : Action.Header} {task : Action.Task}
    (h : Recordable charDelay task) : (Action.task header task).IsCombination
      ↔ ∃ keys, Contribution.combination keys ∈ Contribution.ofAction (.task header task) := by
  constructor
  · rintro ⟨_, spec, heq, hmode⟩
    cases heq
    cases h with
    | combination held key hheld => exact ⟨_, List.mem_singleton_self _⟩
    | text text htext => cases hmode
    | keyPress key => cases hmode
  · rintro ⟨keys, hkeys⟩
    cases h with
    | combination held key hheld => exact ⟨_, _, rfl, rfl⟩
    | text text htext =>
      obtain ⟨c, -, hc⟩ := List.mem_map.1 hkeys
      cases hc
    | keyPress key => cases List.mem_singleton.1 hkeys
    | mouse x y wheel button hx hy hwheel => cases List.mem_singleton.1 hkeys

/-- A key contributes a combination exactly when Ctrl or Alt counts as held. -/
theorem combination_mem_ofKey (layout : Layout) {held : Held} {key : String}
    (h : Key.isModifier key = false) :
    (∃ keys, Contribution.combination keys ∈ Contribution.ofKey layout held key)
      ↔ (held.ctrl || held.alt) = true := by
  unfold Contribution.ofKey
  rw [if_neg (by simp [h])]
  by_cases hheld : (held.ctrl || held.alt) = true
  · rw [if_pos hheld]
    exact iff_of_true ⟨_, List.mem_singleton_self _⟩ hheld
  · rw [if_neg hheld]
    refine iff_of_false ?_ hheld
    rintro ⟨keys, hkeys⟩
    split at hkeys <;> cases List.mem_singleton.1 hkeys

omit [Timeline τ] in
/-- No combination waits. -/
theorem combination_not_mem_waiting (capture : Capture τ) (keys : List String) :
    Contribution.combination keys ∉ capture.waiting := by
  intro hmem
  obtain ⟨c, -, hc⟩ := List.mem_map.1 hmem
  cases hc

/-- **A key that goes down becomes a combination exactly when Ctrl or Alt counts as held.** -/
theorem Going.combination_iff {capture : Capture τ} {held : Held} (h : capture.Going Safe held)
    {event : KeyEvent τ} (hdown : event.down = true)
    (hkey : Key.isModifier (Key.normalize event.key) = false) (htime : Safe event.time) :
    ∃ actions after, capture.step (handleKey event) = (.ok actions, after)
      ∧ ((∃ action ∈ actions, action.IsCombination) ↔ (held.ctrl || held.alt) = true) := by
  have hheld := h.held
  subst hheld
  obtain ⟨actions, after, hstep, hextends⟩ := delivers_handleKey h.sound h.isRecording htime
  have hcontent := hextends.content
  rw [Contribution.ofReport, hdown, if_pos rfl] at hcontent
  refine ⟨actions, after, hstep, ?_⟩
  rw [← combination_mem_ofKey capture.settings.layout hkey]
  constructor
  · rintro ⟨action, haction, hcombination⟩
    obtain ⟨header, task, rfl, hmade⟩ := hextends.made action haction
    obtain ⟨keys, hkeys⟩ := (isCombination_iff hmade.task).1 hcombination
    -- What was waiting or comes out is the same in sum, and a combination never waits.
    have hmem := List.mem_append_left after.waiting (List.mem_flatMap.2 ⟨_, haction, hkeys⟩)
    rw [hcontent] at hmem
    exact ⟨keys, (List.mem_append.1 hmem).resolve_left (combination_not_mem_waiting capture keys)⟩
  · rintro ⟨keys, hkeys⟩
    have hmem := List.mem_append_right capture.waiting hkeys
    rw [← hcontent] at hmem
    obtain ⟨action, haction, hholds⟩ := List.mem_flatMap.1
      ((List.mem_append.1 hmem).resolve_right (combination_not_mem_waiting after keys))
    obtain ⟨header, task, rfl, hmade⟩ := hextends.made action haction
    exact ⟨_, haction, (isCombination_iff hmade.task).2 ⟨keys, hholds⟩⟩

/-! ## The law -/

/-- **A recording follows the modifiers** of its reports. After any of the calls, a flag is set only
while a key of its family is down; all flags are right all along exactly when modifiers go up alone;
and then a key that goes down and is no modifier becomes a combination exactly when a key of Ctrl or
of Alt is down. -/
structure FollowsModifiers (capture : Capture τ) (begin : τ) (calls : List (CaptureCall τ)) :
    Prop where
  sets : ∀ first rest, calls = first ++ rest → ∀ family : ModifierFamily,
    ((capture.start begin).feed first).held.flag family = true →
      ∃ key, family.has key = true ∧ IsDown key (heard first)
  right : (∀ first rest, calls = first ++ rest →
      FlagsRight ((capture.start begin).feed first).held (heard first))
    ↔ GoUpAlone (heard calls)
  combines : GoUpAlone (heard calls) → ∀ first event rest,
    calls = first ++ .handle (.key event) :: rest → event.down = true →
      Key.isModifier (Key.normalize event.key) = false →
        ∃ actions after,
          ((capture.start begin).feed first).step (handleKey event) = (.ok actions, after)
          ∧ ((∃ action ∈ actions, action.IsCombination)
            ↔ ∃ key, (Key.isCtrl key || Key.isAlt key) = true ∧ IsDown key (heard first))

theorem followsModifiers {capture : Capture τ} {begin : τ} {calls : List (CaptureCall τ)}
    (hstart : (capture.start begin).Sound Safe) (hgoing : ∀ call ∈ calls, call.GoesOn)
    (htimes : ∀ call ∈ calls, Safe call.time)
    (hwritable : ∀ event ∈ heard calls, event.IsWritable) :
    capture.FollowsModifiers begin calls := by
  -- What holds after all calls holds after the first ones of them.
  have hfed : ∀ first rest, calls = first ++ rest →
      ((capture.start begin).feed first).Going Safe (heldAfter (heard first)) := by
    rintro first rest rfl
    rw [List.forall_mem_append] at hgoing htimes
    rw [heard_append hgoing.1, List.forall_mem_append] at hwritable
    have hbegin : (capture.start begin).Going Safe .none := ⟨hstart, rfl, rfl⟩
    exact hbegin.feed hgoing.1 htimes.1 hwritable.1
  have hheard : ∀ first rest, calls = first ++ rest → heard calls = heard first ++ heard rest := by
    rintro first rest rfl
    exact heard_append (fun call hcall => hgoing call (List.mem_append_left _ hcall)) rest
  refine ⟨?_, ?_, ?_⟩
  · intro first rest hsplit family hflag
    rw [(hfed first rest hsplit).held, flag_heldAfter] at hflag
    exact exists_isDown hflag
  · rw [← flagsRight_iff_goUpAlone]
    constructor
    · intro h before after hsplit
      obtain ⟨first, rest, hcalls, rfl⟩ := exists_of_heard hgoing hsplit
      rw [← (hfed first rest hcalls).held]
      exact h first rest hcalls
    · intro h first rest hsplit
      rw [(hfed first rest hsplit).held]
      exact h (heard first) (heard rest) (hheard first rest hsplit)
  · intro halone first event rest hsplit hdown hkey
    have hgoes := hfed first _ hsplit
    have htime : Safe event.time :=
      htimes (.handle (.key event)) (hsplit ▸ List.mem_append_right _ List.mem_cons_self)
    obtain ⟨actions, after, hstep, hcombination⟩ := hgoes.combination_iff hdown hkey htime
    refine ⟨actions, after, hstep, hcombination.trans ?_⟩
    rw [hheard first _ hsplit] at halone
    have hright := (flagsRight_iff_goUpAlone _).2 halone.left (heard first) [] (by simp)
    have hctrl := hright .ctrl
    have halt := hright .alt
    rw [Bool.or_eq_true]
    constructor
    · rintro (hflag | hflag)
      · obtain ⟨key, hhas, hisDown⟩ := hctrl.1 hflag
        exact ⟨key, by rw [Bool.or_eq_true]; exact .inl hhas, hisDown⟩
      · obtain ⟨key, hhas, hisDown⟩ := halt.1 hflag
        exact ⟨key, by rw [Bool.or_eq_true]; exact .inr hhas, hisDown⟩
    · rintro ⟨key, hhas, hisDown⟩
      rw [Bool.or_eq_true] at hhas
      rcases hhas with hhas | hhas
      · exact .inl (hctrl.2 ⟨key, hhas, hisDown⟩)
      · exact .inr (halt.2 ⟨key, hhas, hisDown⟩)

/-- **The flags follow the modifiers as far as these go up alone**, in doubles whose gaps are
finite. -/
theorem modifiers_followed (capture : Capture Quantity) (begin : Quantity)
    (calls : List (CaptureCall Quantity)) {interval : Int} {quiet : Binary64}
    (hinterval : Pause.seconds interval = .ok quiet) (hquiet : capture.settings.quiet = .real quiet)
    (hgaps : ∀ a ∈ begin :: calls.map time, ∀ b ∈ begin :: calls.map time,
      Quantity.HasFiniteGap a b)
    (hgoing : ∀ call ∈ calls, call.GoesOn) (hwritable : ∀ event ∈ heard calls, event.IsWritable) :
    capture.FollowsModifiers begin calls := by
  obtain ⟨hfinite, hsign⟩ := Quantity.seconds_finite hinterval
  have hsteady := Quantity.steady_between hgaps hfinite hsign
  rw [← hquiet] at hsteady
  have hbetween : ∀ a ∈ begin :: calls.map time, Quantity.Between _ a :=
    fun a ha => Quantity.between_of_mem hgaps ha
  exact followsModifiers (sound_start hsteady (hbetween begin List.mem_cons_self)) hgoing
    (fun call hcall => hbetween _ (List.mem_cons_of_mem _ (List.mem_map_of_mem hcall))) hwritable

/-- A report of a key at a whole second. -/
def report (key : String) (down : Bool) (second : Int) : CaptureCall Quantity :=
  .handle (.key ⟨key, down, .whole second⟩)

/-- A letter goes down while Ctrl is down, and then Ctrl goes up and Alt goes down. -/
def copying : List (CaptureCall Quantity) :=
  [report "ctrl" true 1, report "C" true 2, .poll (.whole 3), report "LeftCtrl" false 4,
    report "RightAlt" true 5]

theorem modifiers_followed_copying :
    Pause.seconds 750 = .ok (Binary64.div (.ofInt 750) (.ofInt 1000))
    ∧ usual.settings.quiet = .real (Binary64.div (.ofInt 750) (.ofInt 1000))
    ∧ (∀ a ∈ .whole 0 :: copying.map time, ∀ b ∈ .whole 0 :: copying.map time,
      Quantity.HasFiniteGap a b)
    ∧ (∀ call ∈ copying, call.GoesOn) ∧ (∀ event ∈ heard copying, event.IsWritable)
    ∧ usual.FollowsModifiers (.whole 0) copying := by
  have hinterval : Pause.seconds 750 = .ok (Binary64.div (.ofInt 750) (.ofInt 1000)) := by rfl
  have hgaps : ∀ a ∈ Quantity.whole 0 :: copying.map time,
      ∀ b ∈ Quantity.whole 0 :: copying.map time, Quantity.HasFiniteGap a b := by
    decide +kernel
  have hgoing : ∀ call ∈ copying, call.GoesOn := by simp [copying, report, GoesOn]
  have hwritable : ∀ event ∈ heard copying, event.IsWritable := by decide
  exact ⟨hinterval, rfl, hgaps, hgoing, hwritable,
    modifiers_followed usual (.whole 0) copying hinterval rfl hgaps hgoing hwritable⟩

/-- Both keys of Ctrl go down, and the left one goes up first. -/
def bothCtrls : List (CaptureCall Quantity) :=
  [report "LeftCtrl" true 1, report "RightCtrl" true 2, report "LeftCtrl" false 3]

/-- **A key of Ctrl that goes up hides the other one**: the right key is still down, but the flag is
not set, and a letter that goes down then is gathered as text. -/
theorem ctrl_hidden :
    IsDown "RightCtrl" (heard bothCtrls)
      ∧ ((usual.start (.whole 0)).feed bothCtrls).held.flag .ctrl = false
      ∧ (((usual.start (.whole 0)).feed bothCtrls).step
          (handleKey ⟨"C", true, .whole 4⟩)).1 = .ok []
      ∧ (((usual.start (.whole 0)).feed bothCtrls).step
          (handleKey ⟨"C", true, .whole 4⟩)).2.pending = ["c"] := by
  refine ⟨⟨[.key ⟨"LeftCtrl", true, .whole 1⟩], .key ⟨"RightCtrl", true, .whole 2⟩,
    [.key ⟨"LeftCtrl", false, .whole 3⟩], rfl, by decide, rfl, by decide⟩, ?_, ?_, ?_⟩
  · rfl
  · rfl
  · rfl

end Capture
end DesktopMacro
