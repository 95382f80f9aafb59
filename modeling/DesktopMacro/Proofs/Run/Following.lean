/-
Following a document does what the document says.

The directives are taken one by one: what is done about a call, a click and a wait, each with its
deeds and with what it comes to. A document is the three of them in a row, where a click that is
made or a wait ends it.

A lookup is any run, and a collaborator fails with whatever it likes. So it cannot be said that
following a document never fails with a fault of a directive: a lookup or a collaborator may come
with one of its own, which is passed on as it is. Whether a pause is slept through is not the matter
of this file either.
-/
import DesktopMacro.Proofs.Run.Deeds

set_option autoImplicit false

namespace DesktopMacro
namespace Directive

open Run

variable {ω : Type}

section Parts

variable {team : Collaborators ω} {lookup : Option (Lookup ω)} {follower : Follower}

/-! ## Directive by directive -/

theorem outward_log (text : String) (level : Level) (m : Machine ω) :
    ((log text level : Run ω Unit).on m).2.outward = m.outward := m.outward_log level text

/-- A malformed directive is passed over by an action that tolerates errors, and fails otherwise. -/
theorem on_reject (follower : Follower) (fault : DirectiveFault) (m : Machine ω) :
    ∃ result m', (follower.reject fault).on m = (result, m') ∧ m.outward = m'.outward ∧
      (result = .ok () ∧ follower.isTolerant = true ∨
        ∃ f, result = .error f ∧ Blames follower [] f) := by
  unfold Follower.reject
  by_cases hshown : fault.shown.isWritable = true
  · simp only [hshown, Bool.not_true, Bool.false_eq_true, if_false]
    cases htolerant : follower.isTolerant with
    | true => exact ⟨_, _, rfl, (m.outward_log _ _).symm, .inl ⟨rfl, rfl⟩⟩
    | false => exact ⟨_, _, rfl, (Machine.outward_mark rfl m).symm,
        .inr ⟨_, rfl, .malformed htolerant fault⟩⟩
  · simp only [hshown, Bool.not_false, if_true]
    exact ⟨_, _, on_bind_error (on_fail _ m), (Machine.outward_mark rfl m).symm,
      .inr ⟨_, rfl, .unwritable⟩⟩

/-- What is done about a sequence that is asked for. -/
structure CallPart (follower : Follower) (available : Bool) (name values : Json)
    (deeds : List Deed) (result : Except Failure Unit) : Prop where
  form : deeds = [] ∨ ∃ s texts found, deeds = [.call s texts found] ∧
    name = .text s ∧ Text.isEmptyOrBlank s = false ∧ Gives values texts
  fails : ∀ f, result = .error f → Blames follower deeds f
  strict : follower.isTolerant = false →
    (∃ s texts, deeds = [.call s texts (.ok true)]) ∨ ∃ f, result = .error f
  performed : result = .ok () → available = true →
    (∃ s texts, name = .text s ∧ Text.isEmptyOrBlank s = false ∧ Gives values texts) → deeds ≠ []

/-- A lookup is asked once, and what it fails with is passed on, as it is or in other words. -/
theorem on_ask_lookup (follower : Follower) (find : Lookup ω) (name : String)
    (values : List (String × String)) (m : Machine ω) :
    ∃ m₁ found m₂ result m', m.outward = m₁.outward ∧
      (find name values).on m₁ = (found, m₂) ∧
      (follower.ask find name values).on m = (result, m') ∧ m₂.outward = m'.outward ∧
      (found = result ∨ ∃ f text, found = .error f ∧
        result = .error (.atAction (.stated .injection text) follower.action)) := by
  obtain ⟨text, answer, hask, hfound, hfails⟩ : ∃ text, ∃ answer : Except Failure Bool → Run ω Bool,
      follower.ask find name values
        = (do
            Run.log text
            answer (← Run.outcome (find name values))) ∧
      (∀ found, answer (.ok found) = pure found) ∧
      ∀ f, answer (.error f) = if f.isAction || f.isCancelled then throw f
        else Run.fail (.atAction (.stated .injection s!"Sequence '{name}' failed: {f.text}")
          follower.action) := by
    unfold Follower.ask
    by_cases hempty : values.isEmpty = true
    · exact ⟨s!"Running sequence '{name}'", _, if_pos hempty, fun _ => rfl, fun _ => rfl⟩
    · exact ⟨s!"Running sequence '{name}' with {values.length} variables", _, if_neg hempty,
        fun _ => rfl, fun _ => rfl⟩
  rw [hask, on_bind_ok (on_log text .info m), on_outcome_bind]
  have hsame := (m.outward_log .info text).symm
  generalize (m.see [.logged ⟨.info, text⟩]).tell text = m₁ at hsame ⊢
  rcases hfind : (find name values).on m₁ with ⟨f | found, m₂⟩
  · dsimp only
    rw [hfails]
    by_cases hpassed : (f.isAction || f.isCancelled) = true
    · rw [if_pos hpassed]
      exact ⟨m₁, _, m₂, _, _, hsame, hfind, rfl, rfl, .inl rfl⟩
    · rw [if_neg hpassed]
      exact ⟨m₁, _, m₂, _, _, hsame, hfind, on_fail _ m₂, (Machine.outward_mark rfl m₂).symm,
        .inr ⟨f, _, rfl, rfl⟩⟩
  · dsimp only
    rw [hfound]
    exact ⟨m₁, _, m₂, _, _, hsame, hfind, rfl, rfl, .inl rfl⟩

/-- What is done about the answer to a call. -/
theorem on_answered (follower : Follower) (name : String) (found : Bool) (m : Machine ω) :
    ∃ result m', (do
        if !found then
          if follower.isTolerant then
            Run.log s!"Sequence '{name}' could not be found or executed" .warning
          else Run.fail (.atAction (.unknownSequence name) follower.action) :
        Run ω Unit).on m = (result, m') ∧ m.outward = m'.outward ∧
      (result = .ok () ∧ (found = true ∨ follower.isTolerant = true) ∨
        ∃ f, result = .error f ∧ Blames follower [] f) := by
  cases found with
  | true => exact ⟨_, m, rfl, rfl, .inl ⟨rfl, .inl rfl⟩⟩
  | false =>
    cases htolerant : follower.isTolerant with
    | true => exact ⟨_, _, rfl, (m.outward_log _ _).symm, .inl ⟨rfl, .inr rfl⟩⟩
    | false => exact ⟨_, _, rfl, (Machine.outward_mark rfl m).symm,
        .inr ⟨_, rfl, .unanswered htolerant name⟩⟩

/-- **At most one lookup call**, for a name that is not blank with values for variables. -/
theorem on_call (follower : Follower) (team : Collaborators ω) (lookup : Option (Lookup ω))
    (name values : Json) (m : Machine ω) :
    ∃ deeds result m', (follower.call lookup name values).on m = (result, m') ∧
      Performs team lookup m deeds m' ∧
      CallPart follower lookup.isSome name values deeds result := by
  unfold Follower.call
  cases hread : readCall name values with
  | error fault =>
    obtain ⟨result, m', hon, hsame, hresult⟩ := on_reject follower fault m
    refine ⟨[], result, m', hon, .done hsame, .inl rfl, ?_, ?_, ?_⟩
    -- What cannot be read asks for nothing, so nothing is left undone.
    · rintro f rfl
      rcases hresult with ⟨h, -⟩ | ⟨g, h, hblames⟩
      · cases h
      · cases h
        exact hblames
    · intro hstrict
      rcases hresult with ⟨-, h⟩ | ⟨g, h, -⟩
      · rw [hstrict] at h
        cases h
      · exact .inr ⟨g, h⟩
    · rintro - - ⟨s, texts, hcall⟩
      obtain ⟨call, hok, -⟩ := readCall_eq_ok.2 hcall
      rw [hread] at hok
      cases hok
  | ok call =>
    dsimp only
    cases htexts : textsOf call.values with
    | error cause =>
      obtain rfl := failsFor_textsOf call.values cause htexts
      refine ⟨[], _, _, on_bind_error (on_fail _ m), .done (Machine.outward_mark rfl m).symm,
        .inl rfl, ?_, fun _ => .inr ⟨_, rfl⟩, nofun⟩
      rintro f ⟨⟩
      exact .unwritable
    | ok texts =>
      have hgives := readCall_eq_ok.1 ⟨call, hread, rfl, htexts⟩
      cases lookup with
      | none =>
        -- Without a lookup, the answer is that there is no such sequence.
        have hlog := (m.outward_log .warning "No sequence lookup available").symm
        obtain ⟨result, m', hon, hsame, hresult⟩ := on_answered follower call.name false
          ((m.see [.logged ⟨.warning, "No sequence lookup available"⟩]).tell
            "No sequence lookup available")
        refine ⟨[], result, m', hon, .done (hlog.trans hsame), .inl rfl, ?_, ?_, nofun⟩
        · rintro f rfl
          rcases hresult with ⟨h, -⟩ | ⟨g, h, hblames⟩
          · cases h
          · cases h
            exact hblames
        · intro hstrict
          rcases hresult with ⟨-, h | h⟩ | ⟨g, h, -⟩
          · cases h
          · cases hstrict.symm.trans h
          · exact .inr ⟨g, h⟩
      | some find =>
        obtain ⟨m₁, found, m₂, result, m', hsame, hfind, hask, hafter, hresult⟩ :=
          on_ask_lookup follower find call.name texts m
        have hdeeds : ∀ {m'' : Machine ω}, m₂.outward = m''.outward →
            Performs team (some find) m [.call call.name texts found] m'' :=
          fun hm => .call rfl hsame hfind (.done hm)
        have hform : ∃ s texts' found', [Deed.call call.name texts found]
            = [.call s texts' found'] ∧ name = .text s ∧ Text.isEmptyOrBlank s = false ∧
              Gives values texts' := ⟨call.name, texts, found, rfl, hgives⟩
        cases result with
        | error f =>
          refine ⟨_, _, _, (on_bind_ok rfl).trans (on_bind_error hask), hdeeds hafter, .inr hform,
            ?_, fun _ => .inr ⟨_, rfl⟩, nofun⟩
          rintro g ⟨⟩
          rcases hresult with rfl | ⟨_, text, -, hwrapped⟩
          · exact .raised List.mem_cons_self rfl
          · cases hwrapped
            exact .wrapped text
        | ok answer =>
          obtain rfl : found = .ok answer := hresult.resolve_right nofun
          obtain ⟨result, m'', hon, hsame', hanswered⟩ := on_answered follower call.name answer m'
          refine ⟨_, result, m'', (on_bind_ok rfl).trans ((on_bind_ok hask).trans hon),
            hdeeds (hafter.trans hsame'), .inr hform, ?_, ?_, nofun⟩
          · rintro f rfl
            rcases hanswered with ⟨h, -⟩ | ⟨g, h, hblames⟩
            · cases h
            · cases h
              exact hblames.mono nofun
          · intro hstrict
            rcases hanswered with ⟨-, rfl | h⟩ | ⟨g, h, -⟩
            · exact .inl ⟨_, _, rfl⟩
            · cases hstrict.symm.trans h
            · exact .inr ⟨g, h⟩

/-- What is done about a value that asks for a click or a wait: a deed that it asks for, or none. -/
structure ActPart (follower : Follower) (asked : Deed → Prop) (deeds : List Deed)
    (result : Except Failure Bool) : Prop where
  form : deeds = [] ∨ ∃ deed, deeds = [deed] ∧ asked deed
  fails : ∀ f, result = .error f → Blames follower deeds f
  made : result = .ok true → ∃ deed, deeds = [deed] ∧ asked deed ∧ deed.isDone = true
  passed : result = .ok false →
    deeds = [] ∧ follower.isTolerant = true ∧ ∀ deed, ¬asked deed

/-- A value that asks for nothing is rejected. -/
theorem on_reject_act (follower : Follower) (fault : DirectiveFault) (m : Machine ω)
    {asked : Deed → Prop} (hnone : ∀ deed, ¬asked deed) :
    ∃ result m', (do
        follower.reject fault
        return false : Run ω Bool).on m = (result, m') ∧ m.outward = m'.outward ∧
      ActPart follower asked [] result := by
  obtain ⟨result, m', hon, hsame, ⟨rfl, htolerant⟩ | ⟨f, rfl, hblames⟩⟩ :=
    on_reject follower fault m
  · exact ⟨_, m', on_bind_ok hon, hsame, .inl rfl, nofun, nofun, fun _ => ⟨rfl, htolerant, hnone⟩⟩
  · refine ⟨_, m', on_bind_error hon, hsame, .inl rfl, ?_, nofun, nofun⟩
    rintro g ⟨⟩
    exact hblames

/-- A value that asks for a deed with a number too long to be written is not followed. -/
theorem actPart_unwritable (follower : Follower) (asked : Deed → Prop) :
    ActPart follower asked [] (.error (.failed .numberUnwritable none)) := by
  refine ⟨.inl rfl, ?_, nofun, nofun⟩
  rintro f ⟨⟩
  exact .unwritable

/-- The deed of a click, whatever comes of it. -/
def ClickAsked (follower : Follower) (raw : Json) (deed : Deed) : Prop :=
  ∃ input made, deed = .click input made ∧ Clicks follower raw input

/-- The deed of a wait, whatever comes of it. -/
def WaitAsked (raw : Json) (deed : Deed) : Prop :=
  ∃ duration slept, deed = .wait duration slept ∧ raw = .int duration ∧ 0 ≤ duration

/-- **A click is made where the value asks for one.** -/
theorem on_click (follower : Follower) (team : Collaborators ω) (lookup : Option (Lookup ω))
    (raw : Json) (m : Machine ω) :
    ∃ deeds result m', (follower.click team raw).on m = (result, m') ∧
      Performs team lookup m deeds m' ∧
      ActPart follower (ClickAsked follower raw) deeds result := by
  unfold Follower.click
  cases hread : readClick raw with
  | error fault =>
    have hnone : ∀ deed, ¬ClickAsked follower raw deed := by
      rintro deed ⟨input, made, -, x, y, type, hx, hy, htype, -⟩
      have hok : readClick raw = .ok ⟨x, y, type⟩ := readClick_eq_ok.2 ⟨hx, hy, htype⟩
      rw [hread] at hok
      cases hok
    obtain ⟨result, m', hon, hsame, hpart⟩ := on_reject_act follower fault m hnone
    exact ⟨[], result, m', hon, .done hsame, hpart⟩
  | ok click =>
    obtain ⟨hx, hy, htype⟩ := readClick_eq_ok.1 hread
    dsimp only
    by_cases hwritable : (decide (Integer.IsWritable (click.x + follower.offsetX))
        && decide (Integer.IsWritable (click.y + follower.offsetY))) = true
    · simp only [hwritable, Bool.not_true, Bool.false_eq_true, if_false]
      generalize htext : s!"JSON click at {MouseTask.showPoint (click.x + follower.offsetX)
        (click.y + follower.offsetY)} [{click.type.word}]" = text
      generalize hinput : click.type.input (click.x + follower.offsetX)
        (click.y + follower.offsetY) = input
      have hclicks : Clicks follower raw input :=
        ⟨click.x, click.y, click.type, hx, hy, htype, hinput.symm⟩
      -- The click is made on a machine that has logged it, which is the same outwardly.
      rw [on_bind_ok (on_log text .info m), on_outcome_bind]
      have hsame := (m.outward_log .info text).symm
      generalize (m.see [.logged ⟨.info, text⟩]).tell text = m₁ at hsame ⊢
      rcases hmade : (team.makeInput input).on m₁ with ⟨f | _, m₂⟩
      · dsimp only
        by_cases haction : f.isAction = true
        · rw [if_pos haction]
          refine ⟨_, _, m₂, rfl, .click hsame hmade (.done rfl),
            .inr ⟨_, rfl, input, _, rfl, hclicks⟩, ?_, nofun, nofun⟩
          rintro g ⟨⟩
          exact .raised List.mem_cons_self rfl
        · rw [if_neg haction]
          refine ⟨_, _, _, on_fail _ m₂,
            .click hsame hmade (.done (Machine.outward_mark rfl m₂).symm),
            .inr ⟨_, rfl, input, _, rfl, hclicks⟩, ?_, nofun, nofun⟩
          rintro g ⟨⟩
          exact .wrapped _
      · exact ⟨_, _, m₂, rfl, .click hsame hmade (.done rfl),
          .inr ⟨_, rfl, input, _, rfl, hclicks⟩, nofun,
          fun _ => ⟨_, rfl, ⟨input, _, rfl, hclicks⟩, rfl⟩, nofun⟩
    · simp only [hwritable, Bool.not_false, if_true]
      exact ⟨[], _, _, on_bind_error (on_fail _ m), .done (Machine.outward_mark rfl m).symm,
        actPart_unwritable follower _⟩

/-- **A wait is made where the value asks for one.** -/
theorem on_wait (follower : Follower) (team : Collaborators ω) (lookup : Option (Lookup ω))
    (raw : Json) (m : Machine ω) :
    ∃ deeds result m', (follower.wait team raw).on m = (result, m') ∧
      Performs team lookup m deeds m' ∧ ActPart follower (WaitAsked raw) deeds result := by
  unfold Follower.wait
  cases hread : readWait raw with
  | error fault =>
    have hnone : ∀ deed, ¬WaitAsked raw deed := by
      rintro deed ⟨duration, slept, -, hwait⟩
      have hok := readWait_eq_ok.2 hwait
      rw [hread] at hok
      cases hok
    obtain ⟨result, m', hon, hsame, hpart⟩ := on_reject_act follower fault m hnone
    exact ⟨[], result, m', hon, .done hsame, hpart⟩
  | ok duration =>
    have hwaits := readWait_eq_ok.1 hread
    dsimp only
    by_cases hwritable : Integer.IsWritable duration
    · simp only [hwritable, decide_true, Bool.not_true, Bool.false_eq_true, if_false]
      rw [on_bind_ok (on_log _ .info m)]
      have hsame := (m.outward_log .info s!"Waiting {Integer.toText duration} ms").symm
      generalize (m.see [.logged ⟨.info, s!"Waiting {Integer.toText duration} ms"⟩]).tell
        s!"Waiting {Integer.toText duration} ms" = m₁ at hsame ⊢
      rcases hslept : (team.sleep duration).on m₁ with ⟨f | _, m₂⟩
      · refine ⟨_, _, m₂, on_bind_error hslept, .wait hsame hslept (.done rfl),
          .inr ⟨_, rfl, duration, _, rfl, hwaits⟩, ?_, nofun, nofun⟩
        rintro g ⟨⟩
        exact .raised List.mem_cons_self rfl
      · exact ⟨_, _, m₂, on_bind_ok hslept, .wait hsame hslept (.done rfl),
          .inr ⟨_, rfl, duration, _, rfl, hwaits⟩, nofun,
          fun _ => ⟨_, rfl, ⟨duration, _, rfl, hwaits⟩, rfl⟩, nofun⟩
    · simp only [hwritable, decide_false, Bool.not_false, if_true]
      exact ⟨[], _, _, on_bind_error (on_fail _ m), .done (Machine.outward_mark rfl m).symm,
        actPart_unwritable follower _⟩

/-! ## The whole document -/

/-- What is done about the sequence that a document asks for. -/
structure CallsPart (follower : Follower) (available : Bool) (document : Json)
    (deeds : List Deed) (result : Except Failure Unit) : Prop where
  form : deeds = [] ∨ ∃ name values found, deeds = [.call name values found] ∧
    CallsFor document name values
  fails : ∀ f, result = .error f → Blames follower deeds f
  strict : follower.isTolerant = false → document.member? "sequenceName" ≠ none →
    (∃ deed, deeds = [deed] ∧ deed.isDone = true) ∨ ∃ f, result = .error f
  performed : result = .ok () → available = true →
    (∃ name values, CallsFor document name values) → deeds ≠ []

/-- A malformed directive, passed over, or none. -/
def Passed (follower : Follower) (raw : Option Json) (asked : Json → Deed → Prop) : Prop :=
  raw = none ∨ follower.isTolerant = true ∧ ∀ value ∈ raw, ∀ deed, ¬asked value deed

/-- A directive that may end the document, and what follows if it does not. -/
def unlessEnded (raw : Option Json) (directive : Json → Run ω Bool) (next : Run ω Unit) :
    Run ω Unit :=
  match raw with
  | some raw => do if ← directive raw then return else next
  | none => next

/-- What is done about a directive that may end the document, as long as it is not passed over. -/
structure EndPart (follower : Follower) (raw : Option Json) (asked : Json → Deed → Prop)
    (deeds : List Deed) (result : Except Failure Unit) : Prop where
  form : deeds = [] ∨ ∃ deed, deeds = [deed] ∧ ∃ value ∈ raw, asked value deed
  fails : ∀ f, result = .error f → Blames follower deeds f
  made : result = .ok () → ∃ deed, deeds = [deed] ∧ deed.isDone = true

/-- A directive ends the document with a deed or with a failure, or it is passed over, and nothing
shows. -/
theorem on_unlessEnded (raw : Option Json) {directive : Json → Run ω Bool}
    {asked : Json → Deed → Prop} (next : Run ω Unit) (m : Machine ω)
    (hdirective : ∀ raw m, ∃ deeds result m', (directive raw).on m = (result, m') ∧
      Performs team lookup m deeds m' ∧ ActPart follower (asked raw) deeds result) :
    (∃ deeds result m', (unlessEnded raw directive next).on m = (result, m') ∧
      Performs team lookup m deeds m' ∧ EndPart follower raw asked deeds result) ∨
    ∃ m', (unlessEnded raw directive next).on m = next.on m' ∧ m.outward = m'.outward ∧
      Passed follower raw asked := by
  cases raw with
  | none => exact .inr ⟨m, rfl, rfl, .inl rfl⟩
  | some value =>
    obtain ⟨deeds, result, m', hon, hperforms, hpart⟩ := hdirective value m
    have hform : deeds = [] ∨ ∃ deed, deeds = [deed] ∧ ∃ raw ∈ some value, asked raw deed :=
      hpart.form.imp_right fun ⟨deed, hdeeds, hasked⟩ => ⟨deed, hdeeds, value, rfl, hasked⟩
    rcases result with f | made
    · refine .inl ⟨deeds, _, m', on_bind_error hon, hperforms, hform, ?_, nofun⟩
      rintro g ⟨⟩
      exact hpart.fails f rfl
    cases made with
    | true =>
      obtain ⟨deed, hdeeds, -, hdone⟩ := hpart.made rfl
      exact .inl ⟨deeds, _, m', on_bind_ok hon, hperforms, hform, nofun,
        fun _ => ⟨deed, hdeeds, hdone⟩⟩
    | false =>
      obtain ⟨rfl, htolerant, hnone⟩ := hpart.passed rfl
      cases hperforms with
      | done hsame =>
        refine .inr ⟨m', on_bind_ok hon, hsame, .inr ⟨htolerant, ?_⟩⟩
        rintro raw ⟨⟩
        exact hnone

/-- What is done about the click and the wait that a document asks for. -/
structure ActsPart (follower : Follower) (document : Json) (deeds : List Deed)
    (result : Except Failure Unit) : Prop where
  form : deeds = [] ∨
    (∃ input made, deeds = [.click input made] ∧ ClicksFor follower document input) ∨
    ∃ duration slept, deeds = [.wait duration slept] ∧ WaitsFor document duration ∧
      Passed follower (document.member? "clickAction") (ClickAsked follower)
  fails : ∀ f, result = .error f → Blames follower deeds f
  settled : result = .ok () → (∃ deed, deeds = [deed] ∧ deed.isDone = true) ∨
    Passed follower (document.member? "clickAction") (ClickAsked follower) ∧
      Passed follower (document.member? "waitTime") WaitAsked

theorem on_acts (follower : Follower) (team : Collaborators ω) (lookup : Option (Lookup ω))
    (document : Json) {last : Run ω Unit}
    (hlast : ∀ m : Machine ω, ∃ m', last.on m = (.ok (), m') ∧ m.outward = m'.outward)
    (m : Machine ω) :
    ∃ deeds result m', (unlessEnded (document.member? "clickAction") (follower.click team)
        (unlessEnded (document.member? "waitTime") (follower.wait team) last)).on m
          = (result, m') ∧
      Performs team lookup m deeds m' ∧ ActsPart follower document deeds result := by
  obtain ⟨deeds, result, m', hon, hperforms, hpart⟩ | ⟨m₁, hon, hsame, hclick⟩ :=
    on_unlessEnded (document.member? "clickAction")
      (unlessEnded (document.member? "waitTime") (follower.wait team) last) m
      (fun raw m => on_click follower team lookup raw m)
  · refine ⟨deeds, result, m', hon, hperforms, ?_, hpart.fails, fun hok => .inl (hpart.made hok)⟩
    refine hpart.form.imp_right fun ⟨deed, hdeeds, value, hvalue, input, made, hdeed, hclicks⟩ => ?_
    exact .inl ⟨input, made, hdeed ▸ hdeeds, value, hvalue, hclicks⟩
  -- The click is passed over, so the wait has its turn.
  obtain ⟨deeds, result, m', hon', hperforms, hpart⟩ | ⟨m₂, hon', hsame', hwait⟩ :=
    on_unlessEnded (document.member? "waitTime") last m₁
      (fun raw m => on_wait follower team lookup raw m)
  · refine ⟨deeds, result, m', hon.trans hon', hperforms.after hsame, ?_, hpart.fails,
      fun hok => .inl (hpart.made hok)⟩
    refine hpart.form.imp_right
      fun ⟨deed, hdeeds, value, hvalue, duration, slept, hdeed, hraw, hle⟩ => .inr ?_
    subst hraw
    exact ⟨duration, slept, hdeed ▸ hdeeds, ⟨hvalue, hle⟩, hclick⟩
  · obtain ⟨m', hend, hsame''⟩ := hlast m₂
    exact ⟨[], _, m', hon.trans (hon'.trans hend), .done (hsame.trans (hsame'.trans hsame'')),
      .inl rfl, nofun, fun _ => .inr ⟨hclick, hwait⟩⟩

/-- What is done about a document that has a sequence to ask for, or not. -/
theorem on_calls (follower : Follower) (team : Collaborators ω) (lookup : Option (Lookup ω))
    (document : Json) (m : Machine ω) :
    ∃ deeds result m', (match document.member? "sequenceName" with
        | some name =>
          follower.call lookup name ((document.member? "variables").getD .null)
        | none => pure () : Run ω Unit).on m = (result, m') ∧
      Performs team lookup m deeds m' ∧
      CallsPart follower lookup.isSome document deeds result := by
  cases hname : document.member? "sequenceName" with
  | none =>
    refine ⟨[], _, m, rfl, .done rfl, .inl rfl, nofun, fun _ h => absurd hname h, ?_⟩
    rintro - - ⟨name, values, hcall, -⟩
    rw [hname] at hcall
    cases hcall
  | some raw =>
    obtain ⟨deeds, result, m', hon, hperforms, hpart⟩ := on_call follower team lookup raw
      ((document.member? "variables").getD .null) m
    refine ⟨deeds, result, m', hon, hperforms, ?_, hpart.fails, ?_, ?_⟩
    · refine hpart.form.imp_right fun ⟨name, values, found, hdeeds, hraw, hblank, hgives⟩ => ?_
      exact ⟨name, values, found, hdeeds, hname.trans (congrArg some hraw), hblank, hgives⟩
    · intro hstrict _
      exact (hpart.strict hstrict).imp_left fun ⟨name, values, hdeeds⟩ => ⟨_, hdeeds, rfl⟩
    · rintro hok havailable ⟨name, values, hcall, hblank, hgives⟩
      have hraw : raw = .text name := Option.some.inj (hname.symm.trans hcall)
      exact hpart.performed hok havailable ⟨name, values, hraw, hblank, hgives⟩

/-- Following an object is following its directives one after the other, with the same end whatever
the lookup is. -/
theorem follow_object (follower : Follower) (team : Collaborators ω) (members : Members) :
    ∃ last : Run ω Unit, (∀ m : Machine ω, ∃ m', last.on m = (.ok (), m') ∧
        m.outward = m'.outward) ∧
      ∀ lookup, follower.follow team lookup (.object members)
        = (match (Json.object members).member? "sequenceName" with
            | some name =>
              follower.call lookup name (((Json.object members).member? "variables").getD .null)
            | none => pure ()) >>= fun _ =>
          unlessEnded ((Json.object members).member? "clickAction") (follower.click team)
            (unlessEnded ((Json.object members).member? "waitTime") (follower.wait team) last) := by
  refine ⟨if !(["sequenceName", "clickAction", "waitTime"].any (Members.has members)) then
    Run.log "No valid actions found in JSON" .warning else pure (), fun m => ?_, fun lookup => ?_⟩
  · split
    · exact ⟨_, rfl, (m.outward_log _ _).symm⟩
    · exact ⟨m, rfl, rfl⟩
  · unfold Follower.follow unlessEnded
    simp only [Json.member?]
    cases Members.get? members "sequenceName" <;>
      cases Members.get? members "clickAction" <;>
        cases Members.get? members "waitTime" <;> rfl

theorem Passed.click {document : Json}
    (h : Passed follower (document.member? "clickAction") (ClickAsked follower)) :
    document.member? "clickAction" = none ∨
      follower.isTolerant = true ∧ ∀ input, ¬ClicksFor follower document input := by
  refine h.imp_right fun ⟨htolerant, hnone⟩ => ⟨htolerant, ?_⟩
  rintro input ⟨value, hvalue, hclicks⟩
  exact hnone value hvalue (.click input (.ok ())) ⟨input, _, rfl, hclicks⟩

theorem Passed.not_waitsFor {document : Json}
    (h : Passed follower (document.member? "waitTime") WaitAsked) (duration : Int) :
    ¬WaitsFor document duration := by
  rintro ⟨hvalue, hle⟩
  rcases h with hnone | ⟨-, hnone⟩
  · rw [hnone] at hvalue
    cases hvalue
  · exact hnone _ hvalue (.wait duration (.ok ())) ⟨duration, _, rfl, rfl, hle⟩

section Obeys

variable {document : Json} {available : Bool} {calls acts : List Deed}
  {result : Except Failure Unit}

theorem CallsPart.mem (h : CallsPart follower available document calls result) :
    ∀ deed ∈ calls, ∃ name values found, deed = .call name values found ∧
      CallsFor document name values := by
  intro deed hdeed
  rcases h.form with rfl | ⟨name, values, found, rfl, hcalls⟩
  · cases hdeed
  · exact ⟨name, values, found, List.mem_singleton.1 hdeed, hcalls⟩

theorem CallsPart.length_le (h : CallsPart follower available document calls result) :
    calls.length ≤ 1 := by
  rcases h.form with rfl | ⟨name, values, found, rfl, -⟩
  · exact Nat.zero_le 1
  · exact Nat.le_refl 1

theorem CallsPart.isCall (h : CallsPart follower available document calls result) :
    ∀ deed ∈ calls, deed.isCall = true := by
  intro deed hdeed
  obtain ⟨name, values, found, rfl, -⟩ := h.mem deed hdeed
  rfl

theorem ActsPart.mem (h : ActsPart follower document acts result) :
    ∀ deed ∈ acts,
      (∃ input made, deed = .click input made ∧ ClicksFor follower document input) ∨
      ∃ duration slept, deed = .wait duration slept ∧ WaitsFor document duration ∧
        Passed follower (document.member? "clickAction") (ClickAsked follower) := by
  intro deed hdeed
  rcases h.form with rfl | ⟨input, made, rfl, hclicks⟩ | ⟨duration, slept, rfl, hwaits⟩
  · cases hdeed
  · exact .inl ⟨input, made, List.mem_singleton.1 hdeed, hclicks⟩
  · exact .inr ⟨duration, slept, List.mem_singleton.1 hdeed, hwaits⟩

theorem ActsPart.length_le (h : ActsPart follower document acts result) : acts.length ≤ 1 := by
  rcases h.form with rfl | ⟨input, made, rfl, -⟩ | ⟨duration, slept, rfl, -⟩
  · exact Nat.zero_le 1
  · exact Nat.le_refl 1
  · exact Nat.le_refl 1

theorem ActsPart.isCall (h : ActsPart follower document acts result) :
    ∀ deed ∈ acts, deed.isCall = false := by
  intro deed hdeed
  rcases h.mem deed hdeed with ⟨input, made, rfl, -⟩ | ⟨duration, slept, rfl, -⟩ <;> rfl

/-- A call that ends it all. -/
theorem CallsPart.obeys {f : Failure} {members : Members} (hobject : document = .object members)
    (h : CallsPart follower available document calls (.error f)) :
    Obeys follower available document calls (.error f) where
  order := ⟨calls, [], (List.append_nil _).symm, h.length_le, Nat.zero_le 1, h.isCall, nofun⟩
  called := by
    intro name values found hdeed
    obtain ⟨_, _, _, hsame, hcalls⟩ := h.mem _ hdeed
    cases hsame
    exact hcalls
  clicked := fun input made hdeed => absurd (h.isCall _ hdeed) (by simp [Deed.isCall])
  waited := fun duration slept hdeed => absurd (h.isCall _ hdeed) (by simp [Deed.isCall])
  strict := fun _ => {
    root := fun hroot => absurd hobject (hroot members)
    call := fun _ => .inr ⟨⟨f, rfl⟩, h.isCall⟩
    click := fun _ => .inr ⟨⟨f, rfl⟩, fun deed hdeed => by
      obtain ⟨_, _, _, rfl, -⟩ := h.mem deed hdeed
      rfl⟩
    wait := fun _ => .inr ⟨f, rfl⟩ }
  lenient := fun htolerant g hg hdirective => (h.fails g hg).of_isDirective htolerant hdirective
  blamed := h.fails
  performed := nofun

/-- Where a click is asked for in vain, an action that does not tolerate errors stops. -/
theorem not_passed_click (hstrict : follower.isTolerant = false)
    (hclick : document.member? "clickAction" ≠ none) :
    ¬Passed follower (document.member? "clickAction") (ClickAsked follower) := by
  rintro (hnone | ⟨htolerant, -⟩)
  · exact hclick hnone
  · cases hstrict.symm.trans htolerant

/-- What an action that does not tolerate errors does about clicks and waits. -/
theorem ActsPart.strict (h : ActsPart follower document acts result)
    (hstrict : follower.isTolerant = false) :
    (document.member? "clickAction" ≠ none →
      (∃ deed ∈ acts, deed.isClick = true ∧ deed.isDone = true) ∨
        (∃ f, result = .error f) ∧ ∀ deed ∈ acts, deed.isWait = false) ∧
    (document.member? "waitTime" ≠ none →
      (∃ deed ∈ acts, deed.isCall = false ∧ deed.isDone = true) ∨ ∃ f, result = .error f) := by
  constructor
  · intro hclick
    -- For a wait, the click would have to be passed over.
    have hclicks : ∀ deed ∈ acts, deed.isClick = true ∧ deed.isWait = false := by
      intro deed hdeed
      rcases h.mem deed hdeed with ⟨input, made, rfl, -⟩ | ⟨duration, slept, rfl, -, hpassed⟩
      · exact ⟨rfl, rfl⟩
      · exact absurd hpassed (not_passed_click hstrict hclick)
    cases hresult : result with
    | error f => exact .inr ⟨⟨f, rfl⟩, fun deed hdeed => (hclicks deed hdeed).2⟩
    | ok _ =>
      rcases h.settled hresult with ⟨deed, rfl, hdone⟩ | ⟨hpassed, -⟩
      · exact .inl ⟨deed, List.mem_cons_self, (hclicks deed List.mem_cons_self).1, hdone⟩
      · exact absurd hpassed (not_passed_click hstrict hclick)
  · intro hwait
    cases hresult : result with
    | error f => exact .inr ⟨f, rfl⟩
    | ok _ =>
      rcases h.settled hresult with ⟨deed, rfl, hdone⟩ | ⟨-, hnone | ⟨htolerant, -⟩⟩
      · exact .inl ⟨deed, List.mem_cons_self, h.isCall deed List.mem_cons_self, hdone⟩
      · exact absurd hnone hwait
      · cases hstrict.symm.trans htolerant

/-- What goes well has made the click or the wait that is asked for. -/
theorem ActsPart.performed (h : ActsPart follower document acts (.ok ())) :
    ((∃ input, ClicksFor follower document input) →
      ∃ deed ∈ acts, deed.isClick = true ∧ deed.isDone = true) ∧
    ((∃ duration, WaitsFor document duration) →
      (∀ input, ¬ClicksFor follower document input) →
      ∃ deed ∈ acts, deed.isWait = true ∧ deed.isDone = true) := by
  have hnone : Passed follower (document.member? "clickAction") (ClickAsked follower) →
      ∀ input, ¬ClicksFor follower document input := by
    rintro hpassed input ⟨value, hvalue, hclicks⟩
    rcases hpassed.click with hnone | ⟨-, hnone⟩
    · rw [hnone] at hvalue
      cases hvalue
    · exact hnone input ⟨value, hvalue, hclicks⟩
  rcases h.settled rfl with ⟨deed, rfl, hdone⟩ | ⟨hclick, hwait⟩
  · rcases h.mem deed List.mem_cons_self with
      ⟨input, made, rfl, hclicks⟩ | ⟨duration, slept, rfl, -, hpassed⟩
    · exact ⟨fun _ => ⟨_, List.mem_cons_self, rfl, hdone⟩,
        fun _ hnot => absurd hclicks (hnot input)⟩
    · refine ⟨fun ⟨input, hclicks⟩ => absurd hclicks (hnone hpassed input), fun _ _ => ?_⟩
      exact ⟨_, List.mem_cons_self, rfl, hdone⟩
  · exact ⟨fun ⟨input, hclicks⟩ => absurd hclicks (hnone hclick input),
      fun ⟨duration, hwaits⟩ => absurd hwaits (hwait.not_waitsFor duration)⟩

/-- A call that goes on, or none, with what comes behind it. -/
theorem CallsPart.obeys_append {members : Members} (hobject : document = .object members)
    (h : CallsPart follower available document calls (.ok ()))
    (hacts : ActsPart follower document acts result) :
    Obeys follower available document (calls ++ acts) result where
  order := ⟨calls, acts, rfl, h.length_le, hacts.length_le, h.isCall, hacts.isCall⟩
  called := by
    intro name values found hdeed
    rcases List.mem_append.1 hdeed with hcall | hact
    · obtain ⟨_, _, _, hsame, hcalls⟩ := h.mem _ hcall
      cases hsame
      exact hcalls
    · cases hacts.isCall _ hact
  clicked := by
    intro input made hdeed
    rcases List.mem_append.1 hdeed with hcall | hact
    · cases h.isCall _ hcall
    · rcases hacts.mem _ hact with ⟨_, _, hsame, hclicks⟩ | ⟨_, _, hsame, -⟩
      · cases hsame
        exact hclicks
      · cases hsame
  waited := by
    intro duration slept hdeed
    rcases List.mem_append.1 hdeed with hcall | hact
    · cases h.isCall _ hcall
    · rcases hacts.mem _ hact with ⟨_, _, hsame, -⟩ | ⟨_, _, hsame, hwaits, hpassed⟩
      · cases hsame
      · cases hsame
        exact ⟨hwaits, hpassed.click⟩
  strict := by
    intro hstrict
    have hleft : ∀ {P : Deed → Prop}, (∃ deed ∈ acts, P deed) → ∃ deed ∈ calls ++ acts, P deed :=
      fun ⟨deed, hdeed, hP⟩ => ⟨deed, List.mem_append_right calls hdeed, hP⟩
    refine ⟨fun hroot => absurd hobject (hroot members), fun hname => ?_, fun hclick => ?_,
      fun hwait => ((hacts.strict hstrict).2 hwait).imp_left hleft⟩
    · rcases h.strict hstrict hname with ⟨deed, rfl, hdone⟩ | ⟨f, hf⟩
      · exact .inl ⟨deed, List.mem_cons_self, h.isCall deed List.mem_cons_self, hdone⟩
      · cases hf
    · refine ((hacts.strict hstrict).1 hclick).imp hleft fun ⟨hfails, hnone⟩ =>
        ⟨hfails, fun deed hdeed => ?_⟩
      rcases List.mem_append.1 hdeed with hcall | hact
      · obtain ⟨_, _, _, rfl, -⟩ := h.mem deed hcall
        rfl
      · exact hnone deed hact
  lenient := fun htolerant f hf hdirective => by
    obtain ⟨deed, hdeed, hfailure⟩ := (hacts.fails f hf).of_isDirective htolerant hdirective
    exact ⟨deed, List.mem_append_right calls hdeed, hfailure⟩
  blamed := fun f hf => (hacts.fails f hf).mono fun deed => List.mem_append_right calls
  performed := by
    rintro rfl
    have hleft : ∀ {P : Deed → Prop}, (∃ deed ∈ acts, P deed) → ∃ deed ∈ calls ++ acts, P deed :=
      fun ⟨deed, hdeed, hP⟩ => ⟨deed, List.mem_append_right calls hdeed, hP⟩
    refine ⟨fun havailable hcall => ?_, fun hclick => hleft (hacts.performed.1 hclick),
      fun hwait hnone => hleft (hacts.performed.2 hwait hnone)⟩
    obtain ⟨deed, hdeed⟩ := List.exists_mem_of_ne_nil calls (h.performed rfl havailable hcall)
    exact ⟨deed, List.mem_append_left acts hdeed, h.isCall deed hdeed⟩

theorem member?_of_not_object (hroot : ∀ members, document ≠ .object members) (name : String) :
    document.member? name = none := by
  cases document with
  | object members => exact absurd rfl (hroot members)
  | _ => rfl

/-- What is no object is passed over or a failure, and nothing is done. -/
theorem obeys_of_not_object (hroot : ∀ members, document ≠ .object members)
    (h : result = .ok () ∧ follower.isTolerant = true ∨
      ∃ f, result = .error f ∧ Blames follower [] f) :
    Obeys follower available document [] result where
  order := ⟨[], [], rfl, Nat.zero_le 1, Nat.zero_le 1, nofun, nofun⟩
  called := nofun
  clicked := nofun
  waited := nofun
  strict := by
    intro hstrict
    rcases h with ⟨-, htolerant⟩ | ⟨f, rfl, -⟩
    · cases hstrict.symm.trans htolerant
    · exact ⟨fun _ => ⟨rfl, f, rfl⟩, fun _ => .inr ⟨⟨f, rfl⟩, nofun⟩,
        fun _ => .inr ⟨⟨f, rfl⟩, nofun⟩, fun _ => .inr ⟨f, rfl⟩⟩
  lenient := by
    rintro htolerant f hf hdirective
    rcases h with ⟨hok, -⟩ | ⟨g, hg, hblames⟩
    · cases hok.symm.trans hf
    · cases hg.symm.trans hf
      exact hblames.of_isDirective htolerant hdirective
  blamed := by
    intro f hf
    rcases h with ⟨hok, -⟩ | ⟨g, hg, hblames⟩
    · cases hok.symm.trans hf
    · cases hg.symm.trans hf
      exact hblames
  performed := by
    intro _
    refine ⟨?_, ?_, ?_⟩
    · rintro - ⟨name, values, hcall, -⟩
      rw [member?_of_not_object hroot] at hcall
      cases hcall
    · rintro ⟨input, value, hvalue, -⟩
      rw [member?_of_not_object hroot] at hvalue
      cases hvalue
    · rintro ⟨duration, hvalue, -⟩
      rw [member?_of_not_object hroot] at hvalue
      cases hvalue

end Obeys

end Parts

/-- **Following a document does what the document says.** Whatever the document, the lookup and the
collaborators are, what is done are deeds that obey the document, and nothing else shows. -/
theorem follow_obeys (follower : Follower) (team : Collaborators ω) (lookup : Option (Lookup ω))
    (document : Json) (m : Machine ω) :
    ∃ deeds, Performs team lookup m deeds ((follower.follow team lookup document).on m).2 ∧
      Obeys follower lookup.isSome document deeds
        ((follower.follow team lookup document).on m).1 := by
  by_cases hobject : ∃ members, document = .object members
  · obtain ⟨members, rfl⟩ := hobject
    obtain ⟨last, hlast, hfollow⟩ := follow_object follower team members
    rw [hfollow]
    obtain ⟨calls, result, m₁, hon, hcalls, hpart⟩ :=
      on_calls follower team lookup (.object members) m
    cases result with
    | error f =>
      rw [on_bind_error hon]
      exact ⟨calls, hcalls, hpart.obeys rfl⟩
    | ok _ =>
      obtain ⟨acts, result, m', hon', hacts, hpart'⟩ :=
        on_acts follower team lookup (.object members) hlast m₁
      rw [on_bind_ok hon, hon']
      exact ⟨calls ++ acts, hcalls.append hacts, hpart.obeys_append rfl hpart'⟩
  · rw [not_exists] at hobject
    obtain ⟨result, m', hon, hsame, hresult⟩ :=
      on_reject follower (.rootNotObject document) m
    have hfollow : (follower.follow team lookup document).on m = (result, m') := by
      rw [← hon]
      unfold Follower.follow
      cases document with
      | object members => exact absurd rfl (hobject members)
      | _ => rfl
    rw [hfollow]
    exact ⟨[], .done hsame, obeys_of_not_object hobject hresult⟩

/-- A desktop where a click fails with a fault of a directive. -/
def withFaultyClicks : Collaborators Unit :=
  { withCalmDevices with
    input := fun _ => .fail (.failed (.action (.stated .directive "click failed")) none) }

/-- **A fault of a directive can come from elsewhere**: an action that tolerates errors passes on
what a click fails with. And behind a click that is made a malformed wait is not looked at, whether
the action tolerates errors or not. -/
theorem follow_passes_on :
    ((Follower.follow ⟨.task { Action.Header.initial "" with continueOnError := true }
        (.wait .initial), 0, 0⟩ withFaultyClicks none
        (.object [("clickAction", .object [("x", .int 1), ("y", .int 2)])])).on
          (Machine.initial () .empty)).1
      = .error (.failed (.action (.stated .directive "click failed")) none) ∧
    ((Follower.follow ⟨.task (Action.Header.initial "") (.wait .initial), 0, 0⟩ withCalmDevices none
        (.object [("clickAction", .object [("x", .int 1), ("y", .int 2)]),
          ("waitTime", .text "soon")])).on (Machine.initial () .empty)).1 = .ok () :=
  ⟨rfl, rfl⟩

end Directive
end DesktopMacro
