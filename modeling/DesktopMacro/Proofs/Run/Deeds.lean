/-
Deeds, and what a document says of them.

Whoever follows a document asks for a sequence, clicks, or waits, and nothing else: these are its
deeds. `Performs` has a machine do deeds, with the outcome of each, and nothing in between that
shows outwardly. `Obeys` holds the deeds against the document: what it has to say for a deed to be
done, what comes before what, and what is left undone when a directive is malformed or fails.

What a document says is told here by its members, and then found again in what is read off it.
-/
import DesktopMacro.Proofs.Computation
import DesktopMacro.Proofs.Run.Inputs
import DesktopMacro.Proofs.Run.Journal

set_option autoImplicit false

namespace DesktopMacro

/-- A fault of a directive: it is malformed, or a sequence cannot be found. -/
def Failure.isDirective : Failure → Bool
  | .failed (.action (.directive _)) _ => true
  | .failed (.action (.unknownSequence _)) _ => true
  | .failed (.action (.stated .directive _)) _ => true
  | _ => false

namespace Directive

open Run

variable {ω : Type}

/-! ## Deeds -/

/-- **A deed**, with what came of it: a sequence is asked for, a click is made, or so many
milliseconds are waited. -/
inductive Deed where
  | call (name : String) (values : List (String × String)) (result : Except Failure Bool)
  | click (input : Input) (result : Except Failure Unit)
  | wait (duration : Int) (result : Except Failure Unit)

namespace Deed

def isCall : Deed → Bool
  | call _ _ _ => true
  | _ => false

def isClick : Deed → Bool
  | click _ _ => true
  | _ => false

def isWait : Deed → Bool
  | wait _ _ => true
  | _ => false

/-- Did a deed go well? A call did if there was such a sequence. -/
def isDone : Deed → Bool
  | call _ _ (.ok found) => found
  | click _ (.ok _) | wait _ (.ok _) => true
  | _ => false

/-- The failure that a deed came to. -/
def failure? : Deed → Option Failure
  | call _ _ (.error f) | click _ (.error f) | wait _ (.error f) => some f
  | _ => none

end Deed

/-- **Deeds in their order**, from a machine to another, and nothing in between that shows. -/
inductive Performs (team : Collaborators ω) (lookup : Option (Lookup ω)) :
    Machine ω → List Deed → Machine ω → Prop where
  | done {m m' : Machine ω} (h : m.outward = m'.outward) : Performs team lookup m [] m'
  | call {m m₁ m₂ m' : Machine ω} {find : Lookup ω} {name : String}
    {values : List (String × String)} {result : Except Failure Bool} {deeds : List Deed}
    (there : lookup = some find) (before : m.outward = m₁.outward)
    (h : (find name values).on m₁ = (result, m₂)) :
    Performs team lookup m₂ deeds m' →
      Performs team lookup m (.call name values result :: deeds) m'
  | click {m m₁ m₂ m' : Machine ω} {input : Input} {result : Except Failure Unit}
    {deeds : List Deed} (before : m.outward = m₁.outward)
    (h : (team.makeInput input).on m₁ = (result, m₂)) :
    Performs team lookup m₂ deeds m' → Performs team lookup m (.click input result :: deeds) m'
  | wait {m m₁ m₂ m' : Machine ω} {duration : Int} {result : Except Failure Unit}
    {deeds : List Deed} (before : m.outward = m₁.outward)
    (h : (team.sleep duration).on m₁ = (result, m₂)) :
    Performs team lookup m₂ deeds m' → Performs team lookup m (.wait duration result :: deeds) m'

section Performs

variable {team : Collaborators ω} {lookup : Option (Lookup ω)} {m m' m₁ : Machine ω}
  {deeds deeds' : List Deed}

theorem Performs.after (h : Performs team lookup m₁ deeds m') (hm : m.outward = m₁.outward) :
    Performs team lookup m deeds m' := by
  cases h with
  | done h => exact .done (hm.trans h)
  | call there before h hmore => exact .call there (hm.trans before) h hmore
  | click before h hmore => exact .click (hm.trans before) h hmore
  | wait before h hmore => exact .wait (hm.trans before) h hmore

theorem Performs.append (h : Performs team lookup m deeds m₁)
    (h' : Performs team lookup m₁ deeds' m') : Performs team lookup m (deeds ++ deeds') m' := by
  induction h with
  | done hm => exact h'.after hm
  | call there before h _ ih => exact .call there before h (ih h')
  | click before h _ ih => exact .click before h (ih h')
  | wait before h _ ih => exact .wait before h (ih h')

end Performs

/-! ## What a document says -/

/-- The text that a variable gets: a text as it is, any other value as JSON. -/
def Shows (raw : Json) (text : String) : Prop :=
  raw = .text text ∨ (∀ s, raw ≠ .text s) ∧ raw.write? .plain = some text

/-- **The values for variables**: none where there is nothing, and otherwise one for each member of
an object. -/
inductive Gives : Json → List (String × String) → Prop where
  | nothing : Gives .null []
  | none : Gives (.object []) []
  | member {name text : String} {raw : Json} {members : Members} {values : List (String × String)}
    (h : Shows raw text) :
    Gives (.object members) values →
    Gives (.object ((name, raw) :: members)) ((name, text) :: values)

/-- **A document that asks for a sequence**, by a name that is not blank. -/
def CallsFor (document : Json) (name : String) (values : List (String × String)) : Prop :=
  document.member? "sequenceName" = some (.text name) ∧ Text.isEmptyOrBlank name = false ∧
    Gives ((document.member? "variables").getD .null) values

/-- **A value that asks for a click**: at whole numbers, with one of four types or none, which is a
click with the left button. The input is shifted by the offset of the action. -/
def Clicks (follower : Follower) (raw : Json) (input : Input) : Prop :=
  ∃ x y type, raw.member? "x" = some (.int x) ∧ raw.member? "y" = some (.int y) ∧
    (raw.member? "type" = none ∧ type = ClickType.left ∨
      raw.member? "type" = some (.text type.word)) ∧
    input = type.input (x + follower.offsetX) (y + follower.offsetY)

/-- **A document that asks for a click.** -/
def ClicksFor (follower : Follower) (document : Json) (input : Input) : Prop :=
  ∃ raw, document.member? "clickAction" = some raw ∧ Clicks follower raw input

/-- **A document that asks for a wait**, of a whole number of milliseconds that is not negative. -/
def WaitsFor (document : Json) (duration : Int) : Prop :=
  document.member? "waitTime" = some (.int duration) ∧ 0 ≤ duration

/-! ### Reading it -/

theorem textOf_eq_ok {raw : Json} {text : String} : textOf raw = .ok text ↔ Shows raw text := by
  -- What is no text is written as JSON.
  have hother : (∀ s, raw ≠ .text s) → (textOf raw = .ok text ↔ raw.write? .plain = some text) := by
    intro hraw
    rw [textOf.eq_2 _ fun s hs => hraw s hs]
    cases raw.write? .plain <;> simp
  unfold Shows
  by_cases htext : ∃ s, raw = .text s
  · obtain ⟨s, rfl⟩ := htext
    simp [textOf]
  · rw [not_exists] at htext
    rw [hother htext]
    constructor
    · exact fun h => .inr ⟨htext, h⟩
    · rintro (h | ⟨-, h⟩)
      · exact absurd h (htext text)
      · exact h

theorem textsOf_eq_ok {members : Members} {values : List (String × String)} :
    textsOf members = .ok values ↔ Gives (.object members) values := by
  constructor
  · intro h
    induction members generalizing values with
    | nil =>
      cases h
      exact .none
    | cons member members ih =>
      obtain ⟨name, raw⟩ := member
      unfold textsOf at h ih
      rw [List.mapM_cons] at h
      obtain ⟨entry, hentry, h⟩ := of_bind h
      obtain ⟨text, htext, hpair⟩ := of_bind hentry
      obtain ⟨rest, hrest, hvalues⟩ := of_bind h
      cases hpair
      cases hvalues
      exact .member (textOf_eq_ok.1 htext) (ih hrest)
  · intro h
    generalize hraw : Json.object members = raw at h
    induction h generalizing members with
    | nothing => cases hraw
    | none =>
      cases hraw
      rfl
    | @member name text raw members values hshows _ ih =>
      cases hraw
      have hrest := ih rfl
      unfold textsOf at hrest ⊢
      rw [List.mapM_cons, textOf_eq_ok.2 hshows, hrest]
      rfl

/-- **A call that can be read** is one that the document asks for. -/
theorem readCall_eq_ok {name values : Json} {texts : List (String × String)} {s : String} :
    (∃ call, readCall name values = .ok call ∧ call.name = s ∧ textsOf call.values = .ok texts) ↔
      name = .text s ∧ Text.isEmptyOrBlank s = false ∧ Gives values texts := by
  constructor
  · rintro ⟨call, h, rfl, htexts⟩
    unfold readCall at h
    split at h
    · next s =>
      split at h
      · cases h
      · next hblank =>
        split at h
        · cases h
          cases htexts
          exact ⟨rfl, by simpa using hblank, .nothing⟩
        · cases h
          exact ⟨rfl, by simpa using hblank, textsOf_eq_ok.1 htexts⟩
        · cases h
    · cases h
  · rintro ⟨rfl, hblank, hgives⟩
    unfold readCall
    simp only [hblank, Bool.false_eq_true, if_false]
    cases values with
    | null =>
      cases hgives
      exact ⟨_, rfl, rfl, rfl⟩
    | object members => exact ⟨_, rfl, rfl, textsOf_eq_ok.2 hgives⟩
    | _ => cases hgives

theorem ClickType.of?_eq_some {raw : Json} {type : ClickType} :
    ClickType.of? raw = some type ↔ raw = .text type.word := by
  constructor
  · intro h
    unfold ClickType.of? at h
    split at h
    · have hword := List.find?_some h
      rw [eq_of_beq hword]
    · cases h
  · rintro rfl
    cases type <;> rfl

/-- **A click that can be read** has whole numbers and one of four types. -/
theorem readClick_eq_ok {raw : Json} {click : Click} :
    readClick raw = .ok click ↔
      raw.member? "x" = some (.int click.x) ∧ raw.member? "y" = some (.int click.y) ∧
        (raw.member? "type" = none ∧ click.type = ClickType.left ∨
          raw.member? "type" = some (.text click.type.word)) := by
  unfold readClick
  constructor
  · intro h
    split at h
    · next x y hx hy =>
      dsimp only at h
      split at h
      · next type htype =>
        cases h
        refine ⟨hx, hy, ?_⟩
        rw [ClickType.of?_eq_some] at htype
        cases hmember : raw.member? "type" with
        | none =>
          rw [hmember] at htype
          have hword : ClickType.left.word = type.word := by simpa using htype
          exact .inl ⟨rfl, by cases type <;> first | rfl | exact absurd hword (by decide)⟩
        | some value =>
          rw [hmember] at htype
          exact .inr (congrArg some htype)
      · cases h
    · cases h
  · rintro ⟨hx, hy, htype⟩
    rw [hx, hy]
    have hof : ClickType.of? ((raw.member? "type").getD (.text ClickType.left.word))
        = some click.type := by
      rw [ClickType.of?_eq_some]
      rcases htype with ⟨hnone, hleft⟩ | hsome
      · rw [hnone, hleft]
        rfl
      · rw [hsome]
        rfl
    simp only [hof]

theorem readWait_eq_ok {raw : Json} {n : Int} :
    readWait raw = .ok n ↔ raw = .int n ∧ 0 ≤ n := by
  unfold readWait
  constructor
  · intro h
    split at h
    · split at h
      · next hn =>
        cases h
        exact ⟨rfl, hn⟩
      · cases h
    · cases h
  · rintro ⟨rfl, hn⟩
    simp only [hn, if_true]

theorem failsFor_textOf (raw : Json) : FailsFor (· = .numberUnwritable) (textOf raw) := by
  unfold textOf
  split
  · exact failsFor_ok _ _
  · split
    · exact failsFor_ok _ _
    · exact failsFor_error rfl

/-- Only a number that is too long cannot be given to a variable. -/
theorem failsFor_textsOf (members : Members) :
    FailsFor (· = .numberUnwritable) (textsOf members) := by
  unfold textsOf
  refine FailsFor.mapM (fun member => ?_) members
  exact (failsFor_textOf member.2).bind fun _ _ => failsFor_ok _ _

/-! ## Why it fails -/

/-- **What following a document fails with**: what came of a deed, as it is or in the words of the
action; a fault of the action's own, unless that tolerates errors; or a number that is too long for
the words. -/
inductive Blames (follower : Follower) (deeds : List Deed) : Failure → Prop where
  | raised {deed : Deed} {f : Failure} (h : deed ∈ deeds) (hf : deed.failure? = some f) :
    Blames follower deeds f
  | wrapped (text : String) :
    Blames follower deeds (.atAction (.stated .injection text) follower.action)
  | malformed (strict : follower.isTolerant = false) (fault : DirectiveFault) :
    Blames follower deeds (.atAction (.directive fault) follower.action)
  | unanswered (strict : follower.isTolerant = false) (name : String) :
    Blames follower deeds (.atAction (.unknownSequence name) follower.action)
  | unwritable : Blames follower deeds (.failed .numberUnwritable none)

section Blames

variable {follower : Follower} {deeds deeds' : List Deed} {f : Failure}

theorem Blames.mono (h : Blames follower deeds f) (hsub : ∀ deed ∈ deeds, deed ∈ deeds') :
    Blames follower deeds' f := by
  cases h with
  | raised h hf => exact .raised (hsub _ h) hf
  | wrapped text => exact .wrapped text
  | malformed strict fault => exact .malformed strict fault
  | unanswered strict name => exact .unanswered strict name
  | unwritable => exact .unwritable

/-- An action that tolerates errors raises no fault of a directive itself. -/
theorem Blames.of_isDirective (h : Blames follower deeds f) (htolerant : follower.isTolerant = true)
    (hf : f.isDirective = true) : ∃ deed ∈ deeds, deed.failure? = some f := by
  cases h with
  | raised h hf => exact ⟨_, h, hf⟩
  | wrapped text => cases hf
  | malformed strict | unanswered strict =>
    rw [htolerant] at strict
    cases strict
  | unwritable => cases hf

end Blames

/-! ## Obeying it -/

/-- What is left undone by an action that does not tolerate errors: the first directive that is
malformed or fails is a failure of the whole, and nothing behind it is done. -/
structure Strict (document : Json) (deeds : List Deed) (result : Except Failure Unit) : Prop where
  root : (∀ members, document ≠ .object members) → deeds = [] ∧ ∃ f, result = .error f
  call : document.member? "sequenceName" ≠ none →
    (∃ deed ∈ deeds, deed.isCall = true ∧ deed.isDone = true) ∨
      (∃ f, result = .error f) ∧ ∀ deed ∈ deeds, deed.isCall = true
  click : document.member? "clickAction" ≠ none →
    (∃ deed ∈ deeds, deed.isClick = true ∧ deed.isDone = true) ∨
      (∃ f, result = .error f) ∧ ∀ deed ∈ deeds, deed.isWait = false
  wait : document.member? "waitTime" ≠ none →
    (∃ deed ∈ deeds, deed.isCall = false ∧ deed.isDone = true) ∨ ∃ f, result = .error f

/-- **Deeds that obey a document.** There is at most one call, before anything else, and at most one
click or wait. Each is asked for, a wait only where no click is asked for and none is wrongly asked
for in the eyes of the action. An action that does not tolerate errors stops at the first directive
that is malformed or fails; one that does raises no fault of a directive unless a deed has come to
that. And what goes well has done what is asked for. -/
structure Obeys (follower : Follower) (available : Bool) (document : Json) (deeds : List Deed)
    (result : Except Failure Unit) : Prop where
  order : ∃ calls acts, deeds = calls ++ acts ∧ calls.length ≤ 1 ∧ acts.length ≤ 1 ∧
    (∀ deed ∈ calls, deed.isCall = true) ∧ ∀ deed ∈ acts, deed.isCall = false
  called : ∀ name values found, .call name values found ∈ deeds → CallsFor document name values
  clicked : ∀ input made, .click input made ∈ deeds → ClicksFor follower document input
  waited : ∀ duration slept, .wait duration slept ∈ deeds → WaitsFor document duration ∧
    (document.member? "clickAction" = none ∨
      follower.isTolerant = true ∧ ∀ input, ¬ClicksFor follower document input)
  strict : follower.isTolerant = false → Strict document deeds result
  lenient : follower.isTolerant = true → ∀ f, result = .error f → f.isDirective = true →
    ∃ deed ∈ deeds, deed.failure? = some f
  blamed : ∀ f, result = .error f → Blames follower deeds f
  performed : result = .ok () →
    (available = true → (∃ name values, CallsFor document name values) →
      ∃ deed ∈ deeds, deed.isCall = true) ∧
    ((∃ input, ClicksFor follower document input) →
      ∃ deed ∈ deeds, deed.isClick = true ∧ deed.isDone = true) ∧
    ((∃ duration, WaitsFor document duration) →
      (∀ input, ¬ClicksFor follower document input) →
      ∃ deed ∈ deeds, deed.isWait = true ∧ deed.isDone = true)

end Directive
end DesktopMacro
