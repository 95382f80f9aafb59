/-
Directives are followed as they are written.

A document with one directive is written as text, and an action with that text as its template finds
the document again and does what it says. What a run does is read off its journal, where every
request to a collaborator is written down before it is made: so it can be said that there is this
request and no other, whatever the collaborators make of it.
-/
import DesktopMacro.Proofs.Number.Writable
import DesktopMacro.Proofs.Payload.Rendering
import DesktopMacro.Proofs.Run.Inputs

set_option autoImplicit false

namespace DesktopMacro

variable {ω α β : Type}

/-! ## Requests in a journal -/

/-- What a step asks a collaborator for. -/
def Step.request? : Step → Option Request
  | asked request => some request
  | _ => none

namespace Machine

/-- **What a run has asked its collaborators for**, in its order. -/
def requests (m : Machine ω) : List Request := m.journal.reverse.filterMap (·.step.request?)

theorem requests_mark (m : Machine ω) (step : Step) :
    (m.mark step).requests = m.requests ++ step.request?.toList := by
  change (_ :: m.journal).reverse.filterMap _ = _
  rw [List.reverse_cons, List.filterMap_append]
  cases h : step.request? <;> simp [requests, h]

end Machine

namespace Run

/-- **A run asks for just this**, in this order, from whatever machine it starts and however it
ends. -/
def Asks (run : Run ω α) (requests : List Request) : Prop :=
  ∀ m : Machine ω, (run.on m).2.requests = m.requests ++ requests

theorem asks_pure (a : α) : Asks (pure a : Run ω α) [] := fun _ => (List.append_nil _).symm

theorem asks_fail (f : Failure) : Asks (fail f : Run ω α) [] := by
  intro m
  rw [on_fail]
  exact m.requests_mark (.failed f)

theorem asks_throw (f : Failure) : Asks (throw f : Run ω α) [] := fun _ => (List.append_nil _).symm

theorem requests_log (text : String) (level : Level) (m : Machine ω) :
    ((m.see [.logged ⟨level, text⟩]).tell text).requests = m.requests := by
  unfold Machine.requests
  rw [Machine.journal_tell]
  rfl

theorem asks_log (text : String) (level : Level) : Asks (log text level : Run ω Unit) [] := by
  intro m
  rw [on_log, List.append_nil]
  exact requests_log text level m

/-- Whatever comes of it, a collaborator is asked once. -/
theorem asks_ask (request : Request) (effect : Effect ω α) :
    Asks (ask request effect) [request] := by
  intro m
  rw [on_ask, on_perform]
  cases (effect (m.mark (.asked request)).world).result with
  | ok a => exact m.requests_mark (.asked request)
  | error f =>
    have hfailed := ((m.mark (.asked request)).after
      (effect (m.mark (.asked request)).world)).requests_mark (.failed f)
    exact (hfailed.trans (List.append_nil _)).trans (m.requests_mark (.asked request))

variable {x : Run ω α} {requests : List Request}

/-- What follows and asks for nothing does not count. -/
theorem Asks.bind {f : α → Run ω β} (h : x.Asks requests) (hf : ∀ a, (f a).Asks []) :
    (x >>= f).Asks requests := by
  intro m
  rw [on_bind]
  have hx := h m
  rcases hr : x.on m with ⟨r, m'⟩
  rw [hr] at hx
  cases r with
  | ok a =>
    have hmore := hf a m'
    rw [List.append_nil] at hmore
    exact hmore.trans hx
  | error f => exact hx

theorem Asks.settled {f : Except Failure α → Run ω β} (h : x.Asks requests)
    (hf : ∀ r, (f r).Asks []) : (x.outcome >>= f).Asks requests := by
  intro m
  have hmore := hf (x.on m).1 (x.on m).2
  rw [List.append_nil] at hmore
  rw [on_outcome_bind, hmore]
  exact h m

/-- A message before it changes nothing. -/
theorem Asks.after_log {f : Unit → Run ω α} (text : String) (level : Level)
    (h : (f ()).Asks requests) : ((log text level : Run ω Unit) >>= f).Asks requests := by
  intro m
  rw [on_bind_ok (on_log text level m), h, requests_log]

end Run

namespace Directive

/-! ## Documents -/

/-- The variables of a call as members. -/
def texts (values : List (String × String)) : Members :=
  values.map fun entry => (entry.1, .text entry.2)

theorem textsOf_texts (values : List (String × String)) : textsOf (texts values) = .ok values := by
  induction values with
  | nil => rfl
  | cons entry values ih =>
    unfold textsOf texts at ih ⊢
    rw [List.map_cons, List.mapM_cons, ih]
    rfl

namespace Follower

variable (follower : Follower) (team : Collaborators ω)

theorem follow_sequence (lookup : Option (Lookup ω)) (name : Json)
    (values : List (String × String)) :
    follower.follow team lookup (sequenceDocument name (.object (texts values)))
      = follower.call lookup name (if values.isEmpty then .null else .object (texts values)) := by
  unfold follow sequenceDocument
  cases values with
  | nil => simp [Members.get?, Members.has, Json.isEmpty, texts]
  | cons entry values => simp [Members.get?, Members.has, Json.isEmpty, texts]

theorem follow_click (lookup : Option (Lookup ω)) (x y type : Json) :
    follower.follow team lookup (clickDocument x y type)
      = follower.click team (.object [("x", x), ("y", y), ("type", type)])
        >>= fun _ => pure () := by
  unfold follow clickDocument
  simp [Members.get?, Members.has]

theorem follow_wait (lookup : Option (Lookup ω)) (duration : Json) :
    follower.follow team lookup (waitDocument duration)
      = follower.wait team duration >>= fun _ => pure () := by
  unfold follow waitDocument
  simp [Members.get?, Members.has]

/-- Whatever comes of it, the lookup is asked once. -/
theorem asks_ask (answer : String → List (String × String) → Effect ω Bool) (name : String)
    (values : List (String × String)) :
    (follower.ask (Run.foreignLookup answer) name values).Asks [.lookup name values] := by
  have hlookup : (Run.foreignLookup answer name values).Asks [.lookup name values] :=
    Run.asks_ask _ _
  unfold ask
  dsimp only
  split
  -- With variables or without, the call is the same; only what is logged before it differs.
  all_goals
    refine .after_log _ _ (hlookup.settled fun r => ?_)
    cases r with
    | ok found => exact Run.asks_pure found
    | error failure =>
      dsimp only
      split
      · exact Run.asks_throw failure
      · exact Run.asks_fail _

theorem asks_call (answer : String → List (String × String) → Effect ω Bool) {name : String}
    (hname : Text.isEmptyOrBlank name = false) (values : List (String × String)) :
    (follower.call (some (Run.foreignLookup answer)) (.text name)
      (if values.isEmpty then .null else .object (texts values))).Asks [.lookup name values] := by
  have hread : readCall (.text name) (if values.isEmpty then .null else .object (texts values))
      = .ok ⟨name, texts values⟩ := by
    cases values <;> simp [readCall, hname, texts]
  unfold call
  rw [hread]
  dsimp only
  rw [textsOf_texts]
  refine Run.Asks.bind (x := follower.ask _ name values) (follower.asks_ask answer name values)
    fun found => ?_
  split
  · split
    · exact Run.asks_log _ _
    · exact Run.asks_fail _
  · exact Run.asks_pure ()

theorem readClick_object (x y : Int) (type : ClickType) :
    readClick (.object [("x", .int x), ("y", .int y), ("type", .text type.word)])
      = .ok ⟨x, y, type⟩ := by
  cases type <;> rfl

/-- **A click that can be written is made once**, shifted by the offset. -/
theorem asks_click {x y : Int} (hx : Integer.IsWritable (x + follower.offsetX))
    (hy : Integer.IsWritable (y + follower.offsetY)) (type : ClickType) :
    (follower.click team (.object [("x", .int x), ("y", .int y), ("type", .text type.word)])).Asks
      [.input (type.input (x + follower.offsetX) (y + follower.offsetY))] := by
  have hwritable : (!(decide (Integer.IsWritable (x + follower.offsetX))
      && decide (Integer.IsWritable (y + follower.offsetY)))) = false := by
    simp [hx, hy]
  unfold click
  rw [readClick_object x y type]
  dsimp only
  rw [hwritable]
  have hinput := Run.asks_ask
    (.input (type.input (x + follower.offsetX) (y + follower.offsetY)))
    (team.input (type.input (x + follower.offsetX) (y + follower.offsetY)))
  refine Run.Asks.after_log _ _ (Run.Asks.settled hinput fun r => ?_)
  cases r with
  | ok => exact Run.asks_pure true
  | error failure =>
    dsimp only
    split
    · exact Run.asks_throw failure
    · exact Run.asks_fail _

/-- A click at a point that cannot be written is not made. -/
theorem asks_click_unwritable {x : Int} (h : ¬Integer.IsWritable (x + follower.offsetX)) (y : Int)
    (type : ClickType) :
    (follower.click team (.object [("x", .int x), ("y", .int y), ("type", .text type.word)])).Asks
      [] := by
  have hunwritable : (!(decide (Integer.IsWritable (x + follower.offsetX))
      && decide (Integer.IsWritable (y + follower.offsetY)))) = true := by
    simp [h]
  unfold click
  rw [readClick_object x y type]
  dsimp only
  rw [hunwritable]
  intro m
  rw [if_pos rfl, Run.on_bind_error (Run.on_fail _ m)]
  exact m.requests_mark _

/-- **A wait that can be written is a pause of this length**, after a message. -/
theorem wait_eq {n : Int} (hn : 0 ≤ n) (hwritable : Integer.IsWritable n) :
    (follower.wait team (.int n) >>= fun _ => pure ())
      = (do
          Run.log s!"Waiting {Integer.toText n} ms"
          team.sleep n) := by
  unfold wait
  simp [readWait, hn, hwritable]

end Follower

/-! ## Templates -/

theorem write_of_isWritable {document : Json} (h : document.isWritable = true) :
    write document = .ok (document.render layout) := by
  unfold write Json.write?
  rw [if_pos h]

/-- A text with a payload as its template is followed as its document is. -/
theorem attemptPayload_template {text shown : String} {document : Json}
    (h : Payload.extract text = .ok ⟨shown, document, none⟩) (team : Collaborators ω)
    (lookup : Option (Lookup ω)) (action : Action) (task : PayloadTask) :
    Run.attemptPayload team lookup action { task with fromClipboard := false, template := text }
      = Follower.follow ⟨action, task.offsetX, task.offsetY⟩ team lookup document := by
  have hshown : text.isEmpty = false := by
    cases hempty : text.isEmpty with
    | false => rfl
    | true =>
      rw [String.isEmpty_iff.1 hempty] at h
      cases h
  unfold Run.attemptPayload Run.extractPayload
  simp only [Bool.false_eq_true, if_false, pure_bind, hshown, h]
  rfl

/-- **A clear document is written, found again and followed.** -/
theorem exists_written {members : Members} (hfits : (Json.object members).Fits 0)
    (hwritable : (Json.object members).isWritable = true)
    (hclear : (Json.object members).IsClear) :
    ∃ text, write (.object members) = .ok text ∧
      ∀ (team : Collaborators ω) (lookup : Option (Lookup ω)) (action : Action)
        (task : PayloadTask), Run.attemptPayload team lookup action
            { task with fromClipboard := false, template := text }
          = Follower.follow ⟨action, task.offsetX, task.offsetY⟩ team lookup (.object members) :=
  ⟨_, write_of_isWritable hwritable, fun team lookup action task =>
    attemptPayload_template (Payload.extract_render layout hfits hwritable hclear) team lookup
      action task⟩

theorem membersFit_texts (depth : Nat) (values : List (String × String)) :
    Json.MembersFit depth (texts values) := by
  induction values with
  | nil => trivial
  | cons entry values ih => exact ⟨trivial, ih⟩

theorem membersWritable_texts (values : List (String × String)) :
    Json.membersWritable (texts values) = true := by
  induction values with
  | nil => rfl
  | cons entry values ih => exact ih

theorem membersClear_texts {values : List (String × String)}
    (h : ∀ entry ∈ values, EndsClearly entry.1 ∧ EndsClearly entry.2) :
    Json.MembersClear (texts values) := by
  induction values with
  | nil => trivial
  | cons entry values ih =>
    obtain ⟨hentry, hvalues⟩ := List.forall_mem_cons.1 h
    exact ⟨hentry.1, hentry.2, ih hvalues⟩

theorem names_texts (values : List (String × String)) :
    (texts values).map Prod.fst = values.map Prod.fst := by
  unfold texts
  rw [List.map_map]
  rfl

/-- The members of a document that asks for a sequence. -/
def sequenceMembers (name : String) (values : List (String × String)) : Members :=
  ("sequenceName", .text name) ::
    (if values.isEmpty then [] else [("variables", .object (texts values))])

theorem sequenceDocument_texts (name : String) (values : List (String × String)) :
    sequenceDocument (.text name) (.object (texts values))
      = .object (sequenceMembers name values) := by
  cases values <;> rfl

section Sequences

variable {name : String} {values : List (String × String)}

theorem fits_sequenceMembers (hnodup : (values.map Prod.fst).Nodup) :
    (Json.object (sequenceMembers name values)).Fits 0 := by
  have hnames : ((texts values).map Prod.fst).Nodup := by rwa [names_texts]
  unfold sequenceMembers
  split
  · exact ⟨by decide, List.nodup_singleton _, trivial, trivial⟩
  · exact ⟨by decide, by simp, trivial,
      ⟨by decide, hnames, membersFit_texts 2 values⟩, trivial⟩

theorem writable_sequenceMembers (name : String) (values : List (String × String)) :
    (Json.object (sequenceMembers name values)).isWritable = true := by
  unfold sequenceMembers
  split
  · rfl
  · have hvalues := membersWritable_texts values
    simp [Json.isWritable, Json.membersWritable, hvalues]

theorem clear_sequenceMembers (hname : EndsClearly name)
    (hvalues : ∀ entry ∈ values, EndsClearly entry.1 ∧ EndsClearly entry.2) :
    (Json.object (sequenceMembers name values)).IsClear := by
  have hfirst : EndsClearly "sequenceName" := by decide
  have hsecond : EndsClearly "variables" := by decide
  unfold sequenceMembers
  split
  · exact ⟨hfirst, hname, trivial⟩
  · exact ⟨hfirst, hname, hsecond, membersClear_texts hvalues, trivial⟩

end Sequences

/-- The document of a click fits and is clear. -/
theorem fits_clickDocument (x y : Int) (type : ClickType) :
    (clickDocument (.int x) (.int y) (.text type.word)).Fits 0 ∧
      (clickDocument (.int x) (.int y) (.text type.word)).IsClear := by
  have hword : EndsClearly type.word := by cases type <;> decide
  have hclear : EndsClearly "clickAction" ∧ EndsClearly "x" ∧ EndsClearly "y" ∧
      EndsClearly "type" := by decide
  obtain ⟨haction, hx, hy, htype⟩ := hclear
  refine ⟨⟨by decide, by simp, ⟨by decide, by simp, ?_⟩, trivial⟩, haction, ?_, trivial⟩
  · exact ⟨trivial, trivial, trivial, trivial⟩
  · exact ⟨hx, trivial, hy, trivial, htype, hword, trivial⟩

theorem exists_written_click {x y : Int} (hx : Integer.IsWritable x) (hy : Integer.IsWritable y)
    (type : ClickType) :
    ∃ text, write (clickDocument (.int x) (.int y) (.text type.word)) = .ok text ∧
      ∀ (team : Collaborators ω) (lookup : Option (Lookup ω)) (action : Action)
        (task : PayloadTask), Run.attemptPayload team lookup action
            { task with fromClipboard := false, template := text }
          = (Follower.click ⟨action, task.offsetX, task.offsetY⟩ team
              (.object [("x", .int x), ("y", .int y), ("type", .text type.word)])
            >>= fun _ => pure ()) := by
  obtain ⟨hfits, hclear⟩ := fits_clickDocument x y type
  have hwritable : (clickDocument (.int x) (.int y) (.text type.word)).isWritable = true := by
    simp [clickDocument, Json.isWritable, Json.membersWritable, hx, hy]
  obtain ⟨text, hwrite, hfollow⟩ := exists_written (ω := ω) hfits hwritable hclear
  refine ⟨text, hwrite, fun team lookup action task => ?_⟩
  rw [hfollow]
  exact Follower.follow_click _ team lookup _ _ _

/-- **Templates are followed as they were asked for.** Each of the three documents that hold one
directive is written, and an action with the text as its template does what the directive says:

- a sequence is looked up once, by its name and with its variables, and nothing else is asked for;
- a click is made once, of the sort and at the point that was given, shifted by the action's offset;
- a wait is a pause of the length that was given, after a message.

The name and the variables may hold any characters, but none of them ends in a backslash: the search
for the closing brace would take the quote behind it for one of the text. Numbers are within the
limit of what can be written. -/
theorem templates_followed (team : Collaborators ω)
    (answer : String → List (String × String) → Effect ω Bool) (action : Action)
    (task : PayloadTask) :
    (∀ name values, Text.isEmptyOrBlank name = false → (values.map Prod.fst).Nodup →
      EndsClearly name → (∀ entry ∈ values, EndsClearly entry.1 ∧ EndsClearly entry.2) →
      ∃ text, write (sequenceDocument (.text name) (.object (texts values))) = .ok text ∧
        (Run.attemptPayload team (some (Run.foreignLookup answer)) action
          { task with fromClipboard := false, template := text }).Asks [.lookup name values]) ∧
    (∀ x y type, Integer.IsWritable x → Integer.IsWritable y →
      Integer.IsWritable (x + task.offsetX) → Integer.IsWritable (y + task.offsetY) →
      ∃ text, write (clickDocument (.int x) (.int y) (.text (ClickType.word type))) = .ok text ∧
        (Run.attemptPayload team (some (Run.foreignLookup answer)) action
          { task with fromClipboard := false, template := text }).Asks
            [.input (type.input (x + task.offsetX) (y + task.offsetY))]) ∧
    (∀ n, 0 ≤ n → Integer.IsWritable n →
      ∃ text, write (waitDocument (.int n)) = .ok text ∧
        Run.attemptPayload team (some (Run.foreignLookup answer)) action
          { task with fromClipboard := false, template := text }
          = (do
              Run.log s!"Waiting {Integer.toText n} ms"
              team.sleep n)) := by
  refine ⟨fun name values hname hnodup hend hends => ?_, fun x y type hx hy hx' hy' => ?_,
    fun n hn hwritable => ?_⟩
  · obtain ⟨text, hwrite, hfollow⟩ := exists_written (ω := ω) (fits_sequenceMembers hnodup)
      (writable_sequenceMembers name values) (clear_sequenceMembers hend hends)
    rw [← sequenceDocument_texts] at hwrite hfollow
    refine ⟨text, hwrite, ?_⟩
    rw [hfollow, Follower.follow_sequence]
    exact Follower.asks_call _ answer hname values
  · obtain ⟨text, hwrite, hfollow⟩ := exists_written_click (ω := ω) hx hy type
    refine ⟨text, hwrite, ?_⟩
    rw [hfollow]
    exact (Follower.asks_click _ team hx' hy' type).bind fun _ => Run.asks_pure ()
  · have hfits : (waitDocument (.int n)).Fits 0 :=
      ⟨by decide, by simp, trivial, trivial⟩
    have hclear : (waitDocument (.int n)).IsClear :=
      ⟨by decide, trivial, trivial⟩
    have hshown : (waitDocument (.int n)).isWritable = true := by
      simp [waitDocument, Json.isWritable, Json.membersWritable, hwritable]
    obtain ⟨text, hwrite, hfollow⟩ := exists_written (ω := ω) hfits hshown hclear
    refine ⟨text, hwrite, ?_⟩
    rw [hfollow]
    exact (Follower.follow_wait _ team _ _).trans (Follower.wait_eq _ team hn hwritable)

/-- A name and variables with quotes, braces, line breaks and backslashes in them, a double click at
a shifted point, and a wait. -/
theorem templates_followed_samples :
    (∃ text, write (sequenceDocument (.text "\\\"a") (.object (texts [("b\n", "\x7d"), ("c", "")])))
        = .ok text ∧
      (Run.attemptPayload withCalmDevices (some (Run.foreignLookup fun _ _ => .done true)) default
        { PayloadTask.initial with fromClipboard := false, template := text }).Asks
          [.lookup "\\\"a" [("b\n", "\x7d"), ("c", "")]]) ∧
    (∃ text, write (clickDocument (.int 7) (.int (-3)) (.text ClickType.double.word)) = .ok text ∧
      (Run.attemptPayload withCalmDevices (some (Run.foreignLookup fun _ _ => .done true)) default
        { PayloadTask.initial with fromClipboard := false, template := text }).Asks
          [.input (.doubleClick 7 (-3))]) ∧
    (∃ text, write (waitDocument (.int 50)) = .ok text ∧
      Run.attemptPayload withCalmDevices (some (Run.foreignLookup fun _ _ => .done true)) default
        { PayloadTask.initial with fromClipboard := false, template := text }
        = (do
            Run.log s!"Waiting {Integer.toText 50} ms"
            withCalmDevices.sleep 50)) := by
  obtain ⟨hsequence, hclick, hwait⟩ := templates_followed withCalmDevices
    (fun _ _ => .done true) default PayloadTask.initial
  exact ⟨hsequence _ _ (by decide) (by decide) (by decide) (by decide),
    hclick 7 (-3) .double (by decide) (by decide) (by decide) (by decide),
    hwait 50 (by decide) (by decide)⟩

/-- **Where templates are not followed.** A text that ends in a backslash hides the end of its
literal from the search for the closing brace, whether it is the name, the name of a variable or its
value. A number beyond the limit is not written, and no click is made at a point beyond the limit,
although its own coordinates are within it. -/
theorem templates_missed :
    (∃ text, write (sequenceDocument (.text "a\\") (.object (texts []))) = .ok text ∧
      Payload.extract text = .error .noCandidate) ∧
    (∃ text, write (sequenceDocument (.text "a") (.object (texts [("b\\", "c")]))) = .ok text ∧
      Payload.extract text = .error .noCandidate) ∧
    (∃ text, write (sequenceDocument (.text "a") (.object (texts [("b", "c\\")]))) = .ok text ∧
      Payload.extract text = .error .noCandidate) ∧
    write (clickDocument (.int (10 ^ Integer.digitLimit)) (.int 0) (.text ClickType.left.word))
      = .error .numberUnwritable ∧
    write (waitDocument (.int (10 ^ Integer.digitLimit))) = .error .numberUnwritable ∧
    (∃ text, write (clickDocument (.int (10 ^ Integer.digitLimit - 1)) (.int 0)
        (.text ClickType.left.word)) = .ok text ∧
      (Run.attemptPayload withCalmDevices none default
        { PayloadTask.initial with fromClipboard := false, template := text, offsetX := 1 }).Asks
          []) := by
  have hlong : decide (Integer.IsWritable (10 ^ Integer.digitLimit)) = false :=
    decide_eq_false (Integer.not_isWritable_pow (Nat.le_refl Integer.digitLimit))
  have hunwritten : ∀ {document : Json}, document.isWritable = false →
      write document = .error .numberUnwritable := by
    intro document h
    unfold write Json.write?
    rw [h]
    rfl
  refine ⟨⟨_, rfl, ?_⟩, ⟨_, rfl, ?_⟩, ⟨_, rfl, ?_⟩, ?_, ?_, ?_⟩
  · exact Payload.extract_of_candidates_nil (by decide +kernel)
  · exact Payload.extract_of_candidates_nil (by decide +kernel)
  · exact Payload.extract_of_candidates_nil (by decide +kernel)
  · refine hunwritten ?_
    simp only [clickDocument, Json.isWritable, Json.membersWritable, hlong, Bool.false_and]
  · refine hunwritten ?_
    simp only [waitDocument, Json.isWritable, Json.membersWritable, hlong, Bool.false_and]
  · have hzero : Integer.IsWritable 0 := by decide
    obtain ⟨text, hwrite, hfollow⟩ := exists_written_click (ω := Unit)
      Integer.isWritable_pow_pred hzero .left
    refine ⟨text, hwrite, ?_⟩
    have hbeyond : ¬Integer.IsWritable (10 ^ Integer.digitLimit - 1 + 1) := by
      rw [Int.sub_add_cancel]
      exact Integer.not_isWritable_pow (Nat.le_refl Integer.digitLimit)
    have hclick := Follower.asks_click_unwritable ⟨default, 1, 0⟩ withCalmDevices hbeyond 0 .left
    exact (hfollow withCalmDevices none default { PayloadTask.initial with offsetX := 1 }) ▸
      hclick.bind fun _ => Run.asks_pure ()

end Directive
end DesktopMacro
