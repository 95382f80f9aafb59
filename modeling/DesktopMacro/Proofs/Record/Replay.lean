/-
A recording is replayed as it was reported.

Strokes are what reports and input have in common: a character that is typed, or an input that types
nothing. A text that is typed counts for its characters, so how the characters were put into texts
does not matter as long as nothing comes in between.

A recorded action is read back from its document, can be described, and has a delay that can be
slept through, so running it makes the input of its task. The strokes of that input are those of
what the action holds, and what all actions hold is what the reports contribute.

A combination has no main key where the name of the key is empty, and a report of the mouse has to
have numbers that can be written. The delays have to have doubles.
-/
import DesktopMacro.Proofs.Action.Documents
import DesktopMacro.Proofs.Key.Names
import DesktopMacro.Proofs.Record.Conservation
import DesktopMacro.Proofs.Run.Inputs

set_option autoImplicit false

namespace DesktopMacro

/-! ## Strokes -/

/-- A stroke: a character that is typed, or an input that types nothing. -/
inductive Stroke where
  | character (c : Char)
  | input (input : Input)
deriving DecidableEq, Repr

/-- **The strokes of an input**: those of a text are its characters. -/
def Input.strokes : Input → List Stroke
  | .typeText text _ => text.toList.map .character
  | input => [.input input]

/-- The button that a name stands for. -/
def buttonOf : (button : String) → MouseButton
  | "right" => .right
  | "middle" => .middle
  | _ => .left

namespace Stroke

/-- The strokes of a key that went down. -/
def ofKey (layout : Layout) (held : Held) (key : String) : List Stroke :=
  if Key.isModifier key then []
  else if held.ctrl || held.alt then
    [.input (.pressCombination (held.keys ++ if key.isEmpty then [] else [key]))]
  else if Key.isPrintable key then [.character (layout.typed key held.shift)]
  else [.input (.pressKey key)]

/-- **The strokes of a report**, while modifiers are held. -/
def ofReport {τ : Type} (layout : Layout) (held : Held) : InputEvent τ → List Stroke
  | .key event => if event.down then ofKey layout held (Key.normalize event.key) else []
  | .mouse event =>
    [.input (if event.wheel = 0 then .click event.x event.y (buttonOf event.button)
      else .scroll event.x event.y event.wheel)]

/-- **The strokes of reports**, one after the other. -/
def ofReports {τ : Type} (layout : Layout) : (held : Held) → List (InputEvent τ) → List Stroke
  | _, [] => []
  | held, event :: events =>
    ofReport layout held event ++ ofReports layout (held.after event) events

end Stroke

/-- The strokes of a contribution. -/
def Contribution.strokes : Contribution → List Stroke
  | character c => [.character c]
  | combination keys => [.input (.pressCombination keys)]
  | keyPress key => [.input (.pressKey key)]
  | mouse task => [.input (Run.mouseInput task)]
  | other _ => []

/-! ## Reports -/

section Reports

variable {τ : Type}

/-- The gesture of a button makes a click with it. -/
theorem mouseInput_clickOf (x y wheel : Int) (button : String) :
    Run.mouseInput ⟨x, y, wheel, clickOf button⟩ = .click x y (buttonOf button) := by
  by_cases hright : button = "right"
  · subst hright
    rfl
  by_cases hmiddle : button = "middle"
  · subst hmiddle
    rfl
  have hclick : clickOf button = .leftClick := by
    unfold clickOf
    split <;> trivial
  have hbutton : buttonOf button = .left := by
    unfold buttonOf
    split <;> trivial
  rw [hclick, hbutton]
  rfl

/-- The mouse types nothing. -/
theorem typeText_ne_mouseInput (task : MouseTask) {text : String} {delay : Int} :
    Input.typeText text delay ≠ Run.mouseInput task := by
  unfold Run.mouseInput
  split <;> exact nofun

theorem strokes_mouseInput (task : MouseTask) :
    (Run.mouseInput task).strokes = [.input (Run.mouseInput task)] := by
  unfold Run.mouseInput
  split <;> rfl

theorem strokes_ofReport (layout : Layout) (held : Held) (event : InputEvent τ) :
    (Contribution.ofReport layout held event).flatMap Contribution.strokes
      = Stroke.ofReport layout held event := by
  cases event with
  | key event =>
    unfold Contribution.ofReport Stroke.ofReport
    dsimp only
    split
    · unfold Contribution.ofKey Stroke.ofKey
      split
      · rfl
      split
      · rfl
      split <;> rfl
    · rfl
  | mouse event =>
    unfold Contribution.ofReport Stroke.ofReport Contribution.ofMouse
    dsimp only [List.flatMap_cons, List.flatMap_nil, Contribution.strokes]
    split
    · change [Stroke.input (Run.mouseInput
        ⟨event.x, event.y, event.wheel, clickOf event.button⟩)] = _
      rw [mouseInput_clickOf]
    · rfl

/-- **What reports contribute has their strokes.** -/
theorem strokes_ofReports (layout : Layout) (held : Held) (events : List (InputEvent τ)) :
    (Contribution.ofReports layout held events).flatMap Contribution.strokes
      = Stroke.ofReports layout held events := by
  induction events generalizing held with
  | nil => rfl
  | cons event events ih =>
    unfold Contribution.ofReports Stroke.ofReports
    rw [List.flatMap_append, strokes_ofReport, ih]

end Reports

/-! ## Recorded tasks -/

namespace Capture

/-- The keys of held modifiers have their own names. -/
theorem normalize_of_mem_held {held : Held} : ∀ key ∈ held.keys, Key.normalize key = key := by
  obtain ⟨ctrl, alt, shift⟩ := held
  revert ctrl alt shift
  decide +kernel

theorem keys_ne_nil {held : Held} (h : (held.ctrl || held.alt) = true) : held.keys ≠ [] := by
  obtain ⟨ctrl, alt, shift⟩ := held
  revert ctrl alt shift
  decide

variable {charDelay : Int} {task : Action.Task}

/-- **A recorded task is settled.** -/
theorem Recordable.settled (h : Recordable charDelay task) : task.Settled := by
  cases h with
  | text text => exact fun name hname => absurd hname List.not_mem_nil
  | combination held key =>
    intro name hname
    rcases List.mem_append.1 hname with hheld | hkey
    · exact normalize_of_mem_held name hheld
    · split at hkey
      · cases hkey
      · rw [List.mem_singleton.1 hkey]
        exact Key.normalize_normalize key
  | keyPress key =>
    intro name hname
    rw [List.mem_singleton.1 hname]
    exact Key.normalize_normalize key
  | mouse => trivial

/-- A recorded task can be described. -/
theorem Recordable.isWritable_shownNumbers (h : Recordable charDelay task) :
    ∀ n ∈ task.shownNumbers, Integer.IsWritable n := by
  cases h with
  | text | combination | keyPress => exact fun _ => nofun
  | mouse x y wheel button hx hy hwheel =>
    unfold Action.Task.shownNumbers MouseTask.shownNumbers
    dsimp only
    split <;> simp [hx, hy, hwheel]

/-- A text among input is not empty, and has the given delay. -/
def TypesWell (charDelay : Int) (inputs : List Input) : Prop :=
  ∀ text delay, .typeText text delay ∈ inputs → text ≠ "" ∧ delay = charDelay

/-- **A recorded task makes input with the strokes of what it holds.** -/
theorem Recordable.exists_inputs (h : Recordable charDelay task) : ∃ inputs,
    task.inputs? = some inputs ∧ TypesWell charDelay inputs
      ∧ ∀ header, inputs.flatMap Input.strokes
        = (Contribution.ofAction (.task header task)).flatMap Contribution.strokes := by
  cases h with
  | text text hne =>
    refine ⟨[.typeText text charDelay], ?_, ?_, fun header => ?_⟩
    · have hempty : text.isEmpty = false := by simpa using hne
      unfold Action.Task.inputs? KeyboardTask.inputs
      dsimp only
      rw [hempty]
      rfl
    · rintro other delay hmem
      cases List.mem_singleton.1 hmem
      exact ⟨hne, rfl⟩
    · change text.toList.map Stroke.character ++ []
        = (text.toList.map Contribution.character).flatMap Contribution.strokes
      rw [List.append_nil, List.flatMap_map]
      exact List.map_eq_flatMap
  | combination held key hheld =>
    refine ⟨[.pressCombination _], ?_, fun _ _ => by simp, fun header => rfl⟩
    -- A modifier is held, so there are keys.
    have hkeys : (held.keys ++ if (Key.normalize key).isEmpty then [] else [Key.normalize key]) ≠ []
        := fun hnil => keys_ne_nil hheld (List.append_eq_nil_iff.1 hnil).1
    unfold Action.Task.inputs? KeyboardTask.inputs
    dsimp only
    rw [List.isEmpty_eq_false_iff.2 hkeys]
    rfl
  | keyPress key => exact ⟨[.pressKey _], rfl, fun _ _ => by simp, fun header => rfl⟩
  | mouse x y wheel button =>
    refine ⟨_, rfl, fun text delay hmem => ?_, fun header => ?_⟩
    · exact absurd (List.mem_singleton.1 hmem) (typeText_ne_mouseInput _)
    · change (Run.mouseInput _).strokes ++ [] = _
      rw [List.append_nil, strokes_mouseInput]
      rfl

/-! ## Recorded actions -/

/-- The input that an action asks for, if it is one of the mouse or the keyboard. -/
def inputsOf : Action → List Input
  | .task _ task => task.inputs?.getD []
  | _ => []

variable {moments : List Quantity}

/-- The delay of a recorded action can be slept through. -/
theorem Made.exists_seconds {header : Action.Header}
    (hdelays : ∀ a ∈ moments, ∀ b ∈ moments, Quantity.HasFiniteDelay a b)
    (h : Made (Quantity.Reachable moments) charDelay header task) :
    ∃ length, Pause.seconds header.delayBefore = .ok length := by
  obtain ⟨a, b, n, ha, hb, hn, hdelay⟩ := h.delay
  rw [hdelay]
  exact Quantity.exists_seconds (Quantity.isFinite_of_reachable hdelays ha hb hn)

/-- **A recorded action is settled**: its delay is not negative. -/
theorem Made.settled {P : Quantity → Prop} {header : Action.Header}
    (h : Made P charDelay header task) : (Action.task header task).Settled 1 := by
  obtain ⟨_, _, n, -, -, -, hdelay⟩ := h.delay
  refine ⟨by decide, ?_, h.task.settled⟩
  rw [hdelay]
  exact le_max_left 0 n

/-- **A recorded action is replayed**: it is settled, and running it makes its input. -/
structure IsReplayed (charDelay : Int) (action : Action) : Prop where
  settled : action.Settled 1
  makes : ∀ {ω : Type} {team : Collaborators ω} (lookup : Option (Lookup ω)) (place : Place),
    team.IsReliable → (Run.runAction team lookup place action).Makes (inputsOf action)
  types : TypesWell charDelay (inputsOf action)
  strokes : (inputsOf action).flatMap Input.strokes
    = (Contribution.ofAction action).flatMap Contribution.strokes

theorem Made.isReplayed {header : Action.Header}
    (hdelays : ∀ a ∈ moments, ∀ b ∈ moments, Quantity.HasFiniteDelay a b)
    (h : Made (Quantity.Reachable moments) charDelay header task) :
    IsReplayed charDelay (.task header task) := by
  obtain ⟨inputs, hinputs, htypes, hstrokes⟩ := h.task.exists_inputs
  have hof : inputsOf (.task header task) = inputs := by
    unfold inputsOf
    dsimp only
    rw [hinputs, Option.getD_some]
  refine ⟨h.settled, fun lookup place hteam => ?_, ?_, ?_⟩
  · rw [hof]
    exact Run.makes_runAction hteam lookup place hinputs h.enabled (h.exists_seconds hdelays)
      h.task.isWritable_shownNumbers
  · rwa [hof]
  · rw [hof]
    exact hstrokes header

/-! ## The law -/

variable {τ : Type} [Timeline τ]

/-- **Calls are replayed as strokes**: they all end well, what is recorded is read back from its
documents as it was, and running it makes input of these strokes, in which no text is empty and
every text has the delay of the settings. -/
def ReplaysAs (capture : Capture τ) (begin : τ) (calls : List (CaptureCall τ))
    (strokes : List Stroke) : Prop :=
  ∃ lists after, (capture.start begin).step (calls.mapM CaptureCall.run) = (.ok lists, after)
    ∧ (∀ supply, Action.readAll supply [] 0 (Action.toJsons after.recorded) = .ok after.recorded)
    ∧ ∃ inputs, inputs.flatMap Input.strokes = strokes
      ∧ TypesWell capture.settings.charDelay inputs
      ∧ ∀ {ω : Type} (team : Collaborators ω) (lookup : Option (Lookup ω)), team.IsReliable →
        (Run.runActions team lookup [] 0 after.recorded).Makes inputs

/-- Actions that are replayed one by one are replayed together. -/
theorem replaysAs_of_isReplayed {capture after : Capture τ} {begin : τ}
    {calls : List (CaptureCall τ)} {lists : List (List Action)}
    (hstep : (capture.start begin).step (calls.mapM CaptureCall.run) = (.ok lists, after))
    (h : ∀ action ∈ after.recorded, IsReplayed capture.settings.charDelay action) :
    capture.ReplaysAs begin calls
      ((after.recorded.flatMap Contribution.ofAction).flatMap Contribution.strokes) := by
  refine ⟨lists, after, hstep, fun supply => ?_, after.recorded.flatMap inputsOf, ?_, ?_,
    fun team lookup hteam => ?_⟩
  · have hsettled : Action.AllSettled 1 after.recorded :=
      Action.allSettled_of_forall fun action haction => (h action haction).settled
    exact hsettled.readAll supply [] (Action.allWrittenAs_toJsons after.recorded) 0
  · rw [List.flatMap_assoc, List.flatMap_assoc]
    exact List.flatMap_congr fun action haction => (h action haction).strokes
  · intro text delay hmem
    obtain ⟨action, haction, htext⟩ := List.mem_flatMap.1 hmem
    exact (h action haction).types text delay htext
  · exact Run.makes_runActions
      (fun action haction place => (h action haction).makes lookup place hteam) [] 0

/-- There is one way in which calls are replayed. -/
theorem ReplaysAs.unique {capture : Capture τ} {begin : τ} {calls : List (CaptureCall τ)}
    {strokes strokes' : List Stroke} (h : capture.ReplaysAs begin calls strokes)
    (h' : capture.ReplaysAs begin calls strokes') : strokes = strokes' := by
  obtain ⟨lists, after, hstep, -, inputs, rfl, -, hmakes⟩ := h
  obtain ⟨lists', after', hstep', -, inputs', rfl, -, hmakes'⟩ := h'
  rw [hstep] at hstep'
  cases hstep'
  rw [(hmakes withCalmDevices none isReliable_withCalmDevices).unique
    (hmakes' withCalmDevices none isReliable_withCalmDevices) (m := .initial () .empty) rfl]

/-- Calls of which one fails are not replayed. -/
theorem not_replaysAs {capture : Capture τ} {begin : τ} {calls : List (CaptureCall τ)}
    {cause : Cause} {after : Capture τ}
    (h : (capture.start begin).step (calls.mapM CaptureCall.run) = (.error cause, after))
    (strokes : List Stroke) : ¬capture.ReplaysAs begin calls strokes := by
  rintro ⟨lists, last, hstep, -⟩
  rw [h] at hstep
  cases hstep

/-- **Calls that end a recording are replayed as the strokes of what they report.** -/
theorem replaysAs_of_delays {capture : Capture Quantity} {begin : Quantity}
    {calls : List (CaptureCall Quantity)} (hends : ∃ ending, CaptureCall.stop ending ∈ calls)
    {quiet : Binary64} (hquiet : capture.settings.quiet = .real quiet)
    (hfinite : quiet.isFinite = true) (hsign : 0 ≤ quiet.value)
    (hdelays : ∀ a ∈ begin :: calls.map CaptureCall.time,
      ∀ b ∈ begin :: calls.map CaptureCall.time, Quantity.HasFiniteDelay a b)
    (hwritable : ∀ event ∈ CaptureCall.heard calls, event.IsWritable) :
    capture.ReplaysAs begin calls
      (Stroke.ofReports capture.settings.layout .none (CaptureCall.heard calls)) := by
  have hsteady := Quantity.steady_reachable hdelays hfinite hsign
  rw [← hquiet] at hsteady
  have hreachable : ∀ a ∈ begin :: calls.map CaptureCall.time, Quantity.Reachable _ a :=
    fun a ha => Quantity.reachable_of_mem hdelays ha
  have hsound : (capture.start begin).Sound _ :=
    sound_start hsteady (hreachable begin List.mem_cons_self)
  obtain ⟨lists, after, hstep, hgrows, hsettled⟩ := delivers_calls_settled calls hsound rfl
    (fun call hcall => hreachable _ (List.mem_cons_of_mem _ (List.mem_map_of_mem hcall))) hwritable
  have hrecorded : after.recorded = lists.flatten := hgrows.recorded
  -- Nothing waits at the end, so what is recorded holds all that was reported.
  have hwaiting : after.waiting = [] := by
    unfold waiting pendingText
    rw [hsettled hends]
    rfl
  have hcontent : after.recorded.flatMap Contribution.ofAction
      = Contribution.ofReports capture.settings.layout .none (CaptureCall.heard calls) := by
    rw [hrecorded, ← List.append_nil (lists.flatten.flatMap _), ← hwaiting]
    exact hgrows.content
  rw [← strokes_ofReports, ← hcontent]
  refine replaysAs_of_isReplayed hstep fun action haction => ?_
  rw [hrecorded] at haction
  obtain ⟨header, task, rfl, hmade⟩ := hgrows.made action haction
  exact hmade.isReplayed hdelays

/-- **A recording is replayed as it was reported.** -/
theorem replays_reports (capture : Capture Quantity) (begin : Quantity)
    (calls : List (CaptureCall Quantity)) (hends : ∃ ending, CaptureCall.stop ending ∈ calls)
    {interval : Int} {quiet : Binary64} (hinterval : Pause.seconds interval = .ok quiet)
    (hquiet : capture.settings.quiet = .real quiet)
    (hdelays : ∀ a ∈ begin :: calls.map CaptureCall.time,
      ∀ b ∈ begin :: calls.map CaptureCall.time, Quantity.HasFiniteDelay a b)
    (hwritable : ∀ event ∈ CaptureCall.heard calls, event.IsWritable) :
    capture.ReplaysAs begin calls
      (Stroke.ofReports capture.settings.layout .none (CaptureCall.heard calls)) := by
  obtain ⟨hfinite, hsign⟩ := Quantity.seconds_finite hinterval
  exact replaysAs_of_delays hends hquiet hfinite hsign hdelays hwritable

/-- The strokes of the mixed calls: shift is held all the time after it went down. -/
def mixedStrokes : List Stroke :=
  [.character 'h', .character '!', .input (.pressCombination ["LeftCtrl", "LeftShift", "C"]),
    .input (.scroll 7 (-8) (-120))]

theorem replays_reports_mixed :
    (∃ ending, CaptureCall.stop ending ∈ mixedCalls)
    ∧ Pause.seconds 750 = .ok (Binary64.div (.ofInt 750) (.ofInt 1000))
    ∧ usual.settings.quiet = .real (Binary64.div (.ofInt 750) (.ofInt 1000))
    ∧ (∀ a ∈ .whole 0 :: mixedCalls.map CaptureCall.time,
      ∀ b ∈ .whole 0 :: mixedCalls.map CaptureCall.time, Quantity.HasFiniteDelay a b)
    ∧ (∀ event ∈ CaptureCall.heard mixedCalls, event.IsWritable)
    ∧ usual.ReplaysAs (.whole 0) mixedCalls mixedStrokes := by
  have hends : ∃ ending, CaptureCall.stop ending ∈ mixedCalls :=
    ⟨.real (.ofInt 6), by simp [mixedCalls]⟩
  have hinterval : Pause.seconds 750 = .ok (Binary64.div (.ofInt 750) (.ofInt 1000)) := by rfl
  have hdelays : ∀ a ∈ Quantity.whole 0 :: mixedCalls.map CaptureCall.time,
      ∀ b ∈ Quantity.whole 0 :: mixedCalls.map CaptureCall.time, Quantity.HasFiniteDelay a b := by
    decide +kernel
  have hwritable : ∀ event ∈ CaptureCall.heard mixedCalls, event.IsWritable := by decide
  have hstrokes : Stroke.ofReports usual.settings.layout .none (CaptureCall.heard mixedCalls)
      = mixedStrokes := by decide +kernel
  refine ⟨hends, hinterval, rfl, hdelays, hwritable, ?_⟩
  rw [← hstrokes]
  exact replays_reports usual (.whole 0) mixedCalls hends hinterval rfl hdelays hwritable

/-! ## Where a replay differs -/

/-- A shortcut whose main key has no name. -/
def namelessShortcut : List (CaptureCall Quantity) :=
  [.handle (.key ⟨"LeftCtrl", true, .real (.ofInt 0)⟩),
    .handle (.key ⟨"", true, .real (.ofInt 0)⟩), .stop (.real (.ofInt 0))]

/-- The shortcut is replayed as its modifier alone. -/
theorem replaysAs_namelessShortcut :
    usual.ReplaysAs (.real (.ofInt 0)) namelessShortcut
      [.input (.pressCombination ["LeftCtrl"])] := by
  have hends : ∃ ending, CaptureCall.stop ending ∈ namelessShortcut :=
    ⟨.real (.ofInt 0), by simp [namelessShortcut]⟩
  have hinterval : Pause.seconds 750 = .ok (Binary64.div (.ofInt 750) (.ofInt 1000)) := by rfl
  have hdelays : ∀ a ∈ Quantity.real (.ofInt 0) :: namelessShortcut.map CaptureCall.time,
      ∀ b ∈ Quantity.real (.ofInt 0) :: namelessShortcut.map CaptureCall.time,
        Quantity.HasFiniteDelay a b := by
    decide +kernel
  have hstrokes : Stroke.ofReports usual.settings.layout .none (CaptureCall.heard namelessShortcut)
      = [.input (.pressCombination ["LeftCtrl"])] := by decide +kernel
  obtain ⟨hfinite, hsign⟩ := Quantity.seconds_finite hinterval
  rw [← hstrokes]
  exact replaysAs_of_delays hends rfl hfinite hsign hdelays (by decide)

/-- **A replay leaves out a main key without a name**, and there is none at all beyond doubles and
beyond what can be written, although no time passes. -/
theorem replay_differs_beyond_limits :
    ¬usual.ReplaysAs (.real (.ofInt 0)) namelessShortcut
        [.input (.pressCombination ["LeftCtrl", Key.normalize ""])]
    ∧ (∀ strokes, ¬usual.ReplaysAs (.whole (10 ^ 400))
        [.handle (.key ⟨"A", true, .whole (10 ^ 400)⟩), .poll (.whole (10 ^ 400)),
          .stop (.whole (10 ^ 400))] strokes)
      ∧ Timeline.milliseconds (Quantity.whole (10 ^ 400)) (.whole (10 ^ 400)) = .ok 0
    ∧ (∀ strokes, ¬usual.ReplaysAs (.whole 0)
        [.handle (.mouse ⟨10 ^ 4300, 0, "left", .whole 0, 0⟩), .stop (.whole 0)] strokes)
      ∧ Timeline.milliseconds (Quantity.whole 0) (.whole 0) = .ok 0 := by
  refine ⟨fun h => ?_, not_replaysAs (step_distant toDouble_distant _), milliseconds_distant,
    not_replaysAs (step_vast not_isWritable_vast _ _), rfl⟩
  have hstrokes := h.unique replaysAs_namelessShortcut
  revert hstrokes
  decide +kernel

end Capture
end DesktopMacro
