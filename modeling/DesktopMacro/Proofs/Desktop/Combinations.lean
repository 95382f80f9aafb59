/-
What the keyboard is told when keys are pressed together.

The keyboard controller may break at any key, both when it goes down and when it comes up again, and
the wait in between may be interrupted. So it is noted here what the devices of a desktop are told,
and whether that worked. Keys go down one after the other until one does not, and those that went
down are released again, last one first, until one does not come up.

A release that breaks ends the clean-up, though: keys that went down before that one stay down.
-/
import Mathlib.Data.List.Basic
import DesktopMacro.Desktop.Injector

set_option autoImplicit false

namespace DesktopMacro

/-! ## Watched desktops -/

/-- Something that a device was told, and whether it worked. -/
structure Told where
  call : DeviceCall
  worked : Bool
deriving DecidableEq, Repr

namespace Told

/-- The key that went down, if one did. -/
def pressed? : Told → Option KeySymbol
  | ⟨.pressKey symbol, true⟩ => some symbol
  | _ => none

/-- The key that was to be released, if one was. -/
def release? : Told → Option KeySymbol
  | ⟨.releaseKey symbol, _⟩ => some symbol
  | _ => none

end Told

variable {ω α β : Type}

/-- What comes back where it is noted what the devices were told. -/
def Reply.noting (reply : Reply ω α) (told : List Told) : Reply (ω × List Told) α :=
  ⟨reply.result, reply.events, reply.cancels, (reply.world, told)⟩

/-- **A desktop that is watched**: it is noted what its devices are told, and whether that
worked. -/
def Desktop.watched (desktop : Desktop ω) : Desktop (ω × List Told) :=
  { desktop with
    tell := fun call (world, told) =>
      let reply := desktop.tell call world
      reply.noting (told ++ [⟨call, reply.result.isOk⟩])
    paste := fun (world, told) => (desktop.paste world).noting told
    wait := fun duration (world, told) => (desktop.wait duration world).noting told }

namespace Effect

/-- **What an effect comes to, and what the devices are told**, where the second effect is the first
one watched: both come to the same, and the notes grow by what is told. -/
structure Tells (effect : Effect ω α) (watched : Effect (ω × List Told) α) (world : ω)
    (said : List Told) (result : Except Failure α) (after : ω) : Prop where
  result : (effect world).result = result
  after : (effect world).world = after
  noted : ∀ told, watched (world, told) = (effect world).noting (told ++ said)

variable {effect : Effect ω α} {watched : Effect (ω × List Told) α} {world after : ω}
  {said : List Told}

theorem tells_pure (a : α) (world : ω) :
    Tells (pure a) (pure a) world [] (.ok a) world :=
  ⟨rfl, rfl, fun told => by rw [List.append_nil]; rfl⟩

theorem tells_fail (failure : Failure) (world : ω) :
    Tells (fail failure : Effect ω α) (fail failure) world [] (.error failure) world :=
  ⟨rfl, rfl, fun told => by rw [List.append_nil]; rfl⟩

/-- One effect after another: what is told by both is told. -/
theorem Tells.bind {a : α} (h : Tells effect watched world said (.ok a) after)
    {next : α → Effect ω β} {next' : α → Effect (ω × List Told) β} {more : List Told}
    {result : Except Failure β} {last : ω} (h' : Tells (next a) (next' a) after more result last) :
    Tells (effect >>= next) (watched >>= next') world (said ++ more) result last := by
  refine ⟨?_, ?_, fun told => ?_⟩
  · change (andThen effect next world).result = result
    simp only [andThen, h.result, h.after, h'.result]
  · change (andThen effect next world).world = last
    simp only [andThen, h.result, h.after, h'.after]
  · change andThen watched next' (world, told) = (andThen effect next world).noting _
    simp only [andThen, h.noted, Reply.noting, h.result, h.after, h'.noted, List.append_assoc]

/-- An effect, and then one that tells nothing. -/
theorem Tells.ends {a : α} (h : Tells effect watched world said (.ok a) after)
    {next : α → Effect ω β} {next' : α → Effect (ω × List Told) β} {result : Except Failure β}
    {last : ω} (h' : Tells (next a) (next' a) after [] result last) :
    Tells (effect >>= next) (watched >>= next') world said result last := by
  rw [← List.append_nil said]
  exact h.bind h'

/-- An effect that fails ends what was to follow it. -/
theorem Tells.bind_error {failure : Failure}
    (h : Tells effect watched world said (.error failure) after) (next : α → Effect ω β)
    (next' : α → Effect (ω × List Told) β) :
    Tells (effect >>= next) (watched >>= next') world said (.error failure) after := by
  refine ⟨?_, ?_, fun told => ?_⟩
  · change (andThen effect next world).result = _
    simp only [andThen, h.result]
  · change (andThen effect next world).world = after
    simp only [andThen, h.result, h.after]
  · change andThen watched next' (world, told) = (andThen effect next world).noting _
    simp only [andThen, h.noted, Reply.noting, h.result]

/-- The result of an effect, whatever it is. -/
theorem Tells.outcome {result : Except Failure α}
    (h : Tells effect watched world said result after) :
    Tells (outcome effect) (outcome watched) world said (.ok result) after := by
  refine ⟨congrArg Except.ok h.result, h.after, fun told => ?_⟩
  simp only [Effect.outcome, h.noted, Reply.noting]

end Effect

namespace Desktop

open Effect

variable (desktop : Desktop ω)

theorem tells_tell (call : DeviceCall) (world : ω) :
    Tells (desktop.tell call) (desktop.watched.tell call) world
      [⟨call, (desktop.tell call world).result.isOk⟩] (desktop.tell call world).result
      (desktop.tell call world).world :=
  ⟨rfl, rfl, fun _ => rfl⟩

theorem tells_wait (duration : Binary64) (world : ω) :
    Tells (desktop.wait duration) (desktop.watched.wait duration) world []
      (desktop.wait duration world).result (desktop.wait duration world).world :=
  ⟨rfl, rfl, fun told => by rw [List.append_nil]; rfl⟩

/-! ## Keys one after the other -/

/-- **Keys go down until one does not**, or until the wait after one is interrupted. -/
theorem exists_pressAll (held symbols : List KeySymbol) (world : ω) :
    ∃ pressed refused untried failure after, symbols = pressed ++ Option.toList refused ++ untried
      ∧ (failure = none → refused = none ∧ untried = [])
      ∧ Tells (desktop.pressAll held symbols) (desktop.watched.pressAll held symbols) world
        (pressed.map (fun symbol => ⟨.pressKey symbol, true⟩)
          ++ (Option.toList refused).map (fun symbol => ⟨.pressKey symbol, false⟩))
        (.ok (pressed.reverse ++ held, failure)) after := by
  induction symbols generalizing held world with
  | nil => exact ⟨[], none, [], none, world, rfl, fun _ => ⟨rfl, rfl⟩, tells_pure _ world⟩
  | cons symbol symbols ih =>
    have hpress := (desktop.tells_tell (.pressKey symbol) world).outcome
    cases hpressed : (desktop.tell (.pressKey symbol) world).result with
    | error failure =>
      rw [hpressed] at hpress
      exact ⟨[], some symbol, symbols, some failure, _, rfl, nofun,
        hpress.bind (tells_pure (held, some failure) _)⟩
    | ok =>
      rw [hpressed] at hpress
      have hwait :=
        (desktop.tells_wait holdTime (desktop.tell (.pressKey symbol) world).world).outcome
      cases hwaited :
          (desktop.wait holdTime (desktop.tell (.pressKey symbol) world).world).result with
      | error failure =>
        rw [hwaited] at hwait
        exact ⟨[symbol], none, symbols, some failure, _, rfl, nofun,
          hpress.bind (hwait.bind (tells_pure (symbol :: held, some failure) _))⟩
      | ok =>
        rw [hwaited] at hwait
        obtain ⟨pressed, refused, untried, failure, after, rfl, hdone, htells⟩ :=
          ih (symbol :: held)
            (desktop.wait holdTime (desktop.tell (.pressKey symbol) world).world).world
        refine ⟨symbol :: pressed, refused, untried, failure, after, rfl, hdone, ?_⟩
        rw [List.reverse_cons, List.append_assoc pressed.reverse]
        exact hpress.bind (hwait.bind htells)

/-- **Keys come up until one does not.** -/
theorem exists_releaseAll (symbols : List KeySymbol) (world : ω) :
    ∃ released jammed stuck result after, symbols = released ++ Option.toList jammed ++ stuck
      ∧ (result = .ok () ↔ jammed = none) ∧ (jammed = none → stuck = [])
      ∧ Tells (desktop.releaseAll symbols) (desktop.watched.releaseAll symbols) world
        (released.map (fun symbol => ⟨.releaseKey symbol, true⟩)
          ++ (Option.toList jammed).map (fun symbol => ⟨.releaseKey symbol, false⟩))
        result after := by
  induction symbols generalizing world with
  | nil => exact ⟨[], none, [], .ok (), world, rfl, by simp, fun _ => rfl, tells_pure _ world⟩
  | cons symbol symbols ih =>
    have hrelease := desktop.tells_tell (.releaseKey symbol) world
    cases hreleased : (desktop.tell (.releaseKey symbol) world).result with
    | error failure =>
      rw [hreleased] at hrelease
      exact ⟨[], some symbol, symbols, .error failure, _, rfl, by simp, nofun,
        hrelease.bind_error _ _⟩
    | ok =>
      rw [hreleased] at hrelease
      obtain ⟨released, jammed, stuck, result, after, rfl, hresult, hdone, htells⟩ := ih
        (desktop.tell (.releaseKey symbol) world).world
      exact ⟨symbol :: released, jammed, stuck, result, after, rfl, hresult, hdone,
        hrelease.bind htells⟩

end Desktop

/-! ## Keys together -/

/-- **How keys that are pressed together fare**: which ones go down, which one does not, and which
ones are not tried after it; and of those that went down, which ones come up, which one does not,
and which ones stay down after it. -/
structure Handling where
  pressed : List KeySymbol
  refused : Option KeySymbol
  untried : List KeySymbol
  released : List KeySymbol
  jammed : Option KeySymbol
  stuck : List KeySymbol

namespace Handling

variable {handling : Handling} {symbols : List KeySymbol}

/-- What the keyboard is told. -/
def told (handling : Handling) : List Told :=
  (handling.pressed.map (fun symbol => ⟨.pressKey symbol, true⟩)
    ++ handling.refused.toList.map (fun symbol => ⟨.pressKey symbol, false⟩))
  ++ (handling.released.map (fun symbol => ⟨.releaseKey symbol, true⟩)
    ++ handling.jammed.toList.map (fun symbol => ⟨.releaseKey symbol, false⟩))

/-- **These are the keys that are handled**: they go down in their order, and come up in the reverse
one. None stays down unless one does not come up. -/
structure Of (handling : Handling) (symbols : List KeySymbol) : Prop where
  down : symbols = handling.pressed ++ handling.refused.toList ++ handling.untried
  up : handling.pressed.reverse = handling.released ++ handling.jammed.toList ++ handling.stuck
  stuck : handling.jammed = none → handling.stuck = []

/-- What went down can be read off what the keyboard is told. -/
theorem pressed_told : handling.told.filterMap Told.pressed? = handling.pressed := by
  simp [told, List.filterMap_append, List.filterMap_map, Function.comp_def, Told.pressed?]

/-- What was to be released can be read off, too. -/
theorem release_told :
    handling.told.filterMap Told.release? = handling.released ++ handling.jammed.toList := by
  simp [told, List.filterMap_append, List.filterMap_map, Function.comp_def, Told.release?,
    List.filterMap_none]

/-- A key that does not come up shows in what the keyboard is told. -/
theorem jammed_of_told (h : ∀ symbol, ⟨.releaseKey symbol, false⟩ ∉ handling.told) :
    handling.jammed = none := by
  cases hjammed : handling.jammed with
  | none => rfl
  | some symbol => exact absurd (by simp [told, hjammed]) (h symbol)

/-- If no key fails, all keys go down and come up again. -/
theorem Of.all (h : handling.Of symbols) (hrefused : handling.refused = none)
    (huntried : handling.untried = []) (hjammed : handling.jammed = none) :
    handling.pressed = symbols ∧ handling.released = symbols.reverse := by
  have hdown := h.down
  have hup := h.up
  rw [hrefused, huntried, Option.toList_none, List.append_nil, List.append_nil] at hdown
  rw [hjammed, h.stuck hjammed, Option.toList_none, List.append_nil, List.append_nil] at hup
  exact ⟨hdown.symm, by rw [hdown, hup]⟩

end Handling

namespace Desktop

open Effect

variable (desktop : Desktop ω)

/-- Keys that are held together are handled, and if all goes well, none of them fails. -/
theorem exists_holdTogether (symbols : List KeySymbol) (world : ω) :
    ∃ (handling : Handling) (result : Except Failure Unit) (after : ω), handling.Of symbols
      ∧ (result = .ok () → handling.refused = none ∧ handling.untried = [] ∧ handling.jammed = none)
      ∧ Tells (desktop.holdTogether symbols) (desktop.watched.holdTogether symbols) world
        handling.told result after := by
  obtain ⟨pressed, refused, untried, failure, between, rfl, hpressed, hpress⟩ :=
    desktop.exists_pressAll [] symbols world
  rw [List.append_nil] at hpress
  obtain ⟨released, jammed, stuck, result, after, hup, hresult, hstuck, hrelease⟩ :=
    desktop.exists_releaseAll pressed.reverse between
  refine ⟨⟨pressed, refused, untried, released, jammed, stuck⟩, ?_⟩
  cases result with
  | error fault =>
    exact ⟨.error fault, after, ⟨rfl, hup, hstuck⟩, nofun,
      hpress.bind (hrelease.bind_error _ _)⟩
  | ok =>
    -- The failure of a press is told only now that the keys are up.
    cases failure with
    | none =>
      obtain ⟨hrefused, huntried⟩ := hpressed rfl
      exact ⟨.ok (), after, ⟨rfl, hup, hstuck⟩, fun _ => ⟨hrefused, huntried, hresult.1 rfl⟩,
        hpress.bind (hrelease.ends (tells_pure () after))⟩
    | some failure =>
      exact ⟨.error failure, after, ⟨rfl, hup, hstuck⟩, nofun,
        hpress.bind (hrelease.ends (tells_fail failure after))⟩

/-- **Keys that are pressed together are cleaned up until one does not come up.** If all goes well,
all of them go down and come up again. In any case those that went down are released in the reverse
order, and nothing else is, but the keys that are left when a release breaks stay down. -/
def CleansUp (keys : List String) (symbols : List KeySymbol) (world : ω) : Prop :=
  ∃ (handling : Handling) (result : Except Failure Unit) (after : ω), handling.Of symbols
    ∧ Tells (desktop.pressCombination keys) (desktop.watched.pressCombination keys) world
      handling.told result after
    ∧ (result = .ok () → handling.pressed = symbols ∧ handling.released = symbols.reverse)
    ∧ (handling.told.filterMap Told.pressed?).reverse
      = handling.told.filterMap Told.release? ++ handling.stuck
    ∧ ((∀ symbol, ⟨.releaseKey symbol, false⟩ ∉ handling.told) → handling.stuck = [])

/-- A combination of keys that can be sent is handled, and if all goes well, none of them fails. -/
theorem exists_pressCombination (hkeyboard : desktop.hasKeyboard = true) {keys : List String}
    {symbols : List KeySymbol} (hkeys : keys.mapM (Key.symbol desktop.specials) = .ok symbols)
    (world : ω) :
    ∃ (handling : Handling) (result : Except Failure Unit) (after : ω), handling.Of symbols
      ∧ (result = .ok () → handling.refused = none ∧ handling.untried = [] ∧ handling.jammed = none)
      ∧ Tells (desktop.pressCombination keys) (desktop.watched.pressCombination keys) world
        handling.told result after := by
  cases keys with
  | nil =>
    cases hkeys
    exact ⟨⟨[], none, [], [], none, []⟩, .ok (), world, ⟨rfl, rfl, fun _ => rfl⟩,
      fun _ => ⟨rfl, rfl, rfl⟩, tells_pure () world⟩
  | cons key keys =>
    have hresolves : Tells (ofExcept ((key :: keys).mapM (Key.symbol desktop.specials)))
        (ofExcept ((key :: keys).mapM (Key.symbol desktop.watched.specials))) world []
        (.ok symbols) world := by
      change Tells (ofExcept ((key :: keys).mapM (Key.symbol desktop.specials)))
        (ofExcept ((key :: keys).mapM (Key.symbol desktop.specials))) world [] (.ok symbols) world
      rw [hkeys]
      exact tells_pure symbols world
    obtain ⟨handling, result, after, hof, hdone, htells⟩ :=
      desktop.exists_holdTogether symbols world
    refine ⟨handling, result, after, hof, hdone, ?_⟩
    have hkeyboard' : desktop.watched.hasKeyboard = true := hkeyboard
    simp only [pressCombination, List.isEmpty_cons, Bool.false_eq_true, if_false, hkeyboard,
      hkeyboard', if_true]
    exact hresolves.bind htells

/-- **Every combination of keys that can be sent is cleaned up**, whatever fails. -/
theorem pressCombination_cleansUp (hkeyboard : desktop.hasKeyboard = true) {keys : List String}
    {symbols : List KeySymbol} (hkeys : keys.mapM (Key.symbol desktop.specials) = .ok symbols)
    (world : ω) : desktop.CleansUp keys symbols world := by
  obtain ⟨handling, result, after, hof, hdone, htells⟩ :=
    desktop.exists_pressCombination hkeyboard hkeys world
  refine ⟨handling, result, after, hof, htells, fun hresult => ?_, ?_, fun htold => ?_⟩
  · obtain ⟨hrefused, huntried, hjammed⟩ := hdone hresult
    exact hof.all hrefused huntried hjammed
  · rw [Handling.pressed_told, Handling.release_told, hof.up]
  · exact hof.stuck (Handling.jammed_of_told htold)

/-- A desktop with nothing but a keyboard, where telling it some of these things breaks. -/
def breakingAt (broken : List DeviceCall) : Desktop Unit where
  hasPointer := false
  hasKeyboard := true
  hasSpare := false
  expectsTypist := false
  hasTypist := false
  hasClipboard := false
  specials := Key.usualSpecials
  tell := fun call =>
    if broken.contains call then .fail (injectionFailure s!"{call.word} failed") else pure ()
  paste := pure ""
  wait := fun _ => pure ()

theorem pressCombination_cleansUp_refused :
    (breakingAt [.pressKey (.typed "v")]).hasKeyboard = true
    ∧ ["LeftCtrl", "LeftShift", "V"].mapM
        (Key.symbol (breakingAt [.pressKey (.typed "v")]).specials)
      = .ok [.special "ctrl_l", .special "shift_l", .typed "v"]
    ∧ (breakingAt [.pressKey (.typed "v")]).CleansUp ["LeftCtrl", "LeftShift", "V"]
      [.special "ctrl_l", .special "shift_l", .typed "v"] () := by
  have hkeys : ["LeftCtrl", "LeftShift", "V"].mapM
      (Key.symbol (breakingAt [.pressKey (.typed "v")]).specials)
      = .ok [.special "ctrl_l", .special "shift_l", .typed "v"] := by
    rfl
  exact ⟨rfl, hkeys, pressCombination_cleansUp _ rfl hkeys ()⟩

/-- **A key stays down where the one before it does not come up.** -/
theorem pressCombination_leaves_stuck :
    ∃ told, ((breakingAt [.releaseKey (.typed "c")]).watched.pressCombination ["LeftCtrl", "C"]
        ((), [])).world.2 = told
      ∧ told.filterMap Told.pressed? = [.special "ctrl_l", .typed "c"]
      ∧ told.filterMap Told.release? = [.typed "c"]
      ∧ told.filterMap Told.release? ≠ (told.filterMap Told.pressed?).reverse := by
  refine ⟨_, rfl, ?_, ?_, ?_⟩ <;> decide +kernel

end Desktop
end DesktopMacro
