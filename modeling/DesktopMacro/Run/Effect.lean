/-
What a collaborator does.

An `Effect` changes the world that the collaborators share. It comes back with a result or a
failure, with what could be seen of it, and with the word whether the run was cancelled meanwhile.
Effects follow one another until one fails; what was seen and done up to there stays.
-/
import DesktopMacro.Run.Event
import DesktopMacro.Run.Failure

set_option autoImplicit false

namespace DesktopMacro

/-- What comes back from a collaborator: a result or a failure, what could be seen of it, whether
the run was cancelled meanwhile, and the world afterwards. -/
structure Reply (ω α : Type) where
  result : Except Failure α
  events : List Event
  cancels : Bool
  world : ω

/-- Something that a collaborator does in a world. -/
def Effect (ω α : Type) := ω → Reply ω α

namespace Effect

variable {ω α β : Type}

/-- Nothing is done, and this is the result. -/
def done (a : α) : Effect ω α := fun world => ⟨.ok a, [], false, world⟩

/-- One effect after another. -/
def andThen (effect : Effect ω α) (next : α → Effect ω β) : Effect ω β := fun world =>
  let first := effect world
  match first.result with
  | .error failure => ⟨.error failure, first.events, first.cancels, first.world⟩
  | .ok a =>
    let second := next a first.world
    ⟨second.result, first.events ++ second.events, first.cancels || second.cancels, second.world⟩

instance : Monad (Effect ω) where
  pure := done
  bind := andThen

/-- A failure. -/
def fail (failure : Failure) : Effect ω α := fun world => ⟨.error failure, [], false, world⟩

/-- Something that can be seen. -/
def see (event : Event) : Effect ω Unit := fun world => ⟨.ok (), [event], false, world⟩

/-- The run is cancelled. -/
def cancel : Effect ω Unit := fun world => ⟨.ok (), [], true, world⟩

/-- The world as it is. -/
def world : Effect ω ω := fun world => ⟨.ok world, [], false, world⟩

/-- The world is changed. -/
def change (step : ω → ω) : Effect ω Unit := fun world => ⟨.ok (), [], false, step world⟩

/-- The result of an effect, whatever it is. -/
def outcome (effect : Effect ω α) : Effect ω (Except Failure α) := fun world =>
  let reply := effect world
  ⟨.ok reply.result, reply.events, reply.cancels, reply.world⟩

/-- A result that needs no world. -/
def ofExcept (result : Except Cause α) : Effect ω α :=
  match result with
  | .ok a => done a
  | .error cause => fail (.failed cause none)

/-- Takes a note. -/
def note (level : Level) (text : String) : Effect ω Unit := see (.logged ⟨level, text⟩)

end Effect
end DesktopMacro
