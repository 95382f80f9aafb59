/-
Moments, and what the hooks report of them.

A recording needs little of its clock: the moment an interval later, which of two moments is before
the other, and the milliseconds between two of them. `Timeline` is that and no more, so a recording
can be run on seconds in doubles as well as on a clock that is exact.
-/
import DesktopMacro.Quantity

set_option autoImplicit false

namespace DesktopMacro

/-- Moments and intervals of one type. -/
class Timeline (τ : Type) where
  /-- The moment an interval after another. -/
  after : τ → τ → Except Cause τ
  /-- Is the first moment before the second? -/
  isBefore : τ → τ → Bool
  /-- The whole milliseconds from the first moment to the second. -/
  milliseconds : τ → τ → Except Cause Int

/-- Seconds in doubles; a half millisecond goes to the even neighbour. -/
instance : Timeline Binary64 where
  after := fun moment interval => .ok (moment.add interval)
  isBefore := Binary64.lt
  milliseconds := fun first second =>
    ((second.sub first).mul (.ofInt 1000)).round.mapError Cause.ofWhole

/-- Seconds as they are given. -/
instance : Timeline Quantity where
  after := Quantity.add
  isBefore := Quantity.lt
  milliseconds := fun first second => do
    (← (← second.sub first).mul (.whole 1000)).round

/-- A key goes down or up. -/
structure KeyEvent (τ : Type) where
  key : String
  down : Bool
  time : τ
deriving Repr

/-- A mouse button goes down, or the wheel turns by a delta that is not zero. -/
structure MouseEvent (τ : Type) where
  x : Int
  y : Int
  button : String
  time : τ
  wheel : Int
deriving Repr

/-- What a hook reports. -/
inductive InputEvent (τ : Type) where
  | key (event : KeyEvent τ)
  | mouse (event : MouseEvent τ)
deriving Repr

end DesktopMacro
