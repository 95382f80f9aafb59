/-
Pauses that a cancellation can end.

A pause is slept through in slices of at most a tenth of a second, and before and after every slice
the run looks whether it has been cancelled. The time left is counted down slice by slice, in
doubles, so the last slice can be a tiny one; or, where there is a clock, it is read off the clock
after every slice.

Counting down ends because the time left gets smaller with every slice. A pause so long that a slice
makes no difference to it would never end; it is given up after the slice.
-/
import DesktopMacro.Json.Conversion
import DesktopMacro.Quantity
import DesktopMacro.Run.Machine

set_option autoImplicit false

namespace DesktopMacro

namespace Pause

/-- The longest slice, a tenth of a second. -/
def longestSlice : Binary64 := Binary64.div (.ofInt 100) (.ofInt 1000)

/-- The seconds in a quantity of milliseconds; less than none is none. -/
def secondsIn (milliseconds : Quantity) : Except Cause Binary64 :=
  let milliseconds := if Quantity.lt (.whole 0) milliseconds then milliseconds else .whole 0
  milliseconds.toDouble.map (·.div (.ofInt 1000))

/-- The seconds in so many milliseconds; less than none is none. -/
def seconds (milliseconds : Int) : Except Cause Binary64 := secondsIn (.whole milliseconds)

/-- Is there time left? -/
def isLeft (remaining : Binary64) : Bool := (Binary64.zero false).lt remaining

/-- The next slice of the time left. -/
def slice (remaining : Binary64) : Binary64 := remaining.min longestSlice

theorem place_pos_of_isLeft {remaining : Binary64} (h : isLeft remaining = true) :
    0 < remaining.place := by
  have hzero : (Binary64.zero false).place = 0 := by decide
  simp only [isLeft, Binary64.lt, hzero, Bool.and_eq_true, decide_eq_true_eq] at h
  exact h.2

variable {ω : Type}

/-- Sleeps through the time left, counting it down. -/
def countDown (pause : Binary64 → Run ω Unit) (remaining : Binary64) : Run ω Unit :=
  if _left : isLeft remaining then do
    pause (slice remaining)
    Run.check
    if _progress : (remaining.sub (slice remaining)).place < remaining.place then
      countDown pause (remaining.sub (slice remaining))
    else pure ()
  else pure ()
termination_by remaining.place.toNat
decreasing_by
  have := place_pos_of_isLeft _left
  omega

/-- Sleeps until a clock shows the deadline, looking at it at most `looks` times. -/
def untilDeadline (pause : Binary64 → Run ω Unit) (clock : ω → Quantity) (deadline : Binary64) :
    (looks : Nat) → (remaining : Binary64) → Run ω Unit
  | 0, _ => pure ()
  | looks + 1, remaining =>
    if isLeft remaining then do
      pause (slice remaining)
      Run.check
      let now ← Run.ofExcept (clock (← get).world).toDouble
      untilDeadline pause clock deadline looks (deadline.sub now)
    else pure ()

/-- How a pause knows what is left of it. -/
inductive Timing (ω : Type) where
  | counted
  | clocked (clock : ω → Quantity) (looks : Nat)

/-- Sleeps for so many milliseconds. -/
def sleep (timing : Timing ω) (pause : Binary64 → Run ω Unit) (milliseconds : Int) :
    Run ω Unit := do
  Run.check
  let remaining ← Run.ofExcept (seconds milliseconds)
  match timing with
  | .counted => countDown pause remaining
  | .clocked clock looks =>
    let now ← Run.ofExcept (clock (← get).world).toDouble
    let deadline := now.add remaining
    untilDeadline pause clock deadline looks remaining
  Run.check

/-! ## Durations as they are given -/

/-- A number of milliseconds from a value; nothing is zero. -/
def millisecondsOf (raw : Json) : Except Cause Int := if raw.isEmpty then .ok 0 else raw.whole

/-- A number of milliseconds from a value in seconds. -/
def millisecondsOfSeconds (raw : Json) : Except Cause Int :=
  match raw with
  | .bool b => .ok (if b then 1000 else 0)
  | .int n => .ok (n * 1000)
  | .float x => (x.mul (.ofInt 1000)).truncate.mapError Cause.ofWhole
  | .text s =>
    let repeated := String.join (List.replicate 1000 s)
    (Integer.read repeated).mapError (Cause.ofInteger repeated)
  | raw => .error raw.notWhole

variable {ω : Type}

/-- Sleeps for a value in milliseconds, which a cancelled run does not look at. -/
def sleepMilliseconds (timing : Timing ω) (pause : Binary64 → Run ω Unit) (raw : Json) :
    Run ω Unit := do
  Run.check
  sleep timing pause (← Run.ofExcept (millisecondsOf raw))

/-- Sleeps for a value in seconds. -/
def sleepSeconds (timing : Timing ω) (pause : Binary64 → Run ω Unit) (raw : Json) :
    Run ω Unit := do
  sleep timing pause (← Run.ofExcept (millisecondsOfSeconds raw))

end Pause

/-- Sleeps for so many milliseconds with the pauses of a collaborator. -/
def Collaborators.sleep {ω : Type} (team : Collaborators ω) (milliseconds : Int) : Run ω Unit :=
  Pause.sleep .counted team.passSlice milliseconds

end DesktopMacro
