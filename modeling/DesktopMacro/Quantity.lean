/-
Numbers as they are given: whole ones, doubles, and truth values that count as one or zero.

Arithmetic on whole numbers is exact. As soon as a double takes part, the whole numbers become
doubles too, which fails for those that are too large. Comparing is always exact.
-/
import DesktopMacro.Cause

set_option autoImplicit false

namespace DesktopMacro

/-- The double nearest to a whole number, if there is a finite one. -/
def Binary64.ofInt? (n : Int) : Except Cause Binary64 :=
  let x := Binary64.ofInt n
  if x.isFinite then .ok x else .error .beyondDouble

/-- A number as it is given. -/
inductive Quantity where
  | whole (n : Int)
  | truth (b : Bool)
  | real (x : Binary64)
deriving DecidableEq, Repr

namespace Quantity

/-- The quantity that a value is, if it is one. -/
def ofJson? : Json → Option Quantity
  | .int n => some (whole n)
  | .bool b => some (truth b)
  | .float x => some (real x)
  | _ => none

/-- The quantity that a value is; nothing can be counted with any other value. -/
def read (raw : Json) : Except Cause Quantity :=
  match ofJson? raw with
  | some q => .ok q
  | none => .error (.wrongType s!"a number is needed, not a value of type {raw.kindName}")

/-- A quantity as a document holds it. -/
def toJson : Quantity → Json
  | whole n => .int n
  | truth b => .bool b
  | real x => .float x

/-- The whole number that a quantity stands for, unless it is a double. -/
def wholeNumber? : Quantity → Option Int
  | whole n => some n
  | truth b => some (if b then 1 else 0)
  | real _ => none

/-- A quantity as a double. -/
def toDouble : Quantity → Except Cause Binary64
  | whole n => Binary64.ofInt? n
  | truth b => .ok (.ofInt (if b then 1 else 0))
  | real x => .ok x

/-! ## Arithmetic -/

/-- An operation that is done on whole numbers or else on doubles. -/
def combine (onWhole : Int → Int → Int) (onReal : Binary64 → Binary64 → Binary64)
    (a b : Quantity) : Except Cause Quantity :=
  match a.wholeNumber?, b.wholeNumber? with
  | some m, some n => .ok (whole (onWhole m n))
  | _, _ => do return real (onReal (← a.toDouble) (← b.toDouble))

/-- The sum. -/
def add (a b : Quantity) : Except Cause Quantity := combine (· + ·) Binary64.add a b

/-- The difference. -/
def sub (a b : Quantity) : Except Cause Quantity := combine (· - ·) Binary64.sub a b

/-- The product. -/
def mul (a b : Quantity) : Except Cause Quantity := combine (· * ·) Binary64.mul a b

/-! ## Whole numbers from quantities -/

/-- The whole number that is left without the fraction. -/
def truncate : Quantity → Except Cause Int
  | whole n => .ok n
  | truth b => .ok (if b then 1 else 0)
  | real x => x.truncate.mapError Cause.ofWhole

/-- The nearest whole number, a tie going to the even one. -/
def round : Quantity → Except Cause Int
  | whole n => .ok n
  | truth b => .ok (if b then 1 else 0)
  | real x => x.round.mapError Cause.ofWhole

/-! ## Order -/

/-- How a double that is a number compares with a whole number. -/
def compareReal (x : Binary64) (n : Int) : Ordering :=
  if x.isInfinite then if x.isNegative then .lt else .gt
  else
    let (num, den) := x.toRatio
    compare num (n * Int.ofNat den)

/-- Less; never true of what is no number. -/
def lt (a b : Quantity) : Bool :=
  match a, b with
  | real x, real y => x.lt y
  | real x, b => !x.isNaN && compareReal x (b.wholeNumber?.getD 0) == .lt
  | a, real y => !y.isNaN && compareReal y (a.wholeNumber?.getD 0) == .gt
  | a, b => decide (a.wholeNumber?.getD 0 < b.wholeNumber?.getD 0)

/-- Less or equal; never true of what is no number. -/
def le (a b : Quantity) : Bool :=
  match a, b with
  | real x, real y => x.le y
  | real x, b => !x.isNaN && compareReal x (b.wholeNumber?.getD 0) != .gt
  | a, real y => !y.isNaN && compareReal y (a.wholeNumber?.getD 0) != .lt
  | a, b => decide (a.wholeNumber?.getD 0 ≤ b.wholeNumber?.getD 0)

end Quantity
end DesktopMacro
