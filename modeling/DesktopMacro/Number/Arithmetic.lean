/-
Arithmetic on doubles: the exact result of an operation, rounded once.

What is no number spreads; infinities follow the usual rules; a sum that is exactly zero is the
positive zero unless both terms are negative zeros or negative.
-/
import DesktopMacro.Number.Binary64

set_option autoImplicit false

namespace DesktopMacro.Binary64

/-- The double nearest to a ratio of whole numbers; `zeroSign` is the sign of a zero. -/
def ofSignedRatio (zeroSign : Bool) (num : Int) (den : Nat) : Binary64 :=
  if num = 0 then zero zeroSign else ofRatio (num < 0) num.natAbs den

/-- The sum. -/
def add (x y : Binary64) : Binary64 :=
  if x.isNaN || y.isNaN then nan
  else if x.isInfinite then
    if y.isInfinite && x.isNegative != y.isNegative then nan else x
  else if y.isInfinite then y
  else
    let (a, b) := x.toRatio
    let (c, d) := y.toRatio
    ofSignedRatio (x.isNegative && y.isNegative) (a * Int.ofNat d + c * Int.ofNat b) (b * d)

/-- The difference. -/
def sub (x y : Binary64) : Binary64 := if y.isNaN then nan else add x y.neg

/-- The product. -/
def mul (x y : Binary64) : Binary64 :=
  let negative := x.isNegative != y.isNegative
  if x.isNaN || y.isNaN then nan
  else if x.isInfinite || y.isInfinite then
    if x.isZero || y.isZero then nan else infinity negative
  else
    let (a, b) := x.toRatio
    let (c, d) := y.toRatio
    ofSignedRatio negative (a * c) (b * d)

/-- The quotient by a divisor that is not zero. -/
def div (x y : Binary64) : Binary64 :=
  let negative := x.isNegative != y.isNegative
  if x.isNaN || y.isNaN || (x.isInfinite && y.isInfinite) then nan
  else if x.isInfinite then infinity negative
  else if y.isInfinite then zero negative
  else
    let (a, b) := x.toRatio
    let (c, d) := y.toRatio
    ofSignedRatio negative (Int.sign c * a * Int.ofNat d) (b * c.natAbs)

/-- The smaller of two doubles: the first, unless the second is less. -/
def min (x y : Binary64) : Binary64 := if y.lt x then y else x

/-! ## Whole numbers from doubles -/

/-- Why a double has no whole number. -/
inductive WholeFault where
  | infinite
  | notANumber
deriving DecidableEq, Repr

/-- The whole number between zero and a double that is nearest to the double. -/
def truncate (x : Binary64) : Except WholeFault Int :=
  if x.isNaN then .error .notANumber
  else if x.isInfinite then .error .infinite
  else
    let (num, den) := x.toRatio
    .ok (num.tdiv (Int.ofNat den))

/-- The nearest whole number, a tie going to the even one. -/
def round (x : Binary64) : Except WholeFault Int :=
  if x.isNaN then .error .notANumber
  else if x.isInfinite then .error .infinite
  else
    let (num, den) := x.toRatio
    .ok (num.sign * Int.ofNat (roundDiv num.natAbs den))

end DesktopMacro.Binary64
