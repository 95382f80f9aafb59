/-
Double-precision numbers, as the 64 bits that stand for them.

A double is a sign, an exponent field of 11 bits and a fraction of 52 bits. Everything else is read
off the bits: the significand and the exponent whose product is the value, the order, and the exact
ratio of whole numbers that the double is equal to. Going back, `ofRatio` takes any ratio to the
nearest double, a tie going to the even one, which is all the rounding there is: every operation of
`DesktopMacro.Number.Arithmetic` computes the exact result first.
-/

set_option autoImplicit false

namespace DesktopMacro

/-- The powers of the core library. A module that computes with powers takes these, whichever
library is imported beside it. -/
@[reducible]
def corePower : Pow Nat Nat := instPowNat

attribute [local instance] corePower

/-- A double-precision number. -/
structure Binary64 where
  bits : UInt64
deriving DecidableEq, Repr

namespace Binary64

/-! ## The parts of a double -/

/-- The double with a sign and the 63 bits below it. -/
def ofParts (negative : Bool) (magnitude : Nat) : Binary64 :=
  ⟨UInt64.ofNat ((if negative then 2 ^ (63 : Nat) else 0) + magnitude)⟩

/-- Is the sign bit set? -/
def isNegative (x : Binary64) : Bool := 2 ^ (63 : Nat) ≤ x.bits.toNat

/-- The 63 bits below the sign; they grow with the absolute value. -/
def magnitude (x : Binary64) : Nat := x.bits.toNat % 2 ^ (63 : Nat)

/-- The exponent field. -/
def exponentField (x : Binary64) : Nat := x.magnitude / 2 ^ (52 : Nat)

/-- The fraction field. -/
def fraction (x : Binary64) : Nat := x.magnitude % 2 ^ (52 : Nat)

/-- The magnitude of the infinities; any larger one is no number. -/
def infiniteMagnitude : Nat := 2047 * 2 ^ (52 : Nat)

/-- The magnitude of the quiet double that is no number. -/
def quietMagnitude : Nat := infiniteMagnitude + 2 ^ (51 : Nat)

def isNaN (x : Binary64) : Bool := infiniteMagnitude < x.magnitude

def isInfinite (x : Binary64) : Bool := x.magnitude == infiniteMagnitude

def isFinite (x : Binary64) : Bool := x.magnitude < infiniteMagnitude

def isZero (x : Binary64) : Bool := x.magnitude == 0

def nan : Binary64 := ofParts false quietMagnitude

def infinity (negative : Bool) : Binary64 := ofParts negative infiniteMagnitude

/-- Zero with a sign. -/
def zero (negative : Bool) : Binary64 := ofParts negative 0

/-- The double with the other sign. -/
def neg (x : Binary64) : Binary64 := ofParts (!x.isNegative) x.magnitude

/-! ## The value -/

/-- The whole number that the power `2 ^ exponent` scales. -/
def significand (x : Binary64) : Nat :=
  if x.exponentField = 0 then x.fraction else x.fraction + 2 ^ (52 : Nat)

/-- The power of two that scales the significand. -/
def exponent (x : Binary64) : Int :=
  if x.exponentField = 0 then -1074 else Int.ofNat x.exponentField - 1075

/-- A finite double as a ratio of whole numbers, exactly: numerator with the sign, and
denominator. -/
def toRatio (x : Binary64) : Int × Nat :=
  let scaled := x.significand * 2 ^ x.exponent.toNat
  (if x.isNegative then -Int.ofNat scaled else Int.ofNat scaled, 2 ^ (-x.exponent).toNat)

/-! ## Order -/

/-- The place of a double on the number line: doubles compare as their places do, both zeros at the
same one. It says nothing about what is no number. -/
def place (x : Binary64) : Int :=
  if x.isNegative then -Int.ofNat x.magnitude else Int.ofNat x.magnitude

/-- At most; never true of what is no number. -/
def le (x y : Binary64) : Bool := !x.isNaN && !y.isNaN && x.place ≤ y.place

/-- Less; never true of what is no number. -/
def lt (x y : Binary64) : Bool := !x.isNaN && !y.isNaN && x.place < y.place

/-! ## Rounding -/

/-- A quotient rounded to the nearest whole number, a tie to the even one. -/
def roundDiv (num den : Nat) : Nat :=
  let quotient := num / den
  let twice := 2 * (num % den)
  if twice < den || (twice == den && quotient % 2 == 0) then quotient else quotient + 1

/-- The exponent `e` with `2 ^ e ≤ num / den < 2 ^ (e + 1)`, for a positive ratio. -/
def floorLog (num den : Nat) : Int :=
  let guess := Int.ofNat num.log2 - Int.ofNat den.log2
  if den * 2 ^ guess.toNat ≤ num * 2 ^ (-guess).toNat then guess else guess - 1

/-- The double nearest to a ratio with a sign, a tie going to the even significand; a ratio beyond
the largest double becomes infinite. -/
def ofRatio (negative : Bool) (num den : Nat) : Binary64 :=
  if num = 0 then zero negative
  else
    let unit := max (floorLog num den - 52) (-1074)
    let steps := roundDiv (num * 2 ^ (-unit).toNat) (den * 2 ^ unit.toNat)
    ofParts negative (min infiniteMagnitude ((unit + 1074).toNat * 2 ^ (52 : Nat) + steps))

/-- The double nearest to a whole number. -/
def ofInt (n : Int) : Binary64 := ofRatio (n < 0) n.natAbs 1

end Binary64
end DesktopMacro
