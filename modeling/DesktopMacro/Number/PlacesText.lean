/-
Doubles as text with a given number of places: fixed, with an exponent, or whichever of the two is
shorter. The text is that of the exact value, rounded once, a tie to the even neighbour.
-/
import DesktopMacro.Number.Shortest

set_option autoImplicit false

attribute [local instance] DesktopMacro.corePower

namespace DesktopMacro.Binary64

/-- A number with at least so many digits. -/
def digitsOf (width n : Nat) : List Char :=
  let digits := Integer.digits n
  List.replicate (width - digits.length) '0' ++ digits

/-- Digits with a point before the last so many; without places there is one only on demand. -/
def withPoint (digits : List Char) (places : Nat) (demand : Bool) : List Char :=
  let whole := digits.length - places
  digits.take whole ++ (if places = 0 && !demand then [] else ['.']) ++ digits.drop whole

/-- A ratio times a power of ten, rounded. -/
def scaled (num den : Nat) (power : Int) : Nat :=
  if 0 ≤ power then roundDiv (num * 10 ^ power.toNat) den
  else roundDiv num (den * 10 ^ (-power).toNat)

/-- A ratio with fixed places. -/
def fixedText (num den places : Nat) (demand : Bool) : List Char :=
  withPoint (digitsOf (places + 1) (scaled num den (Int.ofNat places))) places demand

/-- The exponent of a ratio with one digit before the point and so many after it, and its digits. -/
def exponentDigits (num den places : Nat) : Int × List Char :=
  if num = 0 then (0, digitsOf (places + 1) 0)
  else
    let guess := decimalPlaces num den
    let candidates := [guess - 2, guess - 1, guess, guess + 1]
    let ends (exponent : Int) : Bool :=
      (Integer.digits (scaled num den (Int.ofNat places - exponent))).length ≤ places + 1
    let exponent := (candidates.find? ends).getD (guess + 1)
    (exponent, digitsOf (places + 1) (scaled num den (Int.ofNat places - exponent)))

/-- An exponent with its sign and two digits at least. -/
def exponentPart (exponent : Int) : List Char :=
  'e' :: (if exponent < 0 then '-' else '+') :: digitsOf 2 exponent.natAbs

/-- A ratio with an exponent. -/
def exponentForm (num den places : Nat) (demand : Bool) : List Char :=
  let (exponent, digits) := exponentDigits num den places
  withPoint digits places demand ++ exponentPart exponent

/-- Digits without the zeros at the end of their places. -/
def withoutTail (cs : List Char) : List Char :=
  if cs.contains '.' then
    let kept := (cs.reverse.dropWhile (· == '0')).reverse
    if kept.getLast? = some '.' then kept.dropLast else kept
  else cs

/-- A ratio with so many digits in all, in the shorter form; zeros at the end stay on demand. -/
def generalText (num den digits : Nat) (demand : Bool) : List Char :=
  let digits := Nat.max 1 digits
  let (exponent, _) := exponentDigits num den (digits - 1)
  if -4 ≤ exponent && exponent < Int.ofNat digits then
    let text := fixedText num den (Int.ofNat digits - 1 - exponent).toNat demand
    if demand then text else withoutTail text
  else
    let (_, text) := exponentDigits num den (digits - 1)
    let body := withPoint text (digits - 1) demand
    (if demand then body else withoutTail body) ++ exponentPart exponent

/-- The absolute value of a double as text, by the letter of the form. -/
def magnitudeText (x : Binary64) (form : Char) (places : Nat) (demand : Bool) : List Char :=
  if x.isNaN then ['n', 'a', 'n']
  else if x.isInfinite then ['i', 'n', 'f']
  else
    let (num, den) := x.toRatio
    match form with
    | 'e' => exponentForm num.natAbs den places demand
    | 'g' => generalText num.natAbs den places demand
    | _ => fixedText num.natAbs den places demand

end DesktopMacro.Binary64
